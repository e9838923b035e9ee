import LetterPacks.Pack.Bundle

/-!
# The packs

Every pack key has one descriptor.  The slots are stated here; the names of the rendered documents
follow from their types.
-/

namespace LetterPacks

/-- What distinguishes one pack from another: its family, its audience and its slots. -/
structure Contents where
  track : Track
  audience : Audience
  slots : List Slot
deriving DecidableEq, Repr

open Slot

def PackKey.contents : PackKey → Contents
  | .nopSoleApp1CitizenCs =>
      ⟨.divorce, .citizen, [
        rendered .noticeOfProceedingsApplicant1 .nopA1SoleApp1CitCs,
        rendered .application .divorceApplicationSole]⟩
  | .nopSoleApp1CitizenPs =>
      ⟨.divorce, .citizen, [
        rendered .noticeOfProceedingsApplicant1 .nopA2SoleApp1CitPs,
        rendered .application .divorceApplicationSole]⟩
  | .nopSoleApp1Solicitor =>
      ⟨.divorce, .solicitor, [
        rendered .noticeOfProceedingsApplicant1 .nopAs1SoleApp1SolCs,
        rendered .application .divorceApplicationSole]⟩
  | .nopSoleRespondentCitizen =>
      ⟨.divorce, .citizen, [
        rendered .noticeOfProceedingsApplicant2 .nopR1SoleApp2CitOnline,
        rendered .application .divorceApplicationSole]⟩
  | .nopSoleRespondentOffline =>
      ⟨.divorce, .citizen, [
        rendered .coversheet .coversheetApplicant,
        rendered .noticeOfProceedingsApplicant2 .nopR2SoleApp2CitOffline,
        rendered .application .divorceApplicationSole]⟩
  | .nopSoleRespondentOverseas =>
      ⟨.divorce, .citizen, [
        rendered .coversheet .coversheetApplicant,
        rendered .noticeOfProceedingsApplicant2 .nopR2SoleApp2CitOs,
        rendered .application .divorceApplicationSole]⟩
  | .nopSoleRespondentSolicitor =>
      ⟨.divorce, .solicitor, [
        rendered .noticeOfProceedingsApplicant2 .nopRs1SoleApp2SolOnline,
        rendered .application .divorceApplicationSole]⟩
  | .nopSoleRespondentSolicitorOffline =>
      ⟨.divorce, .solicitor, [
        rendered .coversheet .coversheetSolicitor,
        rendered .noticeOfProceedingsApplicant2 .nopRs2SoleApp2SolOffline,
        rendered .application .divorceApplicationSole]⟩
  | .nopJointApp1Citizen =>
      ⟨.divorce, .citizen, [
        rendered .noticeOfProceedingsApplicant1 .nopJa1JointApp1app2Cit,
        rendered .application .divorceApplicationJoint]⟩
  | .nopJointApp2Citizen =>
      ⟨.divorce, .citizen, [
        rendered .noticeOfProceedingsApplicant2 .nopJa1JointApp1app2Cit,
        rendered .application .divorceApplicationJoint]⟩
  | .nopJointApp2CitizenOffline =>
      ⟨.divorce, .citizen, [
        rendered .coversheet .coversheetApplicant,
        rendered .noticeOfProceedingsApplicant2 .nopJa2JointApp2CitOffline,
        rendered .application .divorceApplicationJoint]⟩
  | .nopJointApp1Solicitor =>
      ⟨.divorce, .solicitor, [
        rendered .noticeOfProceedingsApplicant1 .nopAs2JointApp1app2Sol,
        rendered .application .divorceApplicationJoint]⟩
  | .nopJointApp2Solicitor =>
      ⟨.divorce, .solicitor, [
        rendered .noticeOfProceedingsApplicant2 .nopAs2JointApp1app2Sol,
        rendered .application .divorceApplicationJoint]⟩
  | .nopJsSoleApp1CitizenCs =>
      ⟨.judicialSeparation, .citizen, [
        rendered .noticeOfProceedingsApplicant1 .nopJsSoleApp1CitCs,
        rendered .application .divorceApplicationSole]⟩
  | .nopJsSoleApp1CitizenPs =>
      ⟨.judicialSeparation, .citizen, [
        rendered .noticeOfProceedingsApplicant1 .nopJsSoleApp1CitPs,
        rendered .application .divorceApplicationSole]⟩
  | .nopJsSoleApp1Solicitor =>
      ⟨.judicialSeparation, .solicitor, [
        rendered .noticeOfProceedingsApplicant1 .nopJsSoleApp1Sol,
        rendered .application .divorceApplicationSole]⟩
  | .nopJsSoleRespondentCitizen =>
      ⟨.judicialSeparation, .citizen, [
        rendered .coversheet .coversheetApplicant,
        rendered .noticeOfProceedingsApplicant2 .nopJsSoleRespCit,
        rendered .application .divorceApplicationSole]⟩
  | .nopJsSoleRespondentSolicitor =>
      ⟨.judicialSeparation, .solicitor, [
        rendered .noticeOfProceedingsApplicant2 .nopJsSoleRespSol,
        rendered .application .divorceApplicationSole]⟩
  | .nopJsJointApp1Citizen =>
      ⟨.judicialSeparation, .citizen, [
        rendered .noticeOfProceedingsApplicant1 .nopJsJointCit,
        rendered .application .divorceApplicationJoint]⟩
  | .nopJsJointApp2Citizen =>
      ⟨.judicialSeparation, .citizen, [
        rendered .noticeOfProceedingsApplicant2 .nopJsJointCit,
        rendered .application .divorceApplicationJoint]⟩
  | .nopJsJointApp1Solicitor =>
      ⟨.judicialSeparation, .solicitor, [
        rendered .noticeOfProceedingsApplicant1 .nopJsJointSol,
        rendered .application .divorceApplicationJoint]⟩
  | .nopJsJointApp2Solicitor =>
      ⟨.judicialSeparation, .solicitor, [
        rendered .noticeOfProceedingsApplicant2 .nopJsJointSol,
        rendered .application .divorceApplicationJoint]⟩
  | .aosOverdue =>
      ⟨.divorce, .citizen, [
        rendered .coversheet .coversheetApplicant,
        rendered .aosOverdueLetter .aosOverdueLetter]⟩
  | .aosOverdueJs =>
      ⟨.judicialSeparation, .citizen, [
        rendered .coversheet .coversheetApplicant,
        rendered .aosOverdueLetter .aosOverdueJsLetter]⟩
  | .aosResponseDisputed =>
      ⟨.divorce, .citizen, [
        rendered .coversheet .coversheetApplicant,
        rendered .aosResponseLetter .aosResponseDisputed]⟩
  | .aosResponseUndisputed =>
      ⟨.divorce, .citizen, [
        rendered .coversheet .coversheetApplicant,
        rendered .aosResponseLetter .aosResponseUndisputed]⟩
  | .aosResponseJsDisputed =>
      ⟨.judicialSeparation, .citizen, [
        rendered .coversheet .coversheetApplicant,
        rendered .aosResponseLetter .aosResponseJsDisputed]⟩
  | .aosResponseJsUndisputed =>
      ⟨.judicialSeparation, .citizen, [
        rendered .coversheet .coversheetApplicant,
        rendered .aosResponseLetter .aosResponseJsUndisputed]⟩
  | .aosResponseJsSolicitor =>
      ⟨.judicialSeparation, .solicitor, [
        rendered .coversheet .coversheetSolicitor,
        rendered .aosResponseLetter .aosResponseJsSol]⟩
  | .certificateOfEntitlementApplicant =>
      ⟨.divorce, .citizen, [
        rendered .coversheet .coversheetApplicant,
        rendered .certificateOfEntitlementCoverLetter .certificateOfEntitlementCoverLetter,
        fromCaseFile .certificateOfEntitlement]⟩
  | .certificateOfEntitlementRespondent =>
      ⟨.divorce, .citizen, [
        rendered .coversheet .coversheetApplicant,
        rendered .certificateOfEntitlementCoverLetter .certificateOfEntitlementCoverLetterResp,
        fromCaseFile .certificateOfEntitlement]⟩
  | .certificateOfEntitlementSolicitor =>
      ⟨.divorce, .solicitor, [
        rendered .coversheet .coversheetSolicitor,
        rendered .certificateOfEntitlementCoverLetter .certificateOfEntitlementCoverLetterSol,
        fromCaseFile .certificateOfEntitlement]⟩
  | .certificateOfEntitlementJs =>
      ⟨.judicialSeparation, .citizen, [
        rendered .coversheet .coversheetApplicant,
        rendered .certificateOfEntitlementCoverLetter .certificateOfEntitlementCoverLetterJs,
        fromCaseFile .certificateOfEntitlement]⟩
  | .certificateOfEntitlementJsSolicitor =>
      ⟨.judicialSeparation, .solicitor, [
        rendered .coversheet .coversheetSolicitor,
        rendered .certificateOfEntitlementCoverLetter .certificateOfEntitlementCoverLetterJsSol,
        fromCaseFile .certificateOfEntitlement]⟩
  | .coGrantedApplicant1 =>
      ⟨.divorce, .citizen, [
        rendered .coversheet .coversheetApplicant,
        rendered .conditionalOrderGrantedCoverLetter .coGrantedCoverLetterApp1,
        fromCaseFile .conditionalOrderGranted]⟩
  | .coGrantedApplicant2 =>
      ⟨.divorce, .citizen, [
        rendered .coversheet .coversheetApplicant,
        rendered .conditionalOrderGrantedCoverLetter .coGrantedCoverLetterApp2,
        fromCaseFile .conditionalOrderGranted]⟩
  | .coGrantedJoint =>
      ⟨.divorce, .citizen, [
        rendered .coversheet .coversheetApplicant,
        rendered .conditionalOrderGrantedCoverLetter .coGrantedCoverLetterJoint,
        fromCaseFile .conditionalOrderGranted]⟩
  | .coGrantedSolicitor =>
      ⟨.divorce, .solicitor, [
        rendered .coversheet .coversheetSolicitor,
        rendered .conditionalOrderGrantedCoverLetter .coGrantedCoverLetterSol,
        fromCaseFile .conditionalOrderGranted]⟩
  | .coGrantedJs =>
      ⟨.judicialSeparation, .citizen, [
        rendered .coversheet .coversheetApplicant,
        rendered .conditionalOrderGrantedCoverLetter .coGrantedCoverLetterJs,
        fromCaseFile .conditionalOrderGranted]⟩
  | .coGrantedJsSolicitor =>
      ⟨.judicialSeparation, .solicitor, [
        rendered .coversheet .coversheetSolicitor,
        rendered .conditionalOrderGrantedCoverLetter .coGrantedCoverLetterJsSol,
        fromCaseFile .conditionalOrderGranted]⟩
  | .coGrantedSeparation =>
      ⟨.judicialSeparation, .citizen, [
        rendered .coversheet .coversheetApplicant,
        rendered .conditionalOrderGrantedCoverLetter .coGrantedCoverLetterSeparation,
        fromCaseFile .conditionalOrderGranted]⟩
  | .clarification =>
      ⟨.divorce, .citizen, [
        rendered .coversheet .coversheetApplicant,
        rendered .conditionalOrderRefusalCoverLetter .coRefusalClarificationCoverLetter,
        fromCaseFile .conditionalOrderRefusal]⟩
  | .clarificationSol =>
      ⟨.divorce, .solicitor, [
        rendered .coversheet .coversheetSolicitor,
        rendered .conditionalOrderRefusalCoverLetter .coRefusalClarificationCoverLetterSol,
        fromCaseFile .conditionalOrderRefusal]⟩
  | .clarificationJs =>
      ⟨.judicialSeparation, .citizen, [
        rendered .coversheet .coversheetApplicant,
        rendered .conditionalOrderRefusalCoverLetter .coRefusalClarificationCoverLetterJs,
        fromCaseFile .conditionalOrderRefusal]⟩
  | .clarificationSolJs =>
      ⟨.judicialSeparation, .solicitor, [
        rendered .coversheet .coversheetSolicitor,
        rendered .conditionalOrderRefusalCoverLetter .coRefusalClarificationCoverLetterJsSol,
        fromCaseFile .conditionalOrderRefusal]⟩
  | .amendment =>
      ⟨.divorce, .citizen, [
        rendered .coversheet .coversheetApplicant,
        rendered .conditionalOrderRefusalCoverLetter .coRefusalAmendmentCoverLetter,
        fromCaseFile .conditionalOrderRefusal]⟩
  | .amendmentSol =>
      ⟨.divorce, .solicitor, [
        rendered .coversheet .coversheetSolicitor,
        rendered .conditionalOrderRefusalCoverLetter .coRefusalAmendmentCoverLetterSol,
        fromCaseFile .conditionalOrderRefusal]⟩
  | .amendmentJs =>
      ⟨.judicialSeparation, .citizen, [
        rendered .coversheet .coversheetApplicant,
        rendered .conditionalOrderRefusalCoverLetter .coRefusalAmendmentCoverLetterJs,
        fromCaseFile .conditionalOrderRefusal]⟩
  | .amendmentSolJs =>
      ⟨.judicialSeparation, .solicitor, [
        rendered .coversheet .coversheetSolicitor,
        rendered .conditionalOrderRefusalCoverLetter .coRefusalAmendmentCoverLetterJsSol,
        fromCaseFile .conditionalOrderRefusal]⟩
  | .coPronouncedApplicant =>
      ⟨.divorce, .citizen, [
        rendered .coversheet .coversheetApplicant,
        rendered .conditionalOrderPronouncedLetter .coPronouncedLetterApplicant]⟩
  | .coPronouncedRespondent =>
      ⟨.divorce, .citizen, [
        rendered .coversheet .coversheetApplicant,
        rendered .conditionalOrderPronouncedLetter .coPronouncedLetterRespondent]⟩
  | .coPronouncedSolicitor =>
      ⟨.divorce, .solicitor, [
        rendered .coversheet .coversheetSolicitor,
        rendered .conditionalOrderPronouncedLetter .coPronouncedLetterSol]⟩
  | .coPronouncedJs =>
      ⟨.judicialSeparation, .citizen, [
        rendered .coversheet .coversheetApplicant,
        rendered .conditionalOrderPronouncedLetter .coPronouncedLetterJs]⟩
  | .coPronouncedJsSolicitor =>
      ⟨.judicialSeparation, .solicitor, [
        rendered .coversheet .coversheetSolicitor,
        rendered .conditionalOrderPronouncedLetter .coPronouncedLetterJsSol]⟩
  | .foGrantedApplicant1 =>
      ⟨.divorce, .citizen, [
        rendered .coversheet .coversheetApplicant,
        rendered .finalOrderGrantedCoverLetter .foGrantedCoverLetterApp1,
        fromCaseFile .finalOrderGranted]⟩
  | .foGrantedApplicant2 =>
      ⟨.divorce, .citizen, [
        rendered .coversheet .coversheetApplicant,
        rendered .finalOrderGrantedCoverLetter .foGrantedCoverLetterApp2,
        fromCaseFile .finalOrderGranted]⟩
  | .foGrantedSolicitor =>
      ⟨.divorce, .solicitor, [
        rendered .coversheet .coversheetSolicitor,
        rendered .finalOrderGrantedCoverLetter .foGrantedCoverLetterSol,
        fromCaseFile .finalOrderGranted]⟩
  | .switchToSoleCo =>
      ⟨.divorce, .citizen, [
        rendered .coversheet .coversheetApplicant,
        rendered .switchToSoleCoLetter .switchToSoleCoLetter]⟩
  | .switchToSoleCoSolicitor =>
      ⟨.divorce, .solicitor, [
        rendered .coversheet .coversheetSolicitor,
        rendered .switchToSoleCoLetter .switchToSoleCoLetterSol]⟩
  | .judicialSeparationSwitchToSoleCo =>
      ⟨.judicialSeparation, .citizen, [
        rendered .coversheet .coversheetApplicant,
        rendered .switchToSoleCoLetter .switchToSoleCoLetterJs]⟩
  | .judicialSeparationSwitchToSoleCoSolicitor =>
      ⟨.judicialSeparation, .solicitor, [
        rendered .coversheet .coversheetSolicitor,
        rendered .switchToSoleCoLetter .switchToSoleCoLetterJsSol]⟩
  | .switchToSoleFo =>
      ⟨.divorce, .citizen, [
        rendered .coversheet .coversheetApplicant,
        rendered .switchToSoleFoLetter .switchToSoleFoLetter]⟩
  | .switchToSoleFoSolicitor =>
      ⟨.divorce, .solicitor, [
        rendered .coversheet .coversheetSolicitor,
        rendered .switchToSoleFoLetter .switchToSoleFoLetterSol]⟩
  | .requestForInformationSole =>
      ⟨.divorce, .citizen, [
        rendered .requestForInformationLetter .requestForInformationLetter]⟩
  | .requestForInformationJoint =>
      ⟨.divorce, .citizen, [
        rendered .requestForInformationLetter .requestForInformationJointLetter]⟩
  | .requestForInformationOffline =>
      ⟨.divorce, .citizen, [
        rendered .coversheet .coversheetApplicant,
        rendered .requestForInformationLetter .requestForInformationOfflineLetter]⟩
  | .requestForInformationSolicitor =>
      ⟨.divorce, .solicitor, [
        rendered .coversheet .coversheetSolicitor,
        rendered .requestForInformationLetter .requestForInformationSolLetter]⟩
  | .applyForCoSole =>
      ⟨.divorce, .citizen, [
        rendered .coversheet .coversheetApplicant,
        rendered .applyForConditionalOrderLetter .applyForCoLetterSole,
        fromCaseFile .conditionalOrderApplicationForm]⟩
  | .applyForCoJoint =>
      ⟨.divorce, .citizen, [
        rendered .coversheet .coversheetApplicant,
        rendered .applyForConditionalOrderLetter .applyForCoLetterJoint,
        fromCaseFile .conditionalOrderApplicationForm]⟩
  | .applyForCoJs =>
      ⟨.judicialSeparation, .citizen, [
        rendered .coversheet .coversheetApplicant,
        rendered .applyForConditionalOrderLetter .applyForCoLetterJs,
        fromCaseFile .conditionalOrderApplicationForm]⟩
  | .coReminderSole =>
      ⟨.divorce, .citizen, [
        rendered .coversheet .coversheetApplicant,
        rendered .conditionalOrderReminder .coReminderLetterSole,
        fromCaseFile .conditionalOrderApplicationForm]⟩
  | .coReminderJoint =>
      ⟨.divorce, .citizen, [
        rendered .coversheet .coversheetApplicant,
        rendered .conditionalOrderReminder .coReminderLetterJoint,
        fromCaseFile .conditionalOrderApplicationForm]⟩
  | .coReminderJs =>
      ⟨.judicialSeparation, .citizen, [
        rendered .coversheet .coversheetApplicant,
        rendered .conditionalOrderReminder .coReminderLetterJs,
        fromCaseFile .conditionalOrderApplicationForm]⟩

/-- The names of the rendered documents in the order of their slots. -/
def Contents.names (contents : Contents) : List (Template × String) :=
  contents.slots.filterMap fun slot =>
    slot.template.bind fun template =>
      slot.documentType.postedName?.map fun name => (template, name)

def PackKey.descriptor (key : PackKey) : Descriptor where
  key := key
  track := key.contents.track
  audience := key.contents.audience
  slots := key.contents.slots
  names := key.contents.names

def PackKey.toPack (key : PackKey) : Pack :=
  key.descriptor.toPack

end LetterPacks
