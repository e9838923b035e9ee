import LetterPacks.Vocabulary

/-!
# Templates

The static letter templates that the document-rendering service knows.
-/

namespace LetterPacks

inductive Template where
  | coversheetApplicant
  | coversheetSolicitor
  | divorceApplicationSole
  | divorceApplicationJoint
  | nopA1SoleApp1CitCs
  | nopA2SoleApp1CitPs
  | nopAs1SoleApp1SolCs
  | nopR1SoleApp2CitOnline
  | nopR2SoleApp2CitOffline
  | nopR2SoleApp2CitOs
  | nopRs1SoleApp2SolOnline
  | nopRs2SoleApp2SolOffline
  | nopJa1JointApp1app2Cit
  | nopJa2JointApp2CitOffline
  | nopAs2JointApp1app2Sol
  | nopJsSoleApp1CitCs
  | nopJsSoleApp1CitPs
  | nopJsSoleApp1Sol
  | nopJsSoleRespCit
  | nopJsSoleRespSol
  | nopJsJointCit
  | nopJsJointSol
  | aosOverdueLetter
  | aosOverdueJsLetter
  | aosResponseDisputed
  | aosResponseUndisputed
  | aosResponseJsDisputed
  | aosResponseJsUndisputed
  | aosResponseJsSol
  | certificateOfEntitlementCoverLetter
  | certificateOfEntitlementCoverLetterResp
  | certificateOfEntitlementCoverLetterSol
  | certificateOfEntitlementCoverLetterJs
  | certificateOfEntitlementCoverLetterJsSol
  | coGrantedCoverLetterApp1
  | coGrantedCoverLetterApp2
  | coGrantedCoverLetterJoint
  | coGrantedCoverLetterSol
  | coGrantedCoverLetterJs
  | coGrantedCoverLetterJsSol
  | coGrantedCoverLetterSeparation
  | coRefusalClarificationCoverLetter
  | coRefusalClarificationCoverLetterSol
  | coRefusalClarificationCoverLetterJs
  | coRefusalClarificationCoverLetterJsSol
  | coRefusalAmendmentCoverLetter
  | coRefusalAmendmentCoverLetterSol
  | coRefusalAmendmentCoverLetterJs
  | coRefusalAmendmentCoverLetterJsSol
  | coPronouncedLetterApplicant
  | coPronouncedLetterRespondent
  | coPronouncedLetterSol
  | coPronouncedLetterJs
  | coPronouncedLetterJsSol
  | foGrantedCoverLetterApp1
  | foGrantedCoverLetterApp2
  | foGrantedCoverLetterSol
  | switchToSoleCoLetter
  | switchToSoleCoLetterSol
  | switchToSoleCoLetterJs
  | switchToSoleCoLetterJsSol
  | switchToSoleFoLetter
  | switchToSoleFoLetterSol
  | requestForInformationLetter
  | requestForInformationJointLetter
  | requestForInformationOfflineLetter
  | requestForInformationSolLetter
  | applyForCoLetterSole
  | applyForCoLetterJoint
  | applyForCoLetterJs
  | coReminderLetterSole
  | coReminderLetterJoint
  | coReminderLetterJs
deriving DecidableEq, Repr

namespace Template

def all : List Template := [
  .coversheetApplicant, .coversheetSolicitor, .divorceApplicationSole, .divorceApplicationJoint,
  .nopA1SoleApp1CitCs, .nopA2SoleApp1CitPs, .nopAs1SoleApp1SolCs, .nopR1SoleApp2CitOnline,
  .nopR2SoleApp2CitOffline, .nopR2SoleApp2CitOs, .nopRs1SoleApp2SolOnline,
  .nopRs2SoleApp2SolOffline, .nopJa1JointApp1app2Cit, .nopJa2JointApp2CitOffline,
  .nopAs2JointApp1app2Sol, .nopJsSoleApp1CitCs, .nopJsSoleApp1CitPs, .nopJsSoleApp1Sol,
  .nopJsSoleRespCit, .nopJsSoleRespSol, .nopJsJointCit, .nopJsJointSol, .aosOverdueLetter,
  .aosOverdueJsLetter, .aosResponseDisputed, .aosResponseUndisputed, .aosResponseJsDisputed,
  .aosResponseJsUndisputed, .aosResponseJsSol, .certificateOfEntitlementCoverLetter,
  .certificateOfEntitlementCoverLetterResp, .certificateOfEntitlementCoverLetterSol,
  .certificateOfEntitlementCoverLetterJs, .certificateOfEntitlementCoverLetterJsSol,
  .coGrantedCoverLetterApp1, .coGrantedCoverLetterApp2, .coGrantedCoverLetterJoint,
  .coGrantedCoverLetterSol, .coGrantedCoverLetterJs, .coGrantedCoverLetterJsSol,
  .coGrantedCoverLetterSeparation, .coRefusalClarificationCoverLetter,
  .coRefusalClarificationCoverLetterSol, .coRefusalClarificationCoverLetterJs,
  .coRefusalClarificationCoverLetterJsSol, .coRefusalAmendmentCoverLetter,
  .coRefusalAmendmentCoverLetterSol, .coRefusalAmendmentCoverLetterJs,
  .coRefusalAmendmentCoverLetterJsSol, .coPronouncedLetterApplicant,
  .coPronouncedLetterRespondent, .coPronouncedLetterSol, .coPronouncedLetterJs,
  .coPronouncedLetterJsSol, .foGrantedCoverLetterApp1, .foGrantedCoverLetterApp2,
  .foGrantedCoverLetterSol, .switchToSoleCoLetter, .switchToSoleCoLetterSol,
  .switchToSoleCoLetterJs, .switchToSoleCoLetterJsSol, .switchToSoleFoLetter,
  .switchToSoleFoLetterSol, .requestForInformationLetter, .requestForInformationJointLetter,
  .requestForInformationOfflineLetter, .requestForInformationSolLetter, .applyForCoLetterSole,
  .applyForCoLetterJoint, .applyForCoLetterJs, .coReminderLetterSole, .coReminderLetterJoint,
  .coReminderLetterJs]

def name : Template → String
  | .coversheetApplicant => "COVERSHEET_APPLICANT"
  | .coversheetSolicitor => "COVERSHEET_SOLICITOR"
  | .divorceApplicationSole => "DIVORCE_APPLICATION_SOLE"
  | .divorceApplicationJoint => "DIVORCE_APPLICATION_JOINT"
  | .nopA1SoleApp1CitCs => "NFD_NOP_A1_SOLE_APP1_CIT_CS"
  | .nopA2SoleApp1CitPs => "NFD_NOP_A2_SOLE_APP1_CIT_PS"
  | .nopAs1SoleApp1SolCs => "NFD_NOP_AS1_SOLE_APP1_SOL_CS"
  | .nopR1SoleApp2CitOnline => "NFD_NOP_R1_SOLE_APP2_CIT_ONLINE"
  | .nopR2SoleApp2CitOffline => "NFD_NOP_R2_SOLE_APP2_CIT_OFFLINE"
  | .nopR2SoleApp2CitOs => "NFD_NOP_R2_SOLE_APP2_CIT_OS"
  | .nopRs1SoleApp2SolOnline => "NFD_NOP_RS1_SOLE_APP2_SOL_ONLINE"
  | .nopRs2SoleApp2SolOffline => "NFD_NOP_RS2_SOLE_APP2_SOL_OFFLINE"
  | .nopJa1JointApp1app2Cit => "NFD_NOP_JA1_JOINT_APP1APP2_CIT"
  | .nopJa2JointApp2CitOffline => "NFD_NOP_JA2_JOINT_APP2_CIT_OFFLINE"
  | .nopAs2JointApp1app2Sol => "NFD_NOP_AS2_JOINT_APP1APP2_SOL"
  | .nopJsSoleApp1CitCs => "NFD_NOP_JS_SOLE_APP1_CIT_CS"
  | .nopJsSoleApp1CitPs => "NFD_NOP_JS_SOLE_APP1_CIT_PS"
  | .nopJsSoleApp1Sol => "NFD_NOP_JS_SOLE_APP1_SOL"
  | .nopJsSoleRespCit => "NFD_NOP_JS_SOLE_RESP_CIT"
  | .nopJsSoleRespSol => "NFD_NOP_JS_SOLE_RESP_SOL"
  | .nopJsJointCit => "NFD_NOP_JS_JOINT_CIT"
  | .nopJsJointSol => "NFD_NOP_JS_JOINT_SOL"
  | .aosOverdueLetter => "NFD_AOS_OVERDUE_LETTER"
  | .aosOverdueJsLetter => "NFD_AOS_OVERDUE_JS_LETTER"
  | .aosResponseDisputed => "NFD_AOS_RESPONSE_DISPUTED"
  | .aosResponseUndisputed => "NFD_AOS_RESPONSE_UNDISPUTED"
  | .aosResponseJsDisputed => "NFD_AOS_RESPONSE_JS_DISPUTED"
  | .aosResponseJsUndisputed => "NFD_AOS_RESPONSE_JS_UNDISPUTED"
  | .aosResponseJsSol => "NFD_AOS_RESPONSE_JS_SOL"
  | .certificateOfEntitlementCoverLetter => "CERTIFICATE_OF_ENTITLEMENT_COVER_LETTER"
  | .certificateOfEntitlementCoverLetterResp => "CERTIFICATE_OF_ENTITLEMENT_COVER_LETTER_RESP"
  | .certificateOfEntitlementCoverLetterSol => "CERTIFICATE_OF_ENTITLEMENT_COVER_LETTER_SOL"
  | .certificateOfEntitlementCoverLetterJs => "CERTIFICATE_OF_ENTITLEMENT_COVER_LETTER_JS"
  | .certificateOfEntitlementCoverLetterJsSol => "CERTIFICATE_OF_ENTITLEMENT_COVER_LETTER_JS_SOL"
  | .coGrantedCoverLetterApp1 => "CO_GRANTED_COVER_LETTER_APP1"
  | .coGrantedCoverLetterApp2 => "CO_GRANTED_COVER_LETTER_APP2"
  | .coGrantedCoverLetterJoint => "CO_GRANTED_COVER_LETTER_JOINT"
  | .coGrantedCoverLetterSol => "CO_GRANTED_COVER_LETTER_SOL"
  | .coGrantedCoverLetterJs => "CO_GRANTED_COVER_LETTER_JS"
  | .coGrantedCoverLetterJsSol => "CO_GRANTED_COVER_LETTER_JS_SOL"
  | .coGrantedCoverLetterSeparation => "CO_GRANTED_COVER_LETTER_SEPARATION"
  | .coRefusalClarificationCoverLetter => "CO_REFUSAL_CLARIFICATION_COVER_LETTER"
  | .coRefusalClarificationCoverLetterSol => "CO_REFUSAL_CLARIFICATION_COVER_LETTER_SOL"
  | .coRefusalClarificationCoverLetterJs => "CO_REFUSAL_CLARIFICATION_COVER_LETTER_JS"
  | .coRefusalClarificationCoverLetterJsSol => "CO_REFUSAL_CLARIFICATION_COVER_LETTER_JS_SOL"
  | .coRefusalAmendmentCoverLetter => "CO_REFUSAL_AMENDMENT_COVER_LETTER"
  | .coRefusalAmendmentCoverLetterSol => "CO_REFUSAL_AMENDMENT_COVER_LETTER_SOL"
  | .coRefusalAmendmentCoverLetterJs => "CO_REFUSAL_AMENDMENT_COVER_LETTER_JS"
  | .coRefusalAmendmentCoverLetterJsSol => "CO_REFUSAL_AMENDMENT_COVER_LETTER_JS_SOL"
  | .coPronouncedLetterApplicant => "CO_PRONOUNCED_LETTER_APPLICANT"
  | .coPronouncedLetterRespondent => "CO_PRONOUNCED_LETTER_RESPONDENT"
  | .coPronouncedLetterSol => "CO_PRONOUNCED_LETTER_SOL"
  | .coPronouncedLetterJs => "CO_PRONOUNCED_LETTER_JS"
  | .coPronouncedLetterJsSol => "CO_PRONOUNCED_LETTER_JS_SOL"
  | .foGrantedCoverLetterApp1 => "FO_GRANTED_COVER_LETTER_APP1"
  | .foGrantedCoverLetterApp2 => "FO_GRANTED_COVER_LETTER_APP2"
  | .foGrantedCoverLetterSol => "FO_GRANTED_COVER_LETTER_SOL"
  | .switchToSoleCoLetter => "SWITCH_TO_SOLE_CO_LETTER"
  | .switchToSoleCoLetterSol => "SWITCH_TO_SOLE_CO_LETTER_SOL"
  | .switchToSoleCoLetterJs => "SWITCH_TO_SOLE_CO_LETTER_JS"
  | .switchToSoleCoLetterJsSol => "SWITCH_TO_SOLE_CO_LETTER_JS_SOL"
  | .switchToSoleFoLetter => "SWITCH_TO_SOLE_FO_LETTER"
  | .switchToSoleFoLetterSol => "SWITCH_TO_SOLE_FO_LETTER_SOL"
  | .requestForInformationLetter => "REQUEST_FOR_INFORMATION_LETTER"
  | .requestForInformationJointLetter => "REQUEST_FOR_INFORMATION_JOINT_LETTER"
  | .requestForInformationOfflineLetter => "REQUEST_FOR_INFORMATION_OFFLINE_LETTER"
  | .requestForInformationSolLetter => "REQUEST_FOR_INFORMATION_SOL_LETTER"
  | .applyForCoLetterSole => "APPLY_FOR_CO_LETTER_SOLE"
  | .applyForCoLetterJoint => "APPLY_FOR_CO_LETTER_JOINT"
  | .applyForCoLetterJs => "APPLY_FOR_CO_LETTER_JS"
  | .coReminderLetterSole => "CO_REMINDER_LETTER_SOLE"
  | .coReminderLetterJoint => "CO_REMINDER_LETTER_JOINT"
  | .coReminderLetterJs => "CO_REMINDER_LETTER_JS"

def vocabulary : Vocabulary Template where
  all := all
  name := name
  complete := by intro value; cases value <;> decide
  distinct := by decide +kernel

end Template

end LetterPacks
