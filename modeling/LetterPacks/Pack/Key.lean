import LetterPacks.Vocabulary

/-!
# Pack keys

A pack key names one fixed bundle of documents.
-/

namespace LetterPacks

/-- The name of one fixed bundle of documents. -/
inductive PackKey where
  | nopSoleApp1CitizenCs
  | nopSoleApp1CitizenPs
  | nopSoleApp1Solicitor
  | nopSoleRespondentCitizen
  | nopSoleRespondentOffline
  | nopSoleRespondentOverseas
  | nopSoleRespondentSolicitor
  | nopSoleRespondentSolicitorOffline
  | nopJointApp1Citizen
  | nopJointApp2Citizen
  | nopJointApp2CitizenOffline
  | nopJointApp1Solicitor
  | nopJointApp2Solicitor
  | nopJsSoleApp1CitizenCs
  | nopJsSoleApp1CitizenPs
  | nopJsSoleApp1Solicitor
  | nopJsSoleRespondentCitizen
  | nopJsSoleRespondentSolicitor
  | nopJsJointApp1Citizen
  | nopJsJointApp2Citizen
  | nopJsJointApp1Solicitor
  | nopJsJointApp2Solicitor
  | aosOverdue
  | aosOverdueJs
  | aosResponseDisputed
  | aosResponseUndisputed
  | aosResponseJsDisputed
  | aosResponseJsUndisputed
  | aosResponseJsSolicitor
  | certificateOfEntitlementApplicant
  | certificateOfEntitlementRespondent
  | certificateOfEntitlementSolicitor
  | certificateOfEntitlementJs
  | certificateOfEntitlementJsSolicitor
  | coGrantedApplicant1
  | coGrantedApplicant2
  | coGrantedJoint
  | coGrantedSolicitor
  | coGrantedJs
  | coGrantedJsSolicitor
  | coGrantedSeparation
  | clarification
  | clarificationSol
  | clarificationJs
  | clarificationSolJs
  | amendment
  | amendmentSol
  | amendmentJs
  | amendmentSolJs
  | coPronouncedApplicant
  | coPronouncedRespondent
  | coPronouncedSolicitor
  | coPronouncedJs
  | coPronouncedJsSolicitor
  | foGrantedApplicant1
  | foGrantedApplicant2
  | foGrantedSolicitor
  | switchToSoleCo
  | switchToSoleCoSolicitor
  | judicialSeparationSwitchToSoleCo
  | judicialSeparationSwitchToSoleCoSolicitor
  | switchToSoleFo
  | switchToSoleFoSolicitor
  | requestForInformationSole
  | requestForInformationJoint
  | requestForInformationOffline
  | requestForInformationSolicitor
  | applyForCoSole
  | applyForCoJoint
  | applyForCoJs
  | coReminderSole
  | coReminderJoint
  | coReminderJs
deriving DecidableEq, Repr

namespace PackKey

def all : List PackKey := [
  .nopSoleApp1CitizenCs, .nopSoleApp1CitizenPs, .nopSoleApp1Solicitor, .nopSoleRespondentCitizen,
  .nopSoleRespondentOffline, .nopSoleRespondentOverseas, .nopSoleRespondentSolicitor,
  .nopSoleRespondentSolicitorOffline, .nopJointApp1Citizen, .nopJointApp2Citizen,
  .nopJointApp2CitizenOffline, .nopJointApp1Solicitor, .nopJointApp2Solicitor,
  .nopJsSoleApp1CitizenCs, .nopJsSoleApp1CitizenPs, .nopJsSoleApp1Solicitor,
  .nopJsSoleRespondentCitizen, .nopJsSoleRespondentSolicitor, .nopJsJointApp1Citizen,
  .nopJsJointApp2Citizen, .nopJsJointApp1Solicitor, .nopJsJointApp2Solicitor, .aosOverdue,
  .aosOverdueJs, .aosResponseDisputed, .aosResponseUndisputed, .aosResponseJsDisputed,
  .aosResponseJsUndisputed, .aosResponseJsSolicitor, .certificateOfEntitlementApplicant,
  .certificateOfEntitlementRespondent, .certificateOfEntitlementSolicitor,
  .certificateOfEntitlementJs, .certificateOfEntitlementJsSolicitor, .coGrantedApplicant1,
  .coGrantedApplicant2, .coGrantedJoint, .coGrantedSolicitor, .coGrantedJs,
  .coGrantedJsSolicitor, .coGrantedSeparation, .clarification, .clarificationSol,
  .clarificationJs, .clarificationSolJs, .amendment, .amendmentSol, .amendmentJs,
  .amendmentSolJs, .coPronouncedApplicant, .coPronouncedRespondent, .coPronouncedSolicitor,
  .coPronouncedJs, .coPronouncedJsSolicitor, .foGrantedApplicant1, .foGrantedApplicant2,
  .foGrantedSolicitor, .switchToSoleCo, .switchToSoleCoSolicitor,
  .judicialSeparationSwitchToSoleCo, .judicialSeparationSwitchToSoleCoSolicitor, .switchToSoleFo,
  .switchToSoleFoSolicitor, .requestForInformationSole, .requestForInformationJoint,
  .requestForInformationOffline, .requestForInformationSolicitor, .applyForCoSole,
  .applyForCoJoint, .applyForCoJs, .coReminderSole, .coReminderJoint, .coReminderJs]

def name : PackKey → String
  | .nopSoleApp1CitizenCs => "NOP_SOLE_APP1_CITIZEN_CS_PACK"
  | .nopSoleApp1CitizenPs => "NOP_SOLE_APP1_CITIZEN_PS_PACK"
  | .nopSoleApp1Solicitor => "NOP_SOLE_APP1_SOLICITOR_PACK"
  | .nopSoleRespondentCitizen => "NOP_SOLE_RESPONDENT_CITIZEN_PACK"
  | .nopSoleRespondentOffline => "NOP_SOLE_RESPONDENT_OFFLINE_PACK"
  | .nopSoleRespondentOverseas => "NOP_SOLE_RESPONDENT_OVERSEAS_PACK"
  | .nopSoleRespondentSolicitor => "NOP_SOLE_RESPONDENT_SOLICITOR_PACK"
  | .nopSoleRespondentSolicitorOffline => "NOP_SOLE_RESPONDENT_SOLICITOR_OFFLINE_PACK"
  | .nopJointApp1Citizen => "NOP_JOINT_APP1_CITIZEN_PACK"
  | .nopJointApp2Citizen => "NOP_JOINT_APP2_CITIZEN_PACK"
  | .nopJointApp2CitizenOffline => "NOP_JOINT_APP2_CITIZEN_OFFLINE_PACK"
  | .nopJointApp1Solicitor => "NOP_JOINT_APP1_SOLICITOR_PACK"
  | .nopJointApp2Solicitor => "NOP_JOINT_APP2_SOLICITOR_PACK"
  | .nopJsSoleApp1CitizenCs => "NOP_JS_SOLE_APP1_CITIZEN_CS_PACK"
  | .nopJsSoleApp1CitizenPs => "NOP_JS_SOLE_APP1_CITIZEN_PS_PACK"
  | .nopJsSoleApp1Solicitor => "NOP_JS_SOLE_APP1_SOLICITOR_PACK"
  | .nopJsSoleRespondentCitizen => "NOP_JS_SOLE_RESPONDENT_CITIZEN_PACK"
  | .nopJsSoleRespondentSolicitor => "NOP_JS_SOLE_RESPONDENT_SOLICITOR_PACK"
  | .nopJsJointApp1Citizen => "NOP_JS_JOINT_APP1_CITIZEN_PACK"
  | .nopJsJointApp2Citizen => "NOP_JS_JOINT_APP2_CITIZEN_PACK"
  | .nopJsJointApp1Solicitor => "NOP_JS_JOINT_APP1_SOLICITOR_PACK"
  | .nopJsJointApp2Solicitor => "NOP_JS_JOINT_APP2_SOLICITOR_PACK"
  | .aosOverdue => "AOS_OVERDUE_PACK"
  | .aosOverdueJs => "AOS_OVERDUE_JS_PACK"
  | .aosResponseDisputed => "AOS_RESPONSE_DISPUTED_PACK"
  | .aosResponseUndisputed => "AOS_RESPONSE_UNDISPUTED_PACK"
  | .aosResponseJsDisputed => "AOS_RESPONSE_JS_DISPUTED_PACK"
  | .aosResponseJsUndisputed => "AOS_RESPONSE_JS_UNDISPUTED_PACK"
  | .aosResponseJsSolicitor => "AOS_RESPONSE_JS_SOLICITOR_PACK"
  | .certificateOfEntitlementApplicant => "CERTIFICATE_OF_ENTITLEMENT_APPLICANT_PACK"
  | .certificateOfEntitlementRespondent => "CERTIFICATE_OF_ENTITLEMENT_RESPONDENT_PACK"
  | .certificateOfEntitlementSolicitor => "CERTIFICATE_OF_ENTITLEMENT_SOLICITOR_PACK"
  | .certificateOfEntitlementJs => "CERTIFICATE_OF_ENTITLEMENT_JS_PACK"
  | .certificateOfEntitlementJsSolicitor => "CERTIFICATE_OF_ENTITLEMENT_JS_SOLICITOR_PACK"
  | .coGrantedApplicant1 => "CO_GRANTED_APPLICANT1_PACK"
  | .coGrantedApplicant2 => "CO_GRANTED_APPLICANT2_PACK"
  | .coGrantedJoint => "CO_GRANTED_JOINT_PACK"
  | .coGrantedSolicitor => "CO_GRANTED_SOLICITOR_PACK"
  | .coGrantedJs => "CO_GRANTED_JS_PACK"
  | .coGrantedJsSolicitor => "CO_GRANTED_JS_SOLICITOR_PACK"
  | .coGrantedSeparation => "CO_GRANTED_SEPARATION_PACK"
  | .clarification => "CLARIFICATION_PACK"
  | .clarificationSol => "CLARIFICATION_SOL_PACK"
  | .clarificationJs => "CLARIFICATION_JS_PACK"
  | .clarificationSolJs => "CLARIFICATION_SOL_JS_PACK"
  | .amendment => "AMENDMENT_PACK"
  | .amendmentSol => "AMENDMENT_SOL_PACK"
  | .amendmentJs => "AMENDMENT_JS_PACK"
  | .amendmentSolJs => "AMENDMENT_SOL_JS_PACK"
  | .coPronouncedApplicant => "CO_PRONOUNCED_APPLICANT_PACK"
  | .coPronouncedRespondent => "CO_PRONOUNCED_RESPONDENT_PACK"
  | .coPronouncedSolicitor => "CO_PRONOUNCED_SOLICITOR_PACK"
  | .coPronouncedJs => "CO_PRONOUNCED_JS_PACK"
  | .coPronouncedJsSolicitor => "CO_PRONOUNCED_JS_SOLICITOR_PACK"
  | .foGrantedApplicant1 => "FO_GRANTED_APPLICANT1_PACK"
  | .foGrantedApplicant2 => "FO_GRANTED_APPLICANT2_PACK"
  | .foGrantedSolicitor => "FO_GRANTED_SOLICITOR_PACK"
  | .switchToSoleCo => "SWITCH_TO_SOLE_CO_PACK"
  | .switchToSoleCoSolicitor => "SWITCH_TO_SOLE_CO_SOLICITOR_PACK"
  | .judicialSeparationSwitchToSoleCo => "JUDICIAL_SEPARATION_SWITCH_TO_SOLE_CO_PACK"
  | .judicialSeparationSwitchToSoleCoSolicitor =>
      "JUDICIAL_SEPARATION_SWITCH_TO_SOLE_CO_SOLICITOR_PACK"
  | .switchToSoleFo => "SWITCH_TO_SOLE_FO_PACK"
  | .switchToSoleFoSolicitor => "SWITCH_TO_SOLE_FO_SOLICITOR_PACK"
  | .requestForInformationSole => "REQUEST_FOR_INFORMATION_SOLE_PACK"
  | .requestForInformationJoint => "REQUEST_FOR_INFORMATION_JOINT_PACK"
  | .requestForInformationOffline => "REQUEST_FOR_INFORMATION_OFFLINE_PACK"
  | .requestForInformationSolicitor => "REQUEST_FOR_INFORMATION_SOLICITOR_PACK"
  | .applyForCoSole => "APPLY_FOR_CO_SOLE_PACK"
  | .applyForCoJoint => "APPLY_FOR_CO_JOINT_PACK"
  | .applyForCoJs => "APPLY_FOR_CO_JS_PACK"
  | .coReminderSole => "CO_REMINDER_SOLE_PACK"
  | .coReminderJoint => "CO_REMINDER_JOINT_PACK"
  | .coReminderJs => "CO_REMINDER_JS_PACK"

def vocabulary : Vocabulary PackKey where
  all := all
  name := name
  complete := by intro value; cases value <;> decide
  distinct := by decide +kernel

end PackKey

end LetterPacks
