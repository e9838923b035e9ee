import LetterPacks.Vocabulary

/-!
# Document types

The closed vocabulary of documents that can lie in an envelope or in a case file.
-/

namespace LetterPacks

/-- What a document is, whichever text it carries. -/
inductive DocumentType where
  | coversheet
  | noticeOfProceedingsApplicant1
  | noticeOfProceedingsApplicant2
  | application
  | aosOverdueLetter
  | aosResponseLetter
  | certificateOfEntitlement
  | certificateOfEntitlementCoverLetter
  | conditionalOrderGranted
  | conditionalOrderGrantedCoverLetter
  | conditionalOrderRefusal
  | conditionalOrderRefusalCoverLetter
  | conditionalOrderPronouncedLetter
  | finalOrderGranted
  | finalOrderGrantedCoverLetter
  | switchToSoleCoLetter
  | switchToSoleFoLetter
  | requestForInformationLetter
  | applyForConditionalOrderLetter
  | conditionalOrderReminder
  | conditionalOrderApplicationForm
deriving DecidableEq, Repr

namespace DocumentType

def all : List DocumentType := [
  .coversheet, .noticeOfProceedingsApplicant1, .noticeOfProceedingsApplicant2, .application,
  .aosOverdueLetter, .aosResponseLetter, .certificateOfEntitlement,
  .certificateOfEntitlementCoverLetter, .conditionalOrderGranted,
  .conditionalOrderGrantedCoverLetter, .conditionalOrderRefusal,
  .conditionalOrderRefusalCoverLetter, .conditionalOrderPronouncedLetter, .finalOrderGranted,
  .finalOrderGrantedCoverLetter, .switchToSoleCoLetter, .switchToSoleFoLetter,
  .requestForInformationLetter, .applyForConditionalOrderLetter, .conditionalOrderReminder,
  .conditionalOrderApplicationForm]

def name : DocumentType → String
  | .coversheet => "COVERSHEET"
  | .noticeOfProceedingsApplicant1 => "NOTICE_OF_PROCEEDINGS_APP_1"
  | .noticeOfProceedingsApplicant2 => "NOTICE_OF_PROCEEDINGS_APP_2"
  | .application => "APPLICATION"
  | .aosOverdueLetter => "AOS_OVERDUE_LETTER"
  | .aosResponseLetter => "AOS_RESPONSE_LETTER"
  | .certificateOfEntitlement => "CERTIFICATE_OF_ENTITLEMENT"
  | .certificateOfEntitlementCoverLetter => "CERTIFICATE_OF_ENTITLEMENT_COVER_LETTER"
  | .conditionalOrderGranted => "CONDITIONAL_ORDER_GRANTED"
  | .conditionalOrderGrantedCoverLetter => "CONDITIONAL_ORDER_GRANTED_COVER_LETTER"
  | .conditionalOrderRefusal => "CONDITIONAL_ORDER_REFUSAL"
  | .conditionalOrderRefusalCoverLetter => "CONDITIONAL_ORDER_REFUSAL_COVER_LETTER"
  | .conditionalOrderPronouncedLetter => "CONDITIONAL_ORDER_PRONOUNCED_LETTER"
  | .finalOrderGranted => "FINAL_ORDER_GRANTED"
  | .finalOrderGrantedCoverLetter => "FINAL_ORDER_GRANTED_COVER_LETTER"
  | .switchToSoleCoLetter => "SWITCH_TO_SOLE_CO_LETTER"
  | .switchToSoleFoLetter => "SWITCH_TO_SOLE_FO_LETTER"
  | .requestForInformationLetter => "REQUEST_FOR_INFORMATION_LETTER"
  | .applyForConditionalOrderLetter => "APPLY_FOR_CONDITIONAL_ORDER_LETTER"
  | .conditionalOrderReminder => "CONDITIONAL_ORDER_REMINDER"
  | .conditionalOrderApplicationForm => "CONDITIONAL_ORDER_APPLICATION_FORM"

def vocabulary : Vocabulary DocumentType where
  all := all
  name := name
  complete := by intro value; cases value <;> decide
  distinct := by decide +kernel

end DocumentType

/-- The name under which a document rendered from a template is posted.  The other document types
are taken from the case file and keep the name they have there. -/
def DocumentType.postedName? : DocumentType → Option String
  | .coversheet => some "Coversheet"
  | .noticeOfProceedingsApplicant1 => some "NoticeOfProceedingsApplicant1"
  | .noticeOfProceedingsApplicant2 => some "NoticeOfProceedingsApplicant2"
  | .application => some "DivorceApplication"
  | .aosOverdueLetter => some "AosOverdueLetter"
  | .aosResponseLetter => some "AosResponseLetter"
  | .certificateOfEntitlementCoverLetter => some "CertificateOfEntitlementCoverLetter"
  | .conditionalOrderGrantedCoverLetter => some "ConditionalOrderGrantedCoverLetter"
  | .conditionalOrderRefusalCoverLetter => some "ConditionalOrderRefusalCoverLetter"
  | .conditionalOrderPronouncedLetter => some "ConditionalOrderPronouncedLetter"
  | .finalOrderGrantedCoverLetter => some "FinalOrderGrantedCoverLetter"
  | .switchToSoleCoLetter => some "SwitchToSoleConditionalOrderLetter"
  | .switchToSoleFoLetter => some "SwitchToSoleFinalOrderLetter"
  | .requestForInformationLetter => some "RequestForInformationLetter"
  | .applyForConditionalOrderLetter => some "ApplyForConditionalOrderLetter"
  | .conditionalOrderReminder => some "ConditionalOrderReminderLetter"
  | _ => none

end LetterPacks
