import LetterPacks.Text.Blank
import LetterPacks.Vocabulary

/-!
# Letters

A letter is sent on one business occasion.  Which documents it carries depends on the case and on
the recipient.
-/

namespace LetterPacks

/-- The business occasion on which a letter is sent. -/
inductive Letter where
  | noticeOfProceedings
  | aosOverdue
  | aosResponseLetter
  | aosResponse
  | regenerateCourtOrders
  | certificateOfEntitlement
  | conditionalOrderGranted
  | conditionalOrderRefused
  | conditionalOrderPronounced
  | finalOrderGranted
  | switchToSoleConditionalOrder
  | switchToSoleFinalOrder
  | requestForInformation
  | applyForConditionalOrder
  | awaitingConditionalOrderReminder
deriving DecidableEq, Repr

namespace Letter

def all : List Letter := [
  .noticeOfProceedings, .aosOverdue, .aosResponseLetter, .aosResponse, .regenerateCourtOrders,
  .certificateOfEntitlement, .conditionalOrderGranted, .conditionalOrderRefused,
  .conditionalOrderPronounced, .finalOrderGranted, .switchToSoleConditionalOrder,
  .switchToSoleFinalOrder, .requestForInformation, .applyForConditionalOrder,
  .awaitingConditionalOrderReminder]

def name : Letter → String
  | .noticeOfProceedings => "applicant-aos-pack"
  | .aosOverdue => "aos-overdue-letter"
  | .aosResponseLetter => "aos-response-letter"
  | .aosResponse => "aos-response-pack"
  | .regenerateCourtOrders => "regenerate-court-orders"
  | .certificateOfEntitlement => "certificate-of-entitlement"
  | .conditionalOrderGranted => "conditional-order-granted"
  | .conditionalOrderRefused => "conditional-order-refused"
  | .conditionalOrderPronounced => "conditional-order-pronounced"
  | .finalOrderGranted => "final-order-granted"
  | .switchToSoleConditionalOrder => "switch-to-sole-co-letter"
  | .switchToSoleFinalOrder => "switch-to-sole-fo-letter"
  | .requestForInformation => "request-for-information-letter"
  | .applyForConditionalOrder => "apply-for-conditional-order"
  | .awaitingConditionalOrderReminder => "awaiting-conditional-order-reminder"

def vocabulary : Vocabulary Letter where
  all := all
  name := name
  complete := by intro value; cases value <;> decide
  distinct := by decide +kernel

def title : Letter → String
  | .noticeOfProceedings => "NoticeOfProceedings"
  | .aosOverdue => "AosOverdue"
  | .aosResponseLetter => "AosResponseLetter"
  | .aosResponse => "AosResponse"
  | .regenerateCourtOrders => "RegenerateCourtOrders"
  | .certificateOfEntitlement => "CertificateOfEntitlement"
  | .conditionalOrderGranted => "ConditionalOrderGranted"
  | .conditionalOrderRefused => "ConditionalOrderRefused"
  | .conditionalOrderPronounced => "ConditionalOrderPronounced"
  | .finalOrderGranted => "FinalOrderGranted"
  | .switchToSoleConditionalOrder => "SwitchToSoleCo"
  | .switchToSoleFinalOrder => "SwitchToSoleFo"
  | .requestForInformation => "RequestForInformation"
  | .applyForConditionalOrder => "ApplyForConditionalOrder"
  | .awaitingConditionalOrderReminder => "AwaitingConditionalOrderReminder"

/-- The letter of a written name; white space around the name does not count. -/
def ofText? (text : String) : Option Letter :=
  vocabulary.find? (Text.trim text)

def position (letter : Letter) : Nat :=
  letter.ctorIdx

end Letter

end LetterPacks
