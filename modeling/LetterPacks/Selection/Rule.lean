import LetterPacks.Case.File
import LetterPacks.OnDemand.Generator
import LetterPacks.Pack.Table
import LetterPacks.Selection.Refusal

/-!
# Selection rules

A rule decides for one letter which pack a party to a case receives.  It declares the packs that it
may select, and the document that must be rendered before the letter can be posted.
-/

namespace LetterPacks

structure SelectionRule where
  letter : Letter
  packs : List PackKey
  select : CaseFacts → Party → Except Refusal PackKey
  /-- The document that must lie in the case file before the pack is printed. -/
  onDemand : CaseFacts → Party → Option OnDemandDocument := fun _ _ => none

namespace SelectionRule

def resolve (rule : SelectionRule) (facts : CaseFacts) (party : Party) : Except Refusal Pack :=
  (rule.select facts party).map PackKey.toPack

def undefined (letter : Letter) : SelectionRule where
  letter := letter
  packs := []
  select := fun _ _ => .error (.undefined letter)

end SelectionRule

def require (condition : Bool) (refusal : Refusal) : Except Refusal Unit :=
  if condition then .ok () else .error refusal

def requireSole (letter : Letter) (facts : CaseFacts) (party : Party) : Except Refusal Unit :=
  require facts.isSole (.notApplicable letter party .soleOnly)

def requireFirstApplicant (letter : Letter) (party : Party) : Except Refusal Unit :=
  require (party == .applicant1) (.notApplicable letter party .firstApplicantOnly)

def requireUnrepresented (letter : Letter) (facts : CaseFacts) (party : Party) :
    Except Refusal Unit :=
  require (!(facts.applicant party).isRepresented) (.notApplicable letter party .represented)

def demand {α : Type} (letter : Letter) (fact : MissingFact) : Option α → Except Refusal α
  | some value => .ok value
  | none => .error (.missingFact letter fact)

/-- Whether the party answers an application that the other party made alone. -/
def CaseFacts.isSoleRespondent (facts : CaseFacts) (party : Party) : Bool :=
  facts.isSole && party == .applicant2

end LetterPacks
