import LetterPacks.Proofs.Selection.Conditions

/-!
# Letters without packs

The packs of two letters have never been specified, and their rules refuse every case for that
reason. No other rule gives it: whatever one of them refuses, it refuses for a fact of the case.
-/

namespace LetterPacks

def IsSpecified {α : Type} (answer : Except Refusal α) : Prop :=
  ∀ letter, answer ≠ .error (.undefined letter)

namespace Letter

def isUndefined : Letter → Bool
  | .aosResponse | .regenerateCourtOrders => true
  | _ => false

theorem select_of_undefined
    {letter : Letter} (undefined : letter.isUndefined = true) (facts : CaseFacts) (party : Party) :
    letter.rule.select facts party = .error (.undefined letter) := by
  cases letter with
  | aosResponse | regenerateCourtOrders => rfl
  | _ => cases undefined

private theorem refusal_ne_undefined
    {letter : Letter} (defined : letter.isUndefined = false) {facts : CaseFacts} {party : Party}
    {condition : Condition} (asked : condition ∈ letter.conditions facts party) (other : Letter) :
    condition.refusal ≠ .undefined other := by
  revert condition
  cases letter with
  | aosResponse | regenerateCourtOrders => cases defined
  | _ => simp [conditions]

theorem isSpecified_of_defined
    {letter : Letter} (defined : letter.isUndefined = false) (facts : CaseFacts) (party : Party) :
    IsSpecified (letter.rule.select facts party) := by
  intro other refused
  have decided := letter.rule_decides facts party
  have unmet : FirstUnmet (letter.conditions facts party) (.undefined other) :=
    (decided.error_iff _).1 refused
  obtain ⟨condition, asked, same⟩ := unmet.exists_condition
  exact refusal_ne_undefined defined asked other same

end Letter

end LetterPacks
