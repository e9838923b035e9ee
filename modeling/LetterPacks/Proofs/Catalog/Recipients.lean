import LetterPacks.Proofs.Catalog.Standard
import LetterPacks.Proofs.Dispatch.Session
import LetterPacks.Proofs.Selection.Conditions

/-!
# The recipients of the standard letters

Over the standard catalog every letter goes to the parties of its recipients, and to nobody else.
Where a party has carried on a joint application alone, the other one is told, and both are where
it is not on record who did.
-/

namespace LetterPacks

namespace Letter

/-- The letter tells that a joint application is carried on by one applicant; `applying` is who is
on record for it. -/
def TellsSwitch (letter : Letter) (facts : CaseFacts) (applying : Option Party) : Prop :=
  match letter with
  | .switchToSoleConditionalOrder =>
      facts.conditionalOrder.switchedToSole = true ∧
        facts.conditionalOrder.applyingParty = applying
  | .switchToSoleFinalOrder =>
      facts.finalOrder.switchedToSole = true ∧ facts.finalOrder.applyingParty = applying ∧
        ¬ facts.AsksSeparation
  | _ => False

private theorem goesTo_iff_of_tellsSwitch
    {letter : Letter} {facts : CaseFacts} {applying : Option Party}
    (tells : letter.TellsSwitch facts applying) (party : Party) :
    letter.GoesTo facts party ↔ applying ≠ some party := by
  cases letter with
  | switchToSoleConditionalOrder =>
      obtain ⟨switched, rfl⟩ := tells
      exact and_iff_right switched
  | switchToSoleFinalOrder =>
      obtain ⟨switched, rfl, divorce⟩ := tells
      exact (and_iff_right switched).trans (and_iff_left divorce)
  | _ => exact tells.elim

/-- The letter is resolved for its recipients, and refused for the first condition that a party
does not meet. -/
structure GoesOut (letter : Letter) (resolve : CaseFacts → Party → Except Refusal Pack) : Prop where
  sent : ∀ facts party, (∃ pack, resolve facts party = .ok pack) ↔ letter.GoesTo facts party
  refused : ∀ facts party refusal,
    resolve facts party = .error refusal ↔ FirstUnmet (letter.conditions facts party) refusal
  toOther : ∀ facts applying, letter.TellsSwitch facts (some applying) →
    ∀ party, (∃ pack, resolve facts party = .ok pack) ↔ party = applying.other
  toBoth : ∀ facts, letter.TellsSwitch facts none →
    ∀ party, ∃ pack, resolve facts party = .ok pack

end Letter

namespace Catalog

theorem goesOut_of_lookup
    {catalog : Catalog} {letter : Letter} {rule : SelectionRule}
    (built : standard = .ok catalog) (found : catalog.lookup letter = .ok rule) :
    letter.GoesOut rule.resolve := by
  obtain rfl := Except.ok.inj ((lookup_of_standard built letter).symm.trans found)
  have decides : ∀ facts party,
      Decides (letter.conditions facts party) (letter.rule.resolve facts party) :=
    fun facts party => (letter.rule_decides facts party).map PackKey.toPack
  have sent : ∀ facts party,
      (∃ pack, letter.rule.resolve facts party = .ok pack) ↔ letter.GoesTo facts party :=
    fun facts party => (decides facts party).ok_iff.trans Letter.goesTo_iff.symm
  refine ⟨sent, fun facts party => (decides facts party).error_iff, ?_, ?_⟩
  · intro facts applying tells party
    rw [sent, Letter.goesTo_iff_of_tellsSwitch tells]
    cases applying <;> cases party <;> decide
  · intro facts tells party
    rw [sent, Letter.goesTo_iff_of_tellsSwitch tells]
    exact (Option.some_ne_none party).symm

theorem goesOut_of_lookup_of_switched :
    let facts := { (CaseFile.bare 7).facts with
      finalOrder := { switchedToSole := true, applyingParty := some .applicant2 } }
    standard = .ok ⟨standardRules⟩ ∧
      lookup ⟨standardRules⟩ .switchToSoleFinalOrder = .ok switchedFinalOrderRule ∧
      Letter.switchToSoleFinalOrder.GoesOut switchedFinalOrderRule.resolve ∧
      Letter.switchToSoleFinalOrder.GoesTo facts .applicant1 ∧
      switchedFinalOrderRule.resolve facts .applicant1 = .ok PackKey.switchToSoleFo.toPack ∧
      switchedFinalOrderRule.resolve facts .applicant2 =
        .error (.notApplicable .switchToSoleFinalOrder .applicant2 .switchedParty) := by
  have found := lookup_of_standard standard_eq_ok .switchToSoleFinalOrder
  exact ⟨standard_eq_ok, found, goesOut_of_lookup standard_eq_ok found, by
    refine ⟨rfl, by decide, ?_⟩
    rw [CaseFacts.asksSeparation_iff]
    decide, rfl, rfl⟩

end Catalog

end LetterPacks
