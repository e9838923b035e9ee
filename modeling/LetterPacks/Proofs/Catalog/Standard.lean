import LetterPacks.Catalog.DecisionTable
import LetterPacks.Proofs.Pack.Naming
import LetterPacks.Proofs.Selection.Declaration

/-!
# The standard catalog

The standard catalog is built, since every descriptor of the table is sound and no two standard
rules are for one letter.  It knows every letter by its standard rule.
-/

namespace LetterPacks

private theorem checkPacks_eq_ok (keys : List PackKey) : checkPacks keys = .ok () := by
  induction keys with
  | nil =>
      rfl
  | cons key keys ih =>
      rw [checkPacks, key.fault?_descriptor]
      exact ih

namespace Catalog

theorem standard_eq_ok : standard = .ok ⟨standardRules⟩ := by
  rw [standard, checkPacks_eq_ok]
  rfl

theorem rules_of_standard {catalog : Catalog} (built : standard = .ok catalog) :
    catalog.rules = standardRules := by
  rw [standard_eq_ok] at built
  exact (congrArg rules (Except.ok.inj built)).symm

theorem lookup_of_standard
    {catalog : Catalog} (built : standard = .ok catalog) (letter : Letter) :
    catalog.lookup letter = .ok letter.rule := by
  rw [lookup, rule?, rules_of_standard built]
  cases letter <;> rfl

theorem eq_rule_of_lookup
    {catalog : Catalog} {letter : Letter} {rule : SelectionRule}
    (built : standard = .ok catalog) (found : catalog.lookup letter = .ok rule) :
    letter.rule = rule := by
  rw [lookup_of_standard built letter] at found
  exact Except.ok.inj found

theorem selected_of_resolved
    {catalog : Catalog} {letter : Letter} {rule : SelectionRule} {facts : CaseFacts}
    {party : Party} {pack : Pack} (built : standard = .ok catalog)
    (found : catalog.lookup letter = .ok rule) (resolved : rule.resolve facts party = .ok pack) :
    ∃ key, letter.rule.select facts party = .ok key ∧ pack = key.toPack := by
  obtain rfl := eq_rule_of_lookup built found
  cases selected : letter.rule.select facts party with
  | error refusal =>
      rw [SelectionRule.resolve, selected] at resolved
      cases resolved
  | ok key =>
      rw [SelectionRule.resolve, selected] at resolved
      exact ⟨key, rfl, (Except.ok.inj resolved).symm⟩

end Catalog

end LetterPacks
