import LetterPacks.Proofs.Catalog.AuditTable
import LetterPacks.Proofs.Selection.Reachability

/-!
# The decision table is complete

The decision table of the standard catalog has rows for just the packs that somebody gets: none is
missing and none is dead.  Every pack stands there, under one letter.
-/

namespace LetterPacks.Catalog

variable {catalog : Catalog} {letter : Letter} {key : PackKey}

def Lists (catalog : Catalog) (letter : Letter) (key : PackKey) : Prop :=
  ∃ row ∈ catalog.decisionTable, row.letter = letter ∧ row.pack = key

private theorem lists_iff_declared (built : standard = .ok catalog) :
    catalog.Lists letter key ↔ key ∈ letter.rule.packs := by
  constructor
  · rintro ⟨row, member, rfl, rfl⟩
    rw [decisionTable, rules_of_standard built, Letter.standardRules_eq_map_rule,
      List.flatMap_map] at member
    obtain ⟨listed, _, member⟩ := List.mem_flatMap.1 member
    obtain ⟨declared, among, member⟩ := List.mem_flatMap.1 member
    obtain ⟨sameLetter, samePack⟩ := of_mem_rows_descriptor member
    rw [sameLetter, samePack, Letter.letter_rule]
    exact among
  · intro declared
    have rows : catalog.rowsFor letter key ≠ [] := by
      rw [rowsFor_of_standard built declared]
      exact rows_descriptor_ne_nil key letter
    obtain ⟨row, member⟩ := List.exists_mem_of_ne_nil _ rows
    rw [rowsFor, List.mem_filter, decide_eq_true_iff] at member
    exact ⟨row, member.1, member.2⟩

/-- What an audit relies on: the table shows what is sent, all of it and nothing else. -/
structure ListsReachable (catalog : Catalog) : Prop where
  lists_iff : ∀ letter key, catalog.Lists letter key ↔
    ∃ rule facts party, catalog.lookup letter = .ok rule ∧ rule.select facts party = .ok key
  single : ∀ letter other key, catalog.Lists letter key → catalog.Lists other key → letter = other
  complete : ∀ key, ∃ letter, catalog.Lists letter key

private theorem listsReachable_of_standard
    (built : standard = .ok catalog) : catalog.ListsReachable where
  lists_iff letter key := by
    rw [lists_iff_declared built, Letter.mem_packs_iff_selected]
    constructor
    · rintro ⟨facts, party, selected⟩
      exact ⟨letter.rule, facts, party, lookup_of_standard built letter, selected⟩
    · rintro ⟨rule, facts, party, found, selected⟩
      obtain rfl := Except.ok.inj ((lookup_of_standard built letter).symm.trans found)
      exact ⟨facts, party, selected⟩
  single letter other key here there :=
    Letter.eq_of_mem_packs ((lists_iff_declared built).1 here) ((lists_iff_declared built).1 there)
  complete key := by
    obtain ⟨letter, declared⟩ := Letter.exists_mem_packs key
    exact ⟨letter, (lists_iff_declared built).2 declared⟩

/-- The standard catalog is built, and its table is complete. -/
theorem exists_listsReachable_standard :
    ∃ catalog, standard = .ok catalog ∧ catalog.ListsReachable :=
  ⟨_, standard_eq_ok, listsReachable_of_standard standard_eq_ok⟩

end LetterPacks.Catalog
