import LetterPacks.Proofs.Catalog.Standard
import LetterPacks.Proofs.Dispatch.Session
import LetterPacks.Proofs.Selection.Outline

/-!
# The standard rules read outlines

Over the standard catalog nothing decides on a letter but the outline of the case for its recipient.
Texts, dates and rendered documents have no influence on a letter to either party, and the cases of
the grid stand for all cases.
-/

namespace LetterPacks.Catalog

/-- The rules of the registered letters tell only outlines apart. -/
structure ReadsOutlines (catalog : Catalog) : Prop where
  /-- The same pack is selected in alike cases, or none for the same reason. -/
  alike : ∀ letter rule, catalog.lookup letter = .ok rule →
    ∀ party left right, CaseFacts.Alike party left right →
      rule.select left party = rule.select right party ∧
        rule.resolve left party = rule.resolve right party
  /-- What is struck out of a case was not read for either party. -/
  redacted : ∀ letter rule, catalog.lookup letter = .ok rule →
    ∀ party left right, left.redacted = right.redacted →
      rule.select left party = rule.select right party
  /-- One case of the grid stands for a case in all letters to a party. -/
  grid : ∀ facts party, ∃ plain ∈ CaseFacts.grid, CaseFacts.Alike party facts plain ∧
    ∀ letter rule, catalog.lookup letter = .ok rule →
      rule.select facts party = rule.select plain party

variable {catalog : Catalog}

private theorem select_eq_of_alike
    (built : standard = .ok catalog) {letter : Letter} {rule : SelectionRule}
    (found : catalog.lookup letter = .ok rule) {party : Party} {left right : CaseFacts}
    (alike : CaseFacts.Alike party left right) :
    rule.select left party = rule.select right party := by
  obtain rfl := eq_rule_of_lookup built found
  exact alike.select_rule_eq letter

theorem readsOutlines_of_standard (built : standard = .ok catalog) : catalog.ReadsOutlines where
  alike letter rule found party left right alike := by
    have same := select_eq_of_alike built found alike
    refine ⟨same, ?_⟩
    rw [SelectionRule.resolve, same]
    rfl
  redacted letter rule found party left right same := by
    calc rule.select left party
        = rule.select left.redacted party :=
          (select_eq_of_alike built found (left.alike_redacted party)).symm
      _ = rule.select right.redacted party := by rw [same]
      _ = rule.select right party :=
          select_eq_of_alike built found (right.alike_redacted party)
  grid facts party := by
    obtain ⟨plain, listed, alike⟩ := facts.exists_mem_grid_alike party
    refine ⟨plain, listed, alike, ?_⟩
    intro letter rule found
    exact select_eq_of_alike built found alike

/-- Names, a blank address, a date and a form on file do not change the notice to the respondent. -/
theorem readsOutlines_of_standard_of_written :
    let plain := (CaseFile.bare 7).facts
    let written : CaseFacts := { plain with
      applicant2 := {
        firstName := "Ann"
        email := some " "
        solicitor := some ⟨"Kay Moss", some "kay@example.org", none⟩ }
      application := { plain.application with
        issueDate := some ⟨2024, 2, 29, by decide⟩ }
      documents := [⟨.conditionalOrderApplicationForm, "D84", "D84-7.pdf", "D84-7"⟩] }
    standard = .ok ⟨standardRules⟩ ∧ ReadsOutlines ⟨standardRules⟩ ∧
      plain ≠ written ∧ CaseFacts.Alike .applicant2 plain written ∧
      noticeRule.select written .applicant2 = noticeRule.select plain .applicant2 := by
  intro plain written
  have alike : CaseFacts.Alike .applicant2 plain written :=
    ⟨rfl, rfl, rfl, rfl, rfl, rfl, rfl, rfl, rfl, rfl, by decide, rfl⟩
  have reads := readsOutlines_of_standard standard_eq_ok
  have found := lookup_of_standard standard_eq_ok .noticeOfProceedings
  exact ⟨standard_eq_ok, reads, by decide, alike,
    (reads.alike _ _ found _ _ _ alike).1.symm⟩

end LetterPacks.Catalog
