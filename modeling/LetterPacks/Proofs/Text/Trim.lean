import LetterPacks.Text.Blank
import Mathlib.Data.List.TakeWhile

/-!
# Trimming

A text is its trimmed part with white space on either side, and the trimmed part begins and ends
with a character that is not white space, if it has any.  No other part of the text is like that, so
trimming is known by these two facts.
-/

namespace LetterPacks.Text

def AllBlank (characters : List Char) : Prop :=
  ∀ character ∈ characters, isBlank character = true

instance (characters : List Char) : Decidable (AllBlank characters) :=
  List.decidableBAll (fun character => isBlank character = true) characters

/-- Some characters are others without the white space at either end. -/
structure IsTrimmed (trimmed whole : List Char) : Prop where
  padded : ∃ before after, AllBlank before ∧ AllBlank after ∧ whole = before ++ trimmed ++ after
  first : ∀ character ∈ trimmed.head?, isBlank character = false
  last : ∀ character ∈ trimmed.getLast?, isBlank character = false

variable {trimmed whole : List Char}

private theorem dropBlanks_eq_self
    (first : ∀ character ∈ trimmed.head?, isBlank character = false) :
    dropBlanks trimmed = trimmed := by
  cases trimmed with
  | nil => rfl
  | cons character rest => exact dropBlanks_cons_of_not_blank rest (first character rfl)

private theorem first_of_dropBlanks (characters : List Char) :
    ∀ character ∈ (dropBlanks characters).head?, isBlank character = false := by
  intro character first
  have nonempty : dropBlanks characters ≠ [] := by
    intro nothing
    rw [nothing] at first
    cases first
  rw [List.head?_eq_some_head nonempty, Option.mem_some_iff] at first
  subst first
  exact List.head_dropWhile_not isBlank nonempty

private theorem exists_allBlank_append_dropBlanks (characters : List Char) :
    ∃ before, AllBlank before ∧ characters = before ++ dropBlanks characters :=
  ⟨characters.takeWhile isBlank, fun _ member => List.mem_takeWhile_imp member,
    (List.takeWhile_append_dropWhile).symm⟩

private theorem AllBlank.reverse {characters : List Char} (blank : AllBlank characters) :
    AllBlank characters.reverse :=
  fun character member => blank character (List.mem_reverse.1 member)

theorem isTrimmed_trimChars (characters : List Char) :
    IsTrimmed (trimChars characters) characters := by
  obtain ⟨before, blankBefore, split⟩ := exists_allBlank_append_dropBlanks characters
  obtain ⟨after, blankAfter, splitBack⟩ :=
    exists_allBlank_append_dropBlanks (dropBlanks characters).reverse
  have rest : dropBlanks characters = trimChars characters ++ after.reverse := by
    rw [trimChars, ← List.reverse_append, ← splitBack, List.reverse_reverse]
  refine ⟨⟨before, after.reverse, blankBefore, blankAfter.reverse, ?_⟩, ?_, ?_⟩
  · rw [List.append_assoc, ← rest]
    exact split
  · intro character first
    apply first_of_dropBlanks characters
    rw [rest, Option.mem_def, List.head?_append, Option.mem_def.1 first, Option.some_or]
  · intro character last
    rw [trimChars, List.getLast?_reverse] at last
    exact first_of_dropBlanks _ character last

theorem IsTrimmed.trimChars_eq (isTrimmed : IsTrimmed trimmed whole) :
    trimChars whole = trimmed := by
  obtain ⟨before, after, blankBefore, blankAfter, rfl⟩ := isTrimmed.padded
  rw [trimChars, List.append_assoc, dropBlanks_append_of_blank _ blankBefore]
  cases trimmed with
  | nil =>
      have nothing : dropBlanks ([] ++ after) = [] := List.dropWhile_eq_nil_iff.2 blankAfter
      rw [nothing]
      rfl
  | cons character rest =>
      rw [List.cons_append, dropBlanks_cons_of_not_blank _ (isTrimmed.first character rfl),
        ← List.cons_append, List.reverse_append, dropBlanks_append_of_blank _ blankAfter.reverse,
        dropBlanks_eq_self, List.reverse_reverse]
      intro final last
      rw [List.head?_reverse] at last
      exact isTrimmed.last final last

private theorem isTrimmed_iff : IsTrimmed trimmed whole ↔ trimChars whole = trimmed :=
  ⟨IsTrimmed.trimChars_eq, fun same => same ▸ isTrimmed_trimChars whole⟩

theorem trimChars_eq_nil_iff : trimChars whole = [] ↔ AllBlank whole := by
  rw [← isTrimmed_iff]
  constructor
  · rintro ⟨⟨before, after, blankBefore, blankAfter, rfl⟩, _, _⟩ character member
    rw [List.append_nil] at member
    exact (List.mem_append.1 member).elim (blankBefore character) (blankAfter character)
  · intro blank
    exact ⟨⟨whole, [], blank, List.forall_mem_nil _, by simp⟩, by simp, by simp⟩

theorem isTrimmed_trim (text : String) : IsTrimmed (trim text).toList text.toList := by
  rw [trim, String.toList_ofList]
  exact isTrimmed_trimChars text.toList

theorem trim_eq_empty_iff {text : String} : trim text = "" ↔ trimChars text.toList = [] := by
  rw [trim, ← String.ofList_nil, String.ofList_inj]

end LetterPacks.Text
