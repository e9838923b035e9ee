import LetterPacks.Text.Split

/-!
# Texts put together again

Splitting undoes joining.  Parts without the separator are got back from the text that joins them,
and lines that end in their only line feed are got back from the text in which they follow each
other.
-/

namespace LetterPacks.Text

private theorem splitChars_ne_nil (separator : Char) (text : List Char) :
    splitChars separator text ≠ [] := by
  cases text with
  | nil =>
      exact List.cons_ne_nil _ _
  | cons first rest =>
      rw [splitChars]
      split
      · exact List.cons_ne_nil _ _
      · split <;> exact List.cons_ne_nil _ _

private theorem splitChars_eq_splitOn (separator : Char) (text : List Char) :
    splitChars separator text = text.splitOn separator := by
  rw [List.splitOn_eq_splitOnP]
  induction text with
  | nil =>
      rfl
  | cons first rest ih =>
      obtain ⟨part, parts, cut⟩ :=
        List.exists_cons_of_ne_nil (splitChars_ne_nil separator rest)
      rw [List.splitOnP_cons_eq_if_modifyHead, ← ih, splitChars, cut]
      simp

theorem splitChars_intercalate
    {separator : Char} {parts : List (List Char)} (nonempty : parts ≠ [])
    (free : ∀ part ∈ parts, separator ∉ part) :
    splitChars separator (List.intercalate [separator] parts) = parts := by
  rw [splitChars_eq_splitOn]
  exact List.splitOn_intercalate separator free nonempty

theorem not_mem_intercalate
    {character separator : Char} {parts : List (List Char)} (other : character ≠ separator)
    (free : ∀ part ∈ parts, character ∉ part) :
    character ∉ List.intercalate [separator] parts := by
  induction parts with
  | nil =>
      exact List.not_mem_nil
  | cons part parts ih =>
      rw [List.forall_mem_cons] at free
      cases parts with
      | nil =>
          rw [List.intercalate_singleton]
          exact free.1
      | cons next parts =>
          rw [List.intercalate_cons_cons]
          simp [free.1, other, ih free.2]

private theorem linesOf_append {line : List Char} (free : '\n' ∉ line) (rest : List Char) :
    linesOf (line ++ '\n' :: rest) = (line ++ ['\n']) :: linesOf rest := by
  induction line with
  | nil =>
      rfl
  | cons first line ih =>
      rw [List.mem_cons, not_or] at free
      rw [List.cons_append, linesOf, if_neg (Ne.symm free.1), ih free.2]
      rfl

def IsLine (line : String) : Prop :=
  ∃ content : List Char, '\n' ∉ content ∧ line.toList = content ++ ['\n']

theorem lines_join {texts : List String} (single : ∀ line ∈ texts, IsLine line) :
    lines (String.join texts) = texts := by
  induction texts with
  | nil =>
      rfl
  | cons line texts ih =>
      rw [List.forall_mem_cons] at single
      obtain ⟨⟨content, free, written⟩, others⟩ := single
      have cut : linesOf (String.join (line :: texts)).toList =
          line.toList :: linesOf (String.join texts).toList := by
        rw [String.join_cons, String.toList_append, written, List.append_assoc]
        exact linesOf_append free _
      rw [lines, cut, List.map_cons, String.ofList_toList]
      exact congrArg (line :: ·) (ih others)

end LetterPacks.Text
