import LetterPacks.Proofs.Calendar.WrittenDate
import LetterPacks.Proofs.Text.Trim

/-!
# The two readers of dates

A typed date may have white space around it, and the date of a case file may have white space within
it.  What the first reader accepts is accepted by the second one, and as the same date
(`ofCaseText_of_ofTypedText`).  The white space that the first one leaves out is white space that
the second one passes over: in front of the year, and behind the day.
-/

namespace LetterPacks.Date

variable {text rest tail : List Char}

private theorem stops_of_allBlank (blank : Text.AllBlank tail) :
    ∀ next ∈ tail.head?, next.isDigit = false := by
  intro next first
  apply Bool.eq_false_iff.2
  intro digit
  have shown := not_blank_of_isDigit digit
  rw [blank next (List.mem_of_mem_head? first)] at shown
  cases shown

private theorem leadingDigits_within_append
    (limit : Option Nat) (text : List Char) (stops : ∀ next ∈ tail.head?, next.isDigit = false) :
    Number.leadingDigits (within limit (text ++ tail)) =
      Number.leadingDigits (within limit text) := by
  cases limit with
  | none =>
      exact Number.leadingDigits_local text stops
  | some count =>
      rw [within, within, List.take_append]
      apply Number.leadingDigits_local
      intro next first
      apply stops
      rw [List.head?_take] at first
      split at first
      · cases first
      · exact first

private theorem exists_run_of_readCount
    {limit : Option Nat} {value : Nat} (read : readCount limit text = .ok (value, rest)) :
    ∃ run, text = run ++ rest ∧ Number.leadingDigits (within limit text) = run ∧ run ≠ [] ∧
      Number.valueOfDigits run ≤ largestCount ∧ Number.valueOfDigits run = value := by
  have front : Number.leadingDigits (within limit text) <+: text := by
    refine (List.takeWhile_prefix _).trans ?_
    cases limit with
    | none => exact List.prefix_rfl
    | some count => exact List.take_prefix count text
  obtain ⟨others, split⟩ := front
  have counted : Number.leadingDigits (within limit text) ≠ [] ∧
      Number.valueOfDigits (Number.leadingDigits (within limit text)) ≤ largestCount ∧
      Number.valueOfDigits (Number.leadingDigits (within limit text)) = value ∧
      text.drop (Number.leadingDigits (within limit text)).length = rest := by
    cases limit <;>
      · simp only [readCount] at read
        split at read
        · cases read
        · cases read
        · next nonempty =>
            split at read
            · next small =>
                obtain ⟨sameValue, left⟩ := Prod.mk.inj (Except.ok.inj read)
                exact ⟨nonempty, small, sameValue, left⟩
            · cases read
  obtain ⟨nonempty, small, sameValue, left⟩ := counted
  generalize taken : Number.leadingDigits (within limit text) = run at *
  rw [← split, List.drop_left] at left
  subst left
  exact ⟨run, split.symm, rfl, nonempty, small, sameValue⟩

private theorem readCount_append
    {limit : Option Nat} {value : Nat} (read : readCount limit text = .ok (value, rest))
    (stops : ∀ next ∈ tail.head?, next.isDigit = false) :
    readCount limit (text ++ tail) = .ok (value, rest ++ tail) := by
  obtain ⟨run, split, taken, nonempty, small, rfl⟩ := exists_run_of_readCount read
  rw [← leadingDigits_within_append limit text stops] at taken
  rw [split, List.append_assoc] at taken ⊢
  exact readCount_of_run taken nonempty small

private theorem dropBlanks_append_of_cons
    {first : Char} (shown : Text.dropBlanks text = first :: rest) (tail : List Char) :
    Text.dropBlanks (text ++ tail) = first :: (rest ++ tail) := by
  unfold Text.dropBlanks at shown ⊢
  rw [List.dropWhile_append, shown]
  rfl

private theorem checkedCount_append
    {limit : Option Nat} (sign : Nat → Int) {year : Int}
    (read : (do
      let (size, left) ← readCount limit text
      checkYear (sign size) left) = .ok (year, rest))
    (stops : ∀ next ∈ tail.head?, next.isDigit = false) :
    (do
      let (size, left) ← readCount limit (text ++ tail)
      checkYear (sign size) left) = .ok (year, rest ++ tail) := by
  cases counted : readCount limit text with
  | error fault =>
      rw [counted] at read
      cases read
  | ok found =>
      obtain ⟨size, left⟩ := found
      rw [counted] at read
      rw [readCount_append counted stops]
      simp only [bind, Except.bind, checkYear] at read ⊢
      split at read
      · next holds =>
          obtain ⟨rfl, rfl⟩ := Prod.mk.inj (Except.ok.inj read)
          rw [if_pos holds]
      · cases read

private theorem readYear_append
    {year : Int} (read : readYear text = .ok (year, rest)) (blank : Text.AllBlank tail) :
    readYear (text ++ tail) = .ok (year, rest ++ tail) := by
  have stops := stops_of_allBlank blank
  obtain ⟨first, others, shown⟩ : ∃ first others, Text.dropBlanks text = first :: others := by
    apply List.exists_cons_of_ne_nil
    intro nothing
    rw [readYear, nothing] at read
    cases read
  rw [readYear, shown] at read
  rw [readYear, dropBlanks_append_of_cons shown]
  split at read
  · next same =>
      obtain ⟨rfl, rfl⟩ := List.cons.inj same
      exact checkedCount_append (fun size => -size) read stops
  · next same =>
      obtain ⟨rfl, rfl⟩ := List.cons.inj same
      exact checkedCount_append (fun size => size) read stops
  · next noMinus noPlus =>
      split
      · next same =>
          obtain ⟨rfl, _⟩ := List.cons.inj same
          cases noMinus others rfl
      · next same =>
          obtain ⟨rfl, _⟩ := List.cons.inj same
          cases noPlus others rfl
      · exact checkedCount_append (fun size => size) read stops

private theorem readPart_append
    {greatest value : Nat} (read : readPart greatest text = .ok (value, rest))
    (blank : Text.AllBlank tail) :
    readPart greatest (text ++ tail) = .ok (value, rest ++ tail) := by
  obtain ⟨first, others, shown⟩ : ∃ first others, Text.dropBlanks text = first :: others := by
    apply List.exists_cons_of_ne_nil
    intro nothing
    rw [readPart, nothing] at read
    cases read
  rw [readPart, shown] at read
  rw [readPart, dropBlanks_append_of_cons shown]
  cases counted : readCount (some 2) (first :: others) with
  | error fault =>
      rw [counted] at read
      cases read
  | ok found =>
      obtain ⟨size, left⟩ := found
      have countedTail := readCount_append counted (stops_of_allBlank blank)
      rw [counted] at read
      rw [← List.cons_append, countedTail]
      simp only [bind, Except.bind] at read ⊢
      split at read
      · next holds =>
          obtain ⟨rfl, rfl⟩ := Prod.mk.inj (Except.ok.inj read)
          rw [if_pos holds]
      · cases read

private theorem readHyphen_strict_eq_ok_iff :
    readHyphen .strict text = .ok rest ↔ text = '-' :: rest := by
  rw [readHyphen, skipGap]
  split <;> simp_all

private theorem read_eq_ok_iff {spacing : Spacing} {date : Date} :
    read spacing text = .ok date ↔
      ∃ year afterYear, readYear text = .ok (year, afterYear) ∧
      ∃ atMonth, readHyphen spacing afterYear = .ok atMonth ∧
      ∃ month afterMonth, readPart 12 atMonth = .ok (month, afterMonth) ∧
      ∃ atDay, readHyphen spacing afterMonth = .ok atDay ∧
      ∃ day afterDay, readPart 31 atDay = .ok (day, afterDay) ∧
        skipGap spacing afterDay = [] ∧ ofParts? year month day = some date := by
  unfold read
  rcases firstRead : readYear text with fault | ⟨year, afterYear⟩
  · simp [bind, Except.bind]
  rcases secondRead : readHyphen spacing afterYear with fault | atMonth
  · simp [bind, Except.bind, secondRead]
  rcases thirdRead : readPart 12 atMonth with fault | ⟨month, afterMonth⟩
  · simp [bind, Except.bind, secondRead, thirdRead]
  rcases fourthRead : readHyphen spacing afterMonth with fault | atDay
  · simp [bind, Except.bind, secondRead, thirdRead, fourthRead]
  rcases fifthRead : readPart 31 atDay with fault | ⟨day, afterDay⟩
  · simp [bind, Except.bind, secondRead, thirdRead, fourthRead, fifthRead]
  cases left : skipGap spacing afterDay with
  | cons _ _ => simp [bind, Except.bind, secondRead, thirdRead, fourthRead, fifthRead, left]
  | nil =>
      cases found : ofParts? year month day <;>
        simp [bind, Except.bind, secondRead, thirdRead, fourthRead, fifthRead, left, found,
          and_assoc]

private theorem read_append_of_allBlank
    {before : List Char} (spacing : Spacing) (text : List Char) (blank : Text.AllBlank before) :
    read spacing (before ++ text) = read spacing text := by
  have sameYear : readYear (before ++ text) = readYear text := by
    rw [readYear, readYear, Text.dropBlanks_append_of_blank text blank]
  rw [read, read, sameYear]

/-- A text without white space before its hyphens and at its end is read with white space behind it
where that is allowed. -/
private theorem read_spaced_of_read_strict
    {date : Date} (strict : read .strict text = .ok date) (blank : Text.AllBlank tail) :
    read .spaced (text ++ tail) = .ok date := by
  obtain ⟨year, afterYear, yearRead, atMonth, firstHyphen, month, afterMonth, monthRead, atDay,
    secondHyphen, day, afterDay, dayRead, left, found⟩ := read_eq_ok_iff.1 strict
  rw [readHyphen_strict_eq_ok_iff] at firstHyphen secondHyphen
  obtain rfl : afterDay = [] := left
  subst firstHyphen secondHyphen
  have gone : skipGap .spaced ([] ++ tail) = [] := List.dropWhile_eq_nil_iff.2 blank
  exact read_eq_ok_iff.2 ⟨year, _, readYear_append yearRead blank, _, readHyphen_cons .spaced _,
    month, _, readPart_append monthRead blank, _, readHyphen_cons .spaced _, day, _,
    readPart_append dayRead blank, gone, found⟩

/-- What is accepted as a typed date is accepted in a case file, as the same date. -/
theorem ofCaseText_of_ofTypedText
    {text : String} {date : Date} (typed : ofTypedText text = .ok date) :
    ofCaseText text = .ok date := by
  obtain ⟨before, after, blankBefore, blankAfter, split⟩ :=
    (Text.isTrimmed_trimChars text.toList).padded
  rw [ofCaseText, split, List.append_assoc, read_append_of_allBlank _ _ blankBefore]
  exact read_spaced_of_read_strict typed blankAfter

private theorem not_blank_of_mem_paddedDigits
    {width number : Nat} {character : Char}
    (member : character ∈ Number.paddedDigits width number) : Text.isBlank character = false :=
  not_blank_of_isDigit (Number.isDigit_of_mem_paddedDigits member)

private theorem not_blank_of_mem_yearChars
    {year : Int} {character : Char} (member : character ∈ yearChars year) :
    Text.isBlank character = false := by
  unfold yearChars at member
  dsimp only at member
  split at member
  · rcases List.mem_cons.1 member with rfl | digit
    · decide
    · exact not_blank_of_mem_paddedDigits digit
  split at member
  · rcases List.mem_cons.1 member with rfl | digit
    · decide
    · exact not_blank_of_mem_paddedDigits digit
  · exact not_blank_of_mem_paddedDigits member

private theorem not_blank_of_mem_toChars
    {date : Date} {character : Char} (member : character ∈ date.toChars) :
    Text.isBlank character = false := by
  simp only [toChars, List.append_assoc, List.cons_append, List.mem_append, List.mem_cons] at member
  rcases member with year | rfl | month | rfl | day
  · exact not_blank_of_mem_yearChars year
  · decide
  · exact not_blank_of_mem_paddedDigits month
  · decide
  · exact not_blank_of_mem_paddedDigits day

private theorem isTrimmed_toChars
    (date : Date) {before after : List Char} (blankBefore : Text.AllBlank before)
    (blankAfter : Text.AllBlank after) :
    Text.IsTrimmed date.toChars (before ++ date.toChars ++ after) where
  padded := ⟨before, after, blankBefore, blankAfter, rfl⟩
  first := fun _ listed => not_blank_of_mem_toChars (List.mem_of_mem_head? listed)
  last := fun _ listed => not_blank_of_mem_toChars (List.mem_of_mem_getLast? listed)

theorem ofTypedText_padded
    (date : Date) {before after : String} (blankBefore : Text.AllBlank before.toList)
    (blankAfter : Text.AllBlank after.toList) :
    ofTypedText (before ++ date.toText ++ after) = .ok date := by
  rw [ofTypedText, String.toList_append, String.toList_append, toText, String.toList_ofList,
    (date.isTrimmed_toChars blankBefore blankAfter).trimChars_eq]
  exact read_toChars .strict date

end LetterPacks.Date
