import LetterPacks.Calendar.DateReader
import LetterPacks.Proofs.Number.Digits

/-!
# Written dates

Every date of the calendar is read back from its written form, whichever spacing is allowed
(`read_toChars`).  The year of a written date carries a sign or has four digits, so it is not read
any further than it was written.
-/

namespace LetterPacks.Date

variable {run rest : List Char}

def within (limit : Option Nat) (text : List Char) : List Char :=
  match limit with
  | some count => text.take count
  | none => text

theorem readCount_of_run
    {limit : Option Nat} (taken : Number.leadingDigits (within limit (run ++ rest)) = run)
    (nonempty : run ≠ []) (small : Number.valueOfDigits run ≤ largestCount) :
    readCount limit (run ++ rest) = .ok (Number.valueOfDigits run, rest) := by
  obtain ⟨digit, others, rfl⟩ := List.exists_cons_of_ne_nil nonempty
  have left : List.drop (digit :: others).length (digit :: (others ++ rest)) = rest :=
    List.drop_left
  cases limit <;>
    · simp only [within, List.cons_append] at taken
      simp only [readCount, List.cons_append, taken, small, if_true, left]

private theorem readCount_unlimited
    (digits : ∀ digit ∈ run, digit.isDigit = true) (nonempty : run ≠ [])
    (stops : ∀ next ∈ rest.head?, next.isDigit = false)
    (small : Number.valueOfDigits run ≤ largestCount) :
    readCount none (run ++ rest) = .ok (Number.valueOfDigits run, rest) :=
  readCount_of_run (Number.leadingDigits_append digits stops) nonempty small

private theorem readCount_limited
    (digits : ∀ digit ∈ run, digit.isDigit = true) (nonempty : run ≠ [])
    (small : Number.valueOfDigits run ≤ largestCount) (rest : List Char) :
    readCount (some run.length) (run ++ rest) = .ok (Number.valueOfDigits run, rest) := by
  refine readCount_of_run ?_ nonempty small
  rw [within, List.take_left]
  exact Number.leadingDigits_of_digits digits

theorem not_blank_of_isDigit {character : Char} (digit : character.isDigit = true) :
    Text.isBlank character = false := by
  have range : 48 ≤ character.toNat ∧ character.toNat ≤ 57 := by
    simp only [Char.isDigit, Bool.and_eq_true, decide_eq_true_eq] at digit
    exact digit
  simp only [Text.isBlank, Bool.or_eq_false_iff, Bool.and_eq_false_iff, decide_eq_false_iff_not,
    beq_eq_false_iff_ne]
  omega

private theorem dropBlanks_of_digits
    (digits : ∀ digit ∈ run, digit.isDigit = true) (nonempty : run ≠ []) (rest : List Char) :
    Text.dropBlanks (run ++ rest) = run ++ rest := by
  obtain ⟨digit, others, rfl⟩ := List.exists_cons_of_ne_nil nonempty
  exact Text.dropBlanks_cons_of_not_blank _ (not_blank_of_isDigit (digits digit List.mem_cons_self))

private theorem checkYear_of_calendar
    {year : Int} (first : firstYear ≤ year) (last : year ≤ lastYear) (rest : List Char) :
    checkYear year rest = .ok (year, rest) := by
  refine if_pos ?_
  simp only [firstYear, lastYear] at first last
  omega

private theorem readYear_yearChars
    {year : Int} (first : firstYear ≤ year) (last : year ≤ lastYear) (rest : List Char) :
    readYear (yearChars year ++ '-' :: rest) = .ok (year, '-' :: rest) := by
  have digits : ∀ digit ∈ Number.paddedDigits 4 year.natAbs, digit.isDigit = true :=
    fun digit => Number.isDigit_of_mem_paddedDigits
  have nonempty := Number.paddedDigits_ne_nil 4 year.natAbs
  have checked := checkYear_of_calendar first last ('-' :: rest)
  simp only [firstYear, lastYear] at first last
  have small : Number.valueOfDigits (Number.paddedDigits 4 year.natAbs) ≤ largestCount := by
    rw [Number.valueOfDigits_paddedDigits, largestCount]
    omega
  have stops : ∀ next ∈ ('-' :: rest).head?, next.isDigit = false := by
    rintro next ⟨⟩
    rfl
  unfold yearChars
  by_cases negative : year < 0
  · have size : -(year.natAbs : Int) = year := by omega
    simp only [negative, if_true, List.cons_append, readYear]
    rw [Text.dropBlanks_cons_of_not_blank _ (by decide)]
    simp only [readCount_unlimited digits nonempty stops small, bind, Except.bind,
      Number.valueOfDigits_paddedDigits, size]
    exact checked
  · have size : (year.natAbs : Int) = year := by omega
    by_cases long : 9999 < year
    · simp only [negative, long, if_true, if_false, List.cons_append, readYear]
      rw [Text.dropBlanks_cons_of_not_blank _ (by decide)]
      simp only [readCount_unlimited digits nonempty stops small, bind, Except.bind,
        Number.valueOfDigits_paddedDigits, size]
      exact checked
    · have four : (Number.paddedDigits 4 year.natAbs).length = 4 :=
        Number.length_paddedDigits (by decide) (show year.natAbs < 10000 by omega)
      have counted := readCount_limited digits nonempty small ('-' :: rest)
      rw [four] at counted
      simp only [negative, long, if_false, readYear]
      rw [dropBlanks_of_digits digits nonempty]
      obtain ⟨digit, others, front⟩ := List.exists_cons_of_ne_nil nonempty
      have isDigit : digit.isDigit = true := digits digit (front ▸ List.mem_cons_self)
      rw [front, List.cons_append] at counted ⊢
      split
      · next same =>
          obtain ⟨rfl, _⟩ := List.cons.inj same
          cases isDigit
      · next same =>
          obtain ⟨rfl, _⟩ := List.cons.inj same
          cases isDigit
      · rw [counted]
        simp only [bind, Except.bind, ← front, Number.valueOfDigits_paddedDigits, size]
        exact checked

private theorem readPart_paddedDigits
    {greatest value : Nat} (atLeast : 1 ≤ value) (atMost : value ≤ greatest)
    (short : greatest < 100) (rest : List Char) :
    readPart greatest (Number.paddedDigits 2 value ++ rest) = .ok (value, rest) := by
  have digits : ∀ digit ∈ Number.paddedDigits 2 value, digit.isDigit = true :=
    fun digit => Number.isDigit_of_mem_paddedDigits
  have nonempty := Number.paddedDigits_ne_nil 2 value
  have two : (Number.paddedDigits 2 value).length = 2 :=
    Number.length_paddedDigits (by decide) (show value < 100 by omega)
  have small : Number.valueOfDigits (Number.paddedDigits 2 value) ≤ largestCount := by
    rw [Number.valueOfDigits_paddedDigits, largestCount]
    omega
  have counted := readCount_limited digits nonempty small rest
  rw [two] at counted
  rw [readPart, dropBlanks_of_digits digits nonempty, counted]
  simp only [bind, Except.bind, Number.valueOfDigits_paddedDigits, atLeast, atMost, and_self,
    if_true]

private theorem skipGap_cons
    {spacing : Spacing} {first : Char} (printed : Text.isBlank first = false) :
    skipGap spacing (first :: rest) = first :: rest := by
  cases spacing with
  | strict => rfl
  | spaced => exact Text.dropBlanks_cons_of_not_blank rest printed

theorem readHyphen_cons (spacing : Spacing) (rest : List Char) :
    readHyphen spacing ('-' :: rest) = .ok rest := by
  rw [readHyphen, skipGap_cons (by decide)]
  rfl

private theorem daysInMonth_le (year : Int) (month : Nat) : daysInMonth year month ≤ 31 := by
  unfold daysInMonth
  split
  · split <;> decide
  all_goals decide

private theorem month_of_daysInMonth
    {year : Int} {month : Nat} (days : 0 < daysInMonth year month) :
    1 ≤ month ∧ month ≤ 12 := by
  unfold daysInMonth at days
  split at days
  all_goals omega

/-- A date lies between the first and the last year, in a month and on a day of it. -/
theorem bounds (date : Date) :
    (firstYear ≤ date.year ∧ date.year ≤ lastYear) ∧ (1 ≤ date.month ∧ date.month ≤ 12) ∧
      1 ≤ date.day ∧ date.day ≤ 31 := by
  have isDay := date.isDay
  simp only [isCalendarDay, Bool.and_eq_true, decide_eq_true_eq] at isDay
  obtain ⟨⟨⟨first, last⟩, one⟩, inMonth⟩ := isDay
  exact ⟨⟨first, last⟩, month_of_daysInMonth (Nat.lt_of_lt_of_le one inMonth), one,
    Nat.le_trans inMonth (daysInMonth_le date.year date.month)⟩

theorem read_toChars (spacing : Spacing) (date : Date) : read spacing date.toChars = .ok date := by
  obtain ⟨⟨first, last⟩, ⟨oneMonth, lastMonth⟩, oneDay, lastDay⟩ := date.bounds
  have month := readPart_paddedDigits oneMonth lastMonth (by decide)
    ('-' :: Number.paddedDigits 2 date.day)
  have day := readPart_paddedDigits oneDay lastDay (by decide) []
  rw [List.append_nil] at day
  have gone : skipGap spacing [] = [] := by
    cases spacing <;> rfl
  simp only [read, toChars, List.cons_append, List.append_assoc, readYear_yearChars first last,
    readHyphen_cons, month, day, gone, bind, Except.bind, ofParts?_parts]

theorem ofCaseText_toText (date : Date) : ofCaseText date.toText = .ok date := by
  rw [ofCaseText, toText, String.toList_ofList]
  exact read_toChars .spaced date

end LetterPacks.Date
