import LetterPacks.Number.Digits

/-!
# Written numbers

The digits of a number are read back as the number (`valueOfDigits_digits`), also behind filling
zeros, and a run of digits is taken whole when no digit follows it.
-/

namespace LetterPacks.Number

theorem isDigit_of_mem_digits {number : Nat} {digit : Char} (member : digit ∈ digits number) :
    digit.isDigit = true :=
  Nat.isDigit_of_mem_toDigits (by decide) (by decide) member

theorem digits_ne_nil (number : Nat) : digits number ≠ [] :=
  Nat.toDigits_ne_nil

private theorem continueValue_eq_ofDigitChars (value : Nat) (run : List Char) :
    continueValue value run = Nat.ofDigitChars 10 run value := by
  have step : (fun total digit => total * 10 + digitValue digit) =
      fun total (digit : Char) => 10 * total + (digit.toNat - '0'.toNat) := by
    funext total digit
    rw [Nat.mul_comm, digitValue]
  rw [continueValue, step]
  rfl

@[simp]
theorem valueOfDigits_digits (number : Nat) : valueOfDigits (digits number) = number := by
  rw [valueOfDigits, continueValue_eq_ofDigitChars]
  exact Nat.ofDigitChars_toDigits (by decide) (by decide)

theorem digits_injective {left right : Nat} (same : digits left = digits right) : left = right := by
  rw [← valueOfDigits_digits left, same, valueOfDigits_digits]

private theorem length_digits_le_iff {number width : Nat} (wide : 0 < width) :
    (digits number).length ≤ width ↔ number < Nat.pow 10 width :=
  Nat.length_toDigits_le_iff (by decide) wide

theorem eq_zero_of_digits_eq_cons {number : Nat} {rest : List Char}
    (written : digits number = '0' :: rest) : number = 0 ∧ rest = [] := by
  induction number using Nat.strongRecOn generalizing rest with
  | ind number ih =>
      by_cases small : number < 10
      · rw [digits, Nat.toDigits_of_lt_base small] at written
        obtain ⟨first, rfl⟩ := List.cons.inj written
        have onlyZero : ∀ digit < 10, Nat.digitChar digit = '0' → digit = 0 := by decide
        exact ⟨onlyZero number small first, rfl⟩
      · have large : 10 ≤ number := Nat.le_of_not_lt small
        rw [digits, Nat.toDigits_of_base_le (by decide) large] at written
        obtain ⟨first, others, front⟩ := List.exists_cons_of_ne_nil (digits_ne_nil (number / 10))
        rw [digits] at front
        rw [front, List.cons_append] at written
        obtain ⟨rfl, _⟩ := List.cons.inj written
        have vanishes := (ih (number / 10) (by omega) front).1
        omega

theorem exists_digits_of_prefix
    {number : Nat} {front : List Char} (cut : front <+: digits number) (nonempty : front ≠ []) :
    ∃ smaller ≤ number, front = digits smaller := by
  induction number using Nat.strongRecOn with
  | ind number ih =>
      by_cases small : number < 10
      · have single : digits number = [] ++ [Nat.digitChar number] :=
          Nat.toDigits_of_lt_base small
        rw [single, List.prefix_concat_iff, ← single, List.prefix_nil] at cut
        exact ⟨number, Nat.le_refl number, cut.resolve_right nonempty⟩
      · have large : 10 ≤ number := Nat.le_of_not_lt small
        have last : digits number =
            digits (number / 10) ++ [Nat.digitChar (number % 10)] :=
          Nat.toDigits_of_base_le (by decide) large
        rw [last, List.prefix_concat_iff, ← last] at cut
        rcases cut with whole | cut
        · exact ⟨number, Nat.le_refl number, whole⟩
        · obtain ⟨smaller, le, same⟩ := ih (number / 10) (by omega) cut
          exact ⟨smaller, by omega, same⟩

theorem isDigit_of_mem_paddedDigits
    {width number : Nat} {digit : Char} (member : digit ∈ paddedDigits width number) :
    digit.isDigit = true := by
  rcases List.mem_append.1 member with filling | member
  · rw [List.eq_of_mem_replicate filling]
    rfl
  · exact isDigit_of_mem_digits member

theorem paddedDigits_ne_nil (width number : Nat) : paddedDigits width number ≠ [] :=
  List.append_ne_nil_of_right_ne_nil _ (digits_ne_nil number)

theorem length_paddedDigits
    {width number : Nat} (wide : 0 < width) (fits : number < Nat.pow 10 width) :
    (paddedDigits width number).length = width := by
  have short := (length_digits_le_iff wide).2 fits
  rw [paddedDigits, List.length_append, List.length_replicate]
  omega

private theorem continueValue_replicate_zero (count : Nat) :
    continueValue 0 (List.replicate count '0') = 0 := by
  induction count with
  | zero =>
      rfl
  | succ count ih =>
      rw [List.replicate_succ, continueValue_cons]
      exact ih

@[simp]
theorem valueOfDigits_paddedDigits (width number : Nat) :
    valueOfDigits (paddedDigits width number) = number := by
  rw [paddedDigits, valueOfDigits, continueValue_append, continueValue_replicate_zero]
  exact valueOfDigits_digits number

variable {run rest : List Char}

theorem leadingDigits_of_not_digit (stops : ∀ next ∈ rest.head?, next.isDigit = false) :
    leadingDigits rest = [] := by
  cases rest with
  | nil =>
      rfl
  | cons next rest =>
      simp [leadingDigits, stops next rfl]

theorem leadingDigits_append
    (digits : ∀ digit ∈ run, digit.isDigit = true)
    (stops : ∀ next ∈ rest.head?, next.isDigit = false) :
    leadingDigits (run ++ rest) = run := by
  rw [leadingDigits, List.takeWhile_append_of_pos digits]
  change run ++ leadingDigits rest = run
  rw [leadingDigits_of_not_digit stops, List.append_nil]

theorem leadingDigits_of_digits (digits : ∀ digit ∈ run, digit.isDigit = true) :
    leadingDigits run = run := by
  have stops : ∀ next ∈ ([] : List Char).head?, next.isDigit = false := by
    intro next member
    cases member
  simpa using leadingDigits_append digits stops

theorem leadingDigits_local
    (source : List Char) {tail : List Char} (stops : ∀ next ∈ tail.head?, next.isDigit = false) :
    leadingDigits (source ++ tail) = leadingDigits source := by
  induction source with
  | nil =>
      exact leadingDigits_of_not_digit stops
  | cons first source ih =>
      unfold leadingDigits at ih ⊢
      rw [List.cons_append, List.takeWhile_cons, List.takeWhile_cons, ih]

end LetterPacks.Number
