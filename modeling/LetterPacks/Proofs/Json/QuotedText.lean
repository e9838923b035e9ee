import LetterPacks.Json.Quoted
import LetterPacks.Json.Value

/-!
# Spellings of a text

Between its quotes a text may be spelled in many ways: a character stands for itself, behind a
backslash, or as one or two code units.  Every spelling is read as the text that it spells
(`readQuoted_of_spells`), and the written form is one of them (`quotes_quotedChars`).
-/

namespace LetterPacks.Json

/-- The four digits of a code unit. -/
inductive IsUnit : Nat → List Char → Prop
  | digits {a b c d : Char} {first second third fourth : Nat} :
      Number.hexValue? a = some first → Number.hexValue? b = some second →
      Number.hexValue? c = some third → Number.hexValue? d = some fourth →
      IsUnit (((first * 16 + second) * 16 + third) * 16 + fourth) [a, b, c, d]

/-- How some characters are spelled between quotes. -/
inductive Spells : List Char → List Char → Prop
  | empty : Spells [] []
  | plain {character : Char} {characters body : List Char} :
      character ≠ '"' → character ≠ '\\' → 0x20 ≤ character.toNat →
      Spells characters body → Spells (character :: characters) (character :: body)
  | escape {letter meant : Char} {characters body : List Char} :
      escaped? letter = some meant →
      Spells characters body → Spells (meant :: characters) ('\\' :: letter :: body)
  | unit {value : Nat} {digits characters body : List Char} :
      IsUnit value digits → isHighSurrogate value = false → isLowSurrogate value = false →
      Spells characters body →
      Spells (Char.ofNat value :: characters) ('\\' :: 'u' :: (digits ++ body))
  | pair {high low : Nat} {highDigits lowDigits characters body : List Char} :
      IsUnit high highDigits → isHighSurrogate high = true →
      IsUnit low lowDigits → isLowSurrogate low = true →
      Spells characters body →
      Spells (pairedCharacter high low :: characters)
        ('\\' :: 'u' :: (highDigits ++ '\\' :: 'u' :: (lowDigits ++ body)))

def Quotes (text : String) (written : List Char) : Prop :=
  ∃ body, Spells text.toList body ∧ written = '"' :: (body ++ ['"'])

variable {before rest : List Char}

private theorem readQuotedFrom_of_emitted
    {high : Option Nat} {value : Nat} {digits : List Char} {meant : Char}
    (unit : IsUnit value digits) (emitted : unitStep high value = .emit meant) :
    readQuotedFrom (.unit high 0 0) before (digits ++ rest) =
      readQuotedFrom .plain (meant :: before) rest := by
  cases unit with
  | digits first second third fourth =>
      simp [readQuotedFrom, QuotedState.step, first, second, third, fourth, emitted]

private theorem readQuotedFrom_of_unfinished
    {high : Option Nat} {value : Nat} {digits : List Char} {state : QuotedState}
    (unit : IsUnit value digits) (unfinished : unitStep high value = .next state) :
    readQuotedFrom (.unit high 0 0) before (digits ++ rest) =
      readQuotedFrom state before rest := by
  cases unit with
  | digits first second third fourth =>
      simp [readQuotedFrom, QuotedState.step, first, second, third, fourth, unfinished]

theorem escaped?_u : escaped? 'u' = none := by
  decide

private theorem readQuotedFrom_of_spells
    {characters body : List Char} (spelled : Spells characters body) (before : List Char) :
    readQuotedFrom .plain before (body ++ '"' :: rest) =
      .ok (String.ofList (before.reverse ++ characters), rest) := by
  induction spelled generalizing before with
  | empty =>
      simp [readQuotedFrom, QuotedState.step]
  | @plain character characters body notQuote notBackslash printed _ ih =>
      have notControl : ¬ character.toNat < 0x20 := Nat.not_lt.2 printed
      simp only [List.cons_append, readQuotedFrom, QuotedState.step, notQuote, notBackslash,
        notControl, if_false]
      rw [ih (character :: before)]
      simp
  | @escape letter meant characters body means _ ih =>
      have notUnit : letter ≠ 'u' := by
        rintro rfl
        rw [escaped?_u] at means
        cases means
      simp only [List.cons_append, readQuotedFrom, QuotedState.step, if_true, if_false,
        show ('\\' : Char) ≠ '"' by decide, notUnit, means]
      rw [ih (meant :: before)]
      simp
  | @unit value digits characters body unit notHigh notLow _ ih =>
      have emitted : unitStep none value = .emit (Char.ofNat value) := by
        simp [unitStep, notHigh, notLow]
      simp only [List.cons_append, List.append_assoc, readQuotedFrom, QuotedState.step, if_true,
        if_false, show ('\\' : Char) ≠ '"' by decide]
      rw [readQuotedFrom_of_emitted unit emitted, ih (Char.ofNat value :: before)]
      simp
  | @pair high low highDigits lowDigits characters body highUnit isHigh lowUnit isLow _ ih =>
      have unfinished : unitStep none high = .next (.pair high) := by
        simp [unitStep, isHigh]
      have emitted : unitStep (some high) low = .emit (pairedCharacter high low) := by
        simp [unitStep, isLow]
      simp only [List.cons_append, List.append_assoc, readQuotedFrom, QuotedState.step, if_true,
        if_false, show ('\\' : Char) ≠ '"' by decide]
      rw [readQuotedFrom_of_unfinished highUnit unfinished]
      simp only [readQuotedFrom, QuotedState.step, if_true]
      rw [readQuotedFrom_of_emitted lowUnit emitted, ih (pairedCharacter high low :: before)]
      simp

theorem readQuoted_of_spells
    {text : String} {body : List Char} (spelled : Spells text.toList body) :
    readQuoted (body ++ '"' :: rest) = .ok (text, rest) := by
  rw [readQuoted, readQuotedFrom_of_spells spelled]
  simp

private theorem spells_control
    {character : Char} {characters body : List Char} (control : character.toNat < 0x20)
    (spelled : Spells characters body) :
    Spells (character :: characters)
      (['\\', 'u', '0', '0', Number.hexDigit (character.toNat / 16),
        Number.hexDigit (character.toNat % 16)] ++ body) := by
  have unit : IsUnit character.toNat
      ['0', '0', Number.hexDigit (character.toNat / 16),
        Number.hexDigit (character.toNat % 16)] := by
    have digits := IsUnit.digits (a := '0') (b := '0') rfl rfl
      (Number.hexValue?_hexDigit (show character.toNat / 16 < 16 by omega))
      (Number.hexValue?_hexDigit (show character.toNat % 16 < 16 by omega))
    have value : ((0 * 16 + 0) * 16 + character.toNat / 16) * 16 + character.toNat % 16 =
        character.toNat := by omega
    change IsUnit (((0 * 16 + 0) * 16 + character.toNat / 16) * 16 + character.toNat % 16) _
      at digits
    rwa [value] at digits
  have notHigh : isHighSurrogate character.toNat = false := by
    simp only [isHighSurrogate, Bool.and_eq_false_iff, decide_eq_false_iff_not]
    omega
  have notLow : isLowSurrogate character.toNat = false := by
    simp only [isLowSurrogate, Bool.and_eq_false_iff, decide_eq_false_iff_not]
    omega
  have spelledUnit := Spells.unit unit notHigh notLow spelled
  rwa [Char.ofNat_toNat] at spelledUnit

private theorem spells_escapedChar
    {character : Char} {characters body : List Char} (spelled : Spells characters body) :
    Spells (character :: characters) (escapedChar character ++ body) := by
  by_cases short : character ∈ ['"', '\\', '\x08', '\x0c', '\n', '\r', '\t']
  · simp only [List.mem_cons, List.not_mem_nil, or_false] at short
    rcases short with rfl | rfl | rfl | rfl | rfl | rfl | rfl <;>
      exact Spells.escape (by decide) spelled
  · simp only [List.mem_cons, List.not_mem_nil, or_false, not_or] at short
    obtain ⟨notQuote, notBackslash, others⟩ := short
    by_cases control : character.toNat < 0x20
    · simp only [escapedChar, notQuote, notBackslash, others, control, if_true, if_false]
      exact spells_control control spelled
    · simp only [escapedChar, notQuote, notBackslash, others, control, if_false]
      exact Spells.plain notQuote notBackslash (Nat.not_lt.1 control) spelled

theorem spells_flatMap_escapedChar (characters : List Char) :
    Spells characters (characters.flatMap escapedChar) := by
  induction characters with
  | nil =>
      exact Spells.empty
  | cons character characters ih =>
      exact spells_escapedChar ih

theorem quotes_quotedChars (text : String) : Quotes text (quotedChars text) :=
  ⟨_, spells_flatMap_escapedChar text.toList, rfl⟩

end LetterPacks.Json
