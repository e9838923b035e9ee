import LetterPacks.Proofs.Json.QuotedText
import LetterPacks.Proofs.Json.Separation

/-!
# The grammar of JSON

`IsValue` holds of the texts that are JSON values, whatever they mean: a number may be of any size
and a lone surrogate may be escaped in a text.
-/

namespace LetterPacks.Json

def IsDigits (run : List Char) : Prop :=
  ∀ digit ∈ run, digit.isDigit = true

/-- The whole part of a number, which has no leading zero. -/
inductive IsWhole : List Char → Prop
  | zero : IsWhole ['0']
  | digits {first : Char} {run : List Char} :
      first.isDigit = true → first ≠ '0' → IsDigits run → IsWhole (first :: run)

inductive IsFraction : List Char → Prop
  | none : IsFraction []
  | digits {first : Char} {run : List Char} :
      first.isDigit = true → IsDigits run → IsFraction ('.' :: first :: run)

inductive IsExponent : List Char → Prop
  | none : IsExponent []
  | unsigned {mark first : Char} {run : List Char} :
      mark = 'e' ∨ mark = 'E' → first.isDigit = true → IsDigits run →
      IsExponent (mark :: first :: run)
  | signed {mark sign first : Char} {run : List Char} :
      mark = 'e' ∨ mark = 'E' → sign = '+' ∨ sign = '-' → first.isDigit = true → IsDigits run →
      IsExponent (mark :: sign :: first :: run)

/-- A number without its sign. -/
inductive IsUnsigned : List Char → Prop
  | parts {whole fraction exponent : List Char} :
      IsWhole whole → IsFraction fraction → IsExponent exponent →
      IsUnsigned (whole ++ (fraction ++ exponent))

/-- What stands between the quotes of a text. -/
inductive IsQuoted : List Char → Prop
  | empty : IsQuoted []
  | plain {character : Char} {body : List Char} :
      character ≠ '"' → character ≠ '\\' → 0x20 ≤ character.toNat →
      IsQuoted body → IsQuoted (character :: body)
  | escape {letter : Char} {body : List Char} :
      (escaped? letter).isSome = true → IsQuoted body → IsQuoted ('\\' :: letter :: body)
  | unit {value : Nat} {digits body : List Char} :
      IsUnit value digits → IsQuoted body → IsQuoted ('\\' :: 'u' :: (digits ++ body))

/-- A member of a record as it is written: what stands between the quotes of its name, on either
side of the colon and behind it. -/
structure Entry where
  name : List Char
  before : List Char
  behind : List Char
  value : List Char

def Entry.chars (entry : Entry) : List Char :=
  '"' :: (entry.name ++ '"' :: (entry.before ++ ':' :: (entry.behind ++ entry.value)))

def Entry.Spaced (entry : Entry) : Prop :=
  IsSpaces entry.before ∧ IsSpaces entry.behind

/-- The texts that are JSON values. -/
inductive IsValue : List Char → Prop
  | null : IsValue ['n', 'u', 'l', 'l']
  | yes : IsValue ['t', 'r', 'u', 'e']
  | no : IsValue ['f', 'a', 'l', 's', 'e']
  | positive {number : List Char} : IsUnsigned number → IsValue number
  | negative {number : List Char} : IsUnsigned number → IsValue ('-' :: number)
  | text {body : List Char} : IsQuoted body → IsValue ('"' :: (body ++ ['"']))
  | list {items : List (List Char)} {inner : List Char} :
      (∀ item ∈ items, IsValue item) → Listed items inner → IsValue (Bracket.list.enclose inner)
  | record {entries : List Entry} {inner : List Char} :
      (∀ entry ∈ entries, IsQuoted entry.name ∧ entry.Spaced) →
      (∀ entry ∈ entries, IsValue entry.value) →
      Listed (entries.map Entry.chars) inner → IsValue (Bracket.record.enclose inner)

theorem startsPart_chars (entry : Entry) : StartsPart entry.chars :=
  ⟨'"', _, rfl, by decide, by decide, by decide⟩

theorem not_space_of_isDigit {character : Char} (digit : character.isDigit = true) :
    isSpace character = false ∧ character ≠ ']' ∧ character ≠ '}' := by
  refine ⟨?_, ?_, ?_⟩
  · rw [Bool.eq_false_iff]
    intro space
    have ends : endsValue character = true := by simp [endsValue, space]
    rw [(not_numeral_of_endsValue ends).1] at digit
    cases digit
  · rintro rfl
    cases digit
  · rintro rfl
    cases digit

private theorem startsPart_of_isUnsigned {number : List Char} (unsigned : IsUnsigned number) :
    StartsPart number := by
  cases unsigned with
  | parts whole _ _ =>
      cases whole with
      | zero =>
          exact ⟨'0', _, rfl, by decide, by decide, by decide⟩
      | digits digit _ _ =>
          exact ⟨_, _, rfl, not_space_of_isDigit digit⟩

theorem IsValue.startsPart {text : List Char} (value : IsValue text) : StartsPart text := by
  cases value with
  | null | yes | no | negative _ | text _ | list _ _ | record _ _ _ =>
      exact ⟨_, _, rfl, by decide, by decide, by decide⟩
  | positive unsigned =>
      exact startsPart_of_isUnsigned unsigned

end LetterPacks.Json
