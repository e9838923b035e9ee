import LetterPacks.Json.Reading
import Mathlib.Data.List.TakeWhile

/-!
# Parts between brackets

The parts of a list or a record stand between its brackets with commas between them, and white
space may stand on either side of each part.  `Listed` says how the text between the brackets is
made up of the parts, and `Continued` how the text behind one of them is.
-/

namespace LetterPacks.Json

def IsSpaces (space : List Char) : Prop :=
  ∀ character ∈ space, isSpace character = true

variable {space rest : List Char} {first : Char}

theorem isSpaces_nil : IsSpaces [] :=
  fun _ member => absurd member List.not_mem_nil

private theorem isSpaces_append (spaces : IsSpaces space) (spacesBehind : IsSpaces rest) :
    IsSpaces (space ++ rest) :=
  List.forall_mem_append.2 ⟨spaces, spacesBehind⟩

theorem dropSpace_append (spaces : IsSpaces space) (rest : List Char) :
    dropSpace (space ++ rest) = dropSpace rest :=
  List.dropWhile_append_of_pos spaces

theorem dropSpace_cons (printed : isSpace first = false) (rest : List Char) :
    dropSpace (first :: rest) = first :: rest := by
  rw [dropSpace, List.dropWhile_cons, printed]
  rfl

theorem dropSpace_append_cons
    (spaces : IsSpaces space) (printed : isSpace first = false) (rest : List Char) :
    dropSpace (space ++ first :: rest) = first :: rest := by
  rw [dropSpace_append spaces, dropSpace_cons printed]

theorem dropSpace_of_spaces (spaces : IsSpaces space) : dropSpace space = [] := by
  have dropped := dropSpace_append spaces []
  rwa [List.append_nil] at dropped

theorem isSpaces_of_dropSpace_eq_nil (dropped : dropSpace rest = []) : IsSpaces rest :=
  List.dropWhile_eq_nil_iff.1 dropped

def endsValue (character : Char) : Bool :=
  isSpace character || character = ',' || character = ']' || character = '}'

def Delimited (rest : List Char) : Prop :=
  ∀ next ∈ rest.head?, endsValue next = true

private theorem delimited_append_cons
    (spaces : IsSpaces space) (ends : endsValue first = true) (rest : List Char) :
    Delimited (space ++ first :: rest) := by
  intro next member
  cases space with
  | nil =>
      obtain rfl := Option.some.inj member
      exact ends
  | cons head space =>
      obtain rfl := Option.some.inj member
      simp [endsValue, spaces head List.mem_cons_self]

theorem delimited_of_spaces (spaces : IsSpaces space) : Delimited space := by
  intro next member
  simp [endsValue, spaces next (List.mem_of_mem_head? member)]

theorem not_numeral_of_endsValue {character : Char} (ends : endsValue character = true) :
    character.isDigit = false ∧ character ≠ '.' ∧ character ≠ 'e' ∧ character ≠ 'E' := by
  simp only [endsValue, isSpace, Bool.or_eq_true, decide_eq_true_eq] at ends
  rcases ends with ((((((rfl | rfl) | rfl) | rfl) | rfl) | rfl) | rfl) <;> decide

theorem Delimited.not_digit (delimited : Delimited rest) :
    ∀ next ∈ rest.head?, next.isDigit = false :=
  fun next member => (not_numeral_of_endsValue (delimited next member)).1

def Bracket.opening : Bracket → Char
  | .list => '['
  | .record => '{'

def Bracket.closing : Bracket → Char
  | .list => ']'
  | .record => '}'

def Bracket.enclose (bracket : Bracket) (inner : List Char) : List Char :=
  bracket.opening :: (inner ++ [bracket.closing])

theorem Bracket.enclose_append (bracket : Bracket) (inner rest : List Char) :
    bracket.enclose inner ++ rest = bracket.opening :: (inner ++ bracket.closing :: rest) := by
  rw [Bracket.enclose, List.cons_append, List.append_assoc, List.singleton_append]

/-- What stands behind a part: further parts, each behind a comma. -/
inductive Continued : List (List Char) → List Char → Prop
  | done {space : List Char} : IsSpaces space → Continued [] space
  | more {space before part text : List Char} {parts : List (List Char)} :
      IsSpaces space → IsSpaces before → Continued parts text →
      Continued (part :: parts) (space ++ ',' :: (before ++ (part ++ text)))

/-- What stands between brackets: some parts with commas between them. -/
inductive Listed : List (List Char) → List Char → Prop
  | empty {space : List Char} : IsSpaces space → Listed [] space
  | parts {before part text : List Char} {parts : List (List Char)} :
      IsSpaces before → Continued parts text → Listed (part :: parts) (before ++ (part ++ text))

theorem Continued.delimited
    {parts : List (List Char)} {text : List Char} (continued : Continued parts text)
    (bracket : Bracket) (rest : List Char) : Delimited (text ++ bracket.closing :: rest) := by
  cases continued with
  | done spaces =>
      exact delimited_append_cons spaces (by cases bracket <;> decide) rest
  | more spaces =>
      rw [List.append_assoc, List.cons_append]
      exact delimited_append_cons spaces (by decide) _

theorem Continued.length_le
    {parts : List (List Char)} {text : List Char} (continued : Continued parts text) :
    parts.length ≤ text.length := by
  induction continued with
  | done =>
      exact Nat.zero_le _
  | more _ _ _ ih =>
      simp only [List.length_cons, List.length_append]
      omega

theorem Continued.append_spaces
    {parts : List (List Char)} {text : List Char} (spaces : IsSpaces space)
    (continued : Continued parts text) : Continued parts (space ++ text) := by
  cases continued with
  | done spacesBehind =>
      exact .done (isSpaces_append spaces spacesBehind)
  | more spacesBehind spacesBefore continued =>
      rw [← List.append_assoc]
      exact .more (isSpaces_append spaces spacesBehind) spacesBefore continued

theorem continued_flatMap (parts : List (List Char)) :
    Continued parts (parts.flatMap fun part => ',' :: part) := by
  induction parts with
  | nil =>
      exact .done isSpaces_nil
  | cons part parts ih =>
      exact .more isSpaces_nil isSpaces_nil ih

/-- A text that begins a part: no white space and no closing bracket comes first. -/
def StartsPart (text : List Char) : Prop :=
  ∃ first rest, text = first :: rest ∧ isSpace first = false ∧ first ≠ ']' ∧ first ≠ '}'

end LetterPacks.Json
