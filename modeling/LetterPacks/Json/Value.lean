import LetterPacks.Number.Digits

/-!
# JSON values and their written forms

The values that the service writes: no number other than a natural one occurs among them, and the
members of a record keep their order.  A value is written without any white space, or on lines of
their own for its parts, two spaces further in on every level.

In a text only the quote, the backslash and the control characters are escaped.
-/

namespace LetterPacks

inductive Json where
  | null
  | boolean (value : Bool)
  | natural (value : Nat)
  | text (value : String)
  | list (items : List Json)
  | record (members : List (String × Json))

namespace Json

def ofOption {α : Type} (write : α → Json) : Option α → Json
  | none => .null
  | some value => write value

def escapedChar (character : Char) : List Char :=
  if character = '"' then ['\\', '"']
  else if character = '\\' then ['\\', '\\']
  else if character = '\x08' then ['\\', 'b']
  else if character = '\x0c' then ['\\', 'f']
  else if character = '\n' then ['\\', 'n']
  else if character = '\r' then ['\\', 'r']
  else if character = '\t' then ['\\', 't']
  else if character.toNat < 0x20 then
    ['\\', 'u', '0', '0', Number.hexDigit (character.toNat / 16),
      Number.hexDigit (character.toNat % 16)]
  else [character]

def quotedChars (text : String) : List Char :=
  '"' :: (text.toList.flatMap escapedChar ++ ['"'])

mutual

def compactChars : Json → List Char
  | .null => "null".toList
  | .boolean value => (if value then "true" else "false").toList
  | .natural value => Number.digits value
  | .text value => quotedChars value
  | .list items => '[' :: compactItems items
  | .record members => '{' :: compactMembers members

def compactItems : List Json → List Char
  | [] => [']']
  | item :: items => compactChars item ++ compactMoreItems items

/-- The items behind the first one, each behind a comma, and the closing bracket. -/
def compactMoreItems : List Json → List Char
  | [] => [']']
  | item :: items => ',' :: (compactChars item ++ compactMoreItems items)

def compactMembers : List (String × Json) → List Char
  | [] => ['}']
  | (name, value) :: members =>
      quotedChars name ++ ':' :: (compactChars value ++ compactMoreMembers members)

/-- The members behind the first one, each behind a comma, and the closing bracket. -/
def compactMoreMembers : List (String × Json) → List Char
  | [] => ['}']
  | (name, value) :: members =>
      ',' :: (quotedChars name ++ ':' :: (compactChars value ++ compactMoreMembers members))

end

def compact (value : Json) : String :=
  String.ofList value.compactChars

def lineStart (level : Nat) : List Char :=
  '\n' :: List.replicate (2 * level) ' '

mutual

/-- The characters of a value whose parts stand on lines of their own. -/
def prettyChars (level : Nat) : Json → List Char
  | .null => "null".toList
  | .boolean value => (if value then "true" else "false").toList
  | .natural value => Number.digits value
  | .text value => quotedChars value
  | .list [] => ['[', ']']
  | .list (item :: items) =>
      '[' :: (lineStart (level + 1) ++ prettyChars (level + 1) item ++
        prettyMoreItems level items)
  | .record [] => ['{', '}']
  | .record ((name, value) :: members) =>
      '{' :: (lineStart (level + 1) ++ quotedChars name ++ [':', ' '] ++
        prettyChars (level + 1) value ++ prettyMoreMembers level members)

/-- The items behind the first one, one a line, and the closing bracket. -/
def prettyMoreItems (level : Nat) : List Json → List Char
  | [] => lineStart level ++ [']']
  | item :: items =>
      ',' :: (lineStart (level + 1) ++ prettyChars (level + 1) item ++
        prettyMoreItems level items)

/-- The members behind the first one, one a line, and the closing bracket. -/
def prettyMoreMembers (level : Nat) : List (String × Json) → List Char
  | [] => lineStart level ++ ['}']
  | (name, value) :: members =>
      ',' :: (lineStart (level + 1) ++ quotedChars name ++ [':', ' '] ++
        prettyChars (level + 1) value ++ prettyMoreMembers level members)

end

def pretty (value : Json) : String :=
  String.ofList (value.prettyChars 0)

end Json

end LetterPacks
