/-!
# Cutting texts

A text is cut at every occurrence of a character, and there is always one part more than there are
cuts.  The lines of a text keep the line feeds that end them.

A place in a text may also be given by the number of bytes in front of it in its UTF-8 form.  Such a
place lies between two characters or within one, and only between two can a text be cut.
-/

namespace LetterPacks.Text

/-- The parts of a run of characters between the occurrences of one of them. -/
def splitChars (separator : Char) : List Char → List (List Char)
  | [] => [[]]
  | first :: rest =>
      let parts := splitChars separator rest
      if first = separator then [] :: parts
      else
        match parts with
        | [] => [[first]]
        | part :: parts => (first :: part) :: parts

def split (separator : Char) (text : String) : List String :=
  (splitChars separator text.toList).map String.ofList

/-- The lines of a run of characters, each with the line feed that ends it. -/
def linesOf : List Char → List (List Char)
  | [] => []
  | first :: rest =>
      if first = '\n' then [first] :: linesOf rest
      else
        match linesOf rest with
        | [] => [[first]]
        | line :: lines => (first :: line) :: lines

def lines (text : String) : List String :=
  (linesOf text.toList).map String.ofList

def byteCount (characters : List Char) : Nat :=
  characters.foldr (fun character count => character.utf8Size + count) 0

/-- The characters in front of a byte offset and those behind it; none when the offset lies within
a character or beyond the end. -/
def cutAt? : Nat → List Char → Option (List Char × List Char)
  | 0, characters => some ([], characters)
  | _, [] => none
  | offset, first :: rest =>
      if first.utf8Size ≤ offset then
        (cutAt? (offset - first.utf8Size) rest).map fun parts => (first :: parts.1, parts.2)
      else none

def between? (first last : Nat) (characters : List Char) : Option (List Char) := do
  let (_, behind) ← cutAt? first characters
  let (inside, _) ← cutAt? (last - first) behind
  some inside

end LetterPacks.Text
