import LetterPacks.Number.Digits
import LetterPacks.Pattern.Mode

/-!
# Escapes in a pattern

A backslash makes the character behind it stand for itself, if that is an ASCII character other
than a letter, a digit or an angle bracket.  In front of some letters and of the angle brackets it
has a meaning of its own.

No tables of cases or of scripts are at hand.  So case is ignored, and kinds of characters and word
boundaries are known, only in a pattern about bytes; and such a pattern may match nothing but
UTF-8, so it has no complements.
-/

namespace LetterPacks.Pattern

/-- What a character or an escape stands for. -/
inductive Part where
  /-- A character, which may be written by the value of its byte. -/
  | literal (character : Char) (isByte : Bool)
  | boundary
  | wordBoundary
  /-- A digit, a blank or a character of a word, or any other than these. -/
  | kind (negated : Bool)
deriving DecidableEq, Repr

/-- Reads a number of hexadecimal digits with spacing between them. -/
def readHexDigits? (mode : Mode) : Nat → Nat → List Char → Option (Nat × List Char)
  | 0, value, source => some (value, source)
  | count + 1, value, source =>
      match mode.skip source with
      | [] => none
      | first :: rest => do
          let digit ← Number.hexValue? first
          readHexDigits? mode count (value * 16 + digit) rest

def readPoint? (mode : Mode) (count : Nat) (source : List Char) : Option (Part × List Char) := do
  let (value, rest) ← readHexDigits? mode count 0 source
  if value.isValidChar then some (.literal (.ofNat value) (count == 2), rest) else none

def readEscape? (mode : Mode) : List Char → Option (Part × List Char)
  | [] => none
  | first :: rest =>
      match first with
      | 'x' => readPoint? mode 2 rest
      | 'u' => readPoint? mode 4 rest
      | 'U' => readPoint? mode 8 rest
      | 'd' | 's' | 'w' => some (.kind false, rest)
      | 'D' | 'S' | 'W' => some (.kind true, rest)
      | 'A' | 'z' => some (.boundary, rest)
      | 'b' | 'B' | '<' | '>' => some (.wordBoundary, rest)
      | 'a' => some (.literal '\x07' false, rest)
      | 'f' => some (.literal '\x0c' false, rest)
      | 'n' => some (.literal '\n' false, rest)
      | 'r' => some (.literal '\r' false, rest)
      | 't' => some (.literal '\t' false, rest)
      | 'v' => some (.literal '\x0b' false, rest)
      | _ =>
          if first.isAlphanum || 127 < first.toNat then none
          else some (.literal first false, rest)

def Mode.allows (mode : Mode) : Part → Bool
  | .literal character isByte =>
      if mode.unicode then !mode.ignoresCase else !isByte || character.toNat ≤ 127
  | .boundary => true
  | .wordBoundary => !mode.unicode
  | .kind negated => !mode.unicode && !negated

def Mode.allowsInSet (mode : Mode) : Part → Bool
  | .literal character _ => if mode.unicode then !mode.ignoresCase else character.toNat ≤ 127
  | .boundary | .wordBoundary => false
  | .kind negated => !mode.unicode && !negated

end LetterPacks.Pattern
