import LetterPacks.Text.Blank

/-!
# Modes of a pattern

A pattern is read in a mode, and it may change its mode on the way.  Whether lines count, and
which of several matches is preferred, does not bear on whether it can be read; the modes that do
are kept.
-/

namespace LetterPacks.Pattern

structure Mode where
  ignoresCase : Bool := false
  /-- The pattern is about characters of all scripts; otherwise it is about bytes. -/
  unicode : Bool := true
  spaced : Bool := false
deriving DecidableEq, Repr

def modeLetters : List Char :=
  ['i', 'm', 's', 'U', 'u', 'R', 'x']

/-- Whether some letters change the mode.  Those behind a dash turn their mode off; nothing may come
twice, and a dash may not come last. -/
def isChange (letters : List Char) : Bool :=
  letters.all (fun letter => letter = '-' || modeLetters.contains letter) &&
    decide letters.Nodup && letters.getLast? != some '-'

def Mode.changed (mode : Mode) (letters : List Char) : Mode :=
  let turnedOn := letters.takeWhile (· != '-')
  let turnedOff := letters.dropWhile (· != '-')
  let next (letter : Char) (before : Bool) : Bool :=
    turnedOn.contains letter || (before && !turnedOff.contains letter)
  {
    ignoresCase := next 'i' mode.ignoresCase
    unicode := next 'u' mode.unicode
    spaced := next 'x' mode.spaced }

/-- What follows white space and comments.  A comment goes from `#` to the end of its line. -/
def dropSpacing (inComment : Bool) : List Char → List Char
  | [] => []
  | first :: rest =>
      if inComment then dropSpacing (first != '\n') rest
      else if Text.isBlank first then dropSpacing false rest
      else if first = '#' then dropSpacing true rest
      else first :: rest

/-- What follows the spacing at the front of a text, where the mode allows spacing. -/
def Mode.skip (mode : Mode) (source : List Char) : List Char :=
  if mode.spaced then dropSpacing false source else source

/-- The depth of a row of items with the given depths.  Several items lie one level deeper than the
deepest of them does alone. -/
def rowDepth (items : List Nat) : Nat :=
  let deepest := items.foldl max 0
  if items.length ≤ 1 then deepest else deepest + 1

def greatestDepth : Nat := 250

end LetterPacks.Pattern
