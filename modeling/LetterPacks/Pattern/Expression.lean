import LetterPacks.Pattern.CharacterSet
import LetterPacks.Text.Classes

/-!
# Patterns

A pattern is a row of alternatives with bars between them.  Each is a row of parts: characters,
sets, groups between round brackets, boundaries and changes of the mode.  A part may be repeated by
a sign behind it, and a question mark behind that sign asks for few repetitions.  A change of the
mode holds up to the end of the group that it stands in.

A pattern is a part of a larger text that braces enclose, so none of its braces can be closed and
numbers of repetitions cannot be given.
-/

namespace LetterPacks.Pattern

inductive Opening where
  /-- A group that changes the mode for itself and may have a name. -/
  | group (letters : List Char) (name? : Option (List Char))
  | change (letters : List Char)

def isGroupName : List Char → Bool
  | [] => false
  | first :: rest =>
      (first = '_' || Text.isAlphabetic first) &&
        rest.all fun character =>
          ['_', '.', '[', ']'].contains character || Text.isAlphanumeric character

/-- Reads the name of a group and the angle bracket behind it.  No two groups have the same name. -/
def readGroupName? (names : List (List Char)) (source : List Char) :
    Option (Opening × List Char) :=
  let name := source.takeWhile (· != '>')
  match source.dropWhile (· != '>') with
  | '>' :: rest =>
      if isGroupName name && !names.contains name then some (.group [] (some name), rest) else none
  | _ => none

/-- Reads what follows the opening bracket of a group up to its first part. -/
def readOpening? (names : List (List Char)) : List Char → Option (Opening × List Char)
  | '?' :: 'P' :: '<' :: rest => readGroupName? names rest
  | '?' :: '<' :: rest => readGroupName? names rest
  | '?' :: rest =>
      let isLetter (character : Char) : Bool := character != ':' && character != ')'
      let letters := rest.takeWhile isLetter
      if isChange letters then
        match rest.dropWhile isLetter with
        | ':' :: rest => some (.group letters none, rest)
        | ')' :: rest => if letters.isEmpty then none else some (.change letters, rest)
        | _ => none
      else none
  | rest => some (.group [] none, rest)

/-- What has been read of a group or of the whole pattern. -/
structure Level where
  alternatives : List Nat := []
  /-- The depths of the parts of the last alternative, the last part first. -/
  parts : List Nat := []
  isRepeatable : Bool := false

namespace Level

def depth (level : Level) : Nat :=
  rowDepth (rowDepth level.parts :: level.alternatives)

def add (level : Level) (depth : Nat) : Level :=
  { level with parts := depth :: level.parts, isRepeatable := true }

def addChange (level : Level) : Level :=
  { level with parts := 0 :: level.parts, isRepeatable := false }

def repeatLast? (level : Level) : Option Level :=
  match level.parts with
  | last :: others =>
      if level.isRepeatable then some { level with parts := (last + 1) :: others } else none
  | [] => none

def nextAlternative (level : Level) : Level :=
  { alternatives := rowDepth level.parts :: level.alternatives }

end Level

structure Progress where
  mode : Mode := {}
  level : Level := {}
  /-- The open groups with the modes that hold behind them, the innermost first. -/
  outer : List (Mode × Level) := []
  names : List (List Char) := []

namespace Progress

def add? (progress : Progress) (allowed : Bool) (depth : Nat) (rest : List Char) :
    Option (Progress × List Char) :=
  if allowed then some ({ progress with level := progress.level.add depth }, rest) else none

def next? (progress : Progress) (first : Char) (rest : List Char) :
    Option (Progress × List Char) :=
  let mode := progress.mode
  match first with
  | '(' => do
      match ← readOpening? progress.names (mode.skip rest) with
      | (.change letters, rest) =>
          let level := progress.level.addChange
          some ({ progress with mode := mode.changed letters, level := level }, rest)
      | (.group letters name?, rest) =>
          some ({
            mode := mode.changed letters
            outer := (mode, progress.level) :: progress.outer
            names := name?.toList ++ progress.names }, rest)
  | ')' =>
      match progress.outer with
      | [] => none
      | (mode, level) :: outer =>
          let level := level.add (progress.level.depth + 1)
          some ({ progress with mode := mode, level := level, outer := outer }, rest)
  | '|' => some ({ progress with level := progress.level.nextAlternative }, rest)
  | '[' => do
      let (depth, rest) ← readSet? mode rest
      progress.add? true depth rest
  | '?' | '*' | '+' => do
      let level ← progress.level.repeatLast?
      let rest := match rest with
        | '?' :: rest => rest
        | rest => rest
      some ({ progress with level := level }, rest)
  | '\x7b' => none
  | '.' => progress.add? mode.unicode 0 rest
  | '^' | '$' => progress.add? true 0 rest
  | '\\' => do
      let (part, rest) ← readEscape? mode rest
      progress.add? (mode.allows part) 0 rest
  | _ => progress.add? (mode.allows (.literal first false)) 0 rest

def finishes : Nat → Progress → List Char → Bool
  | 0, _, _ => false
  | fuel + 1, progress, source =>
      match progress.mode.skip source with
      | [] => progress.outer.isEmpty && decide (progress.level.depth ≤ greatestDepth)
      | first :: rest =>
          match progress.next? first rest with
          | some (progress, rest) => finishes fuel progress rest
          | none => false

end Progress

def isPattern (source : List Char) : Bool :=
  Progress.finishes (source.length + 1) {} source

end LetterPacks.Pattern
