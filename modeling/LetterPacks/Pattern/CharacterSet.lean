import LetterPacks.Pattern.Escape

/-!
# Sets of characters in a pattern

A set stands between square brackets.  It holds characters, ranges with a dash between their ends,
named classes of ASCII characters and further sets, and it may be the complement of what it holds.
Two of the signs `&`, `-` or `~` form an operator between what is in front of them and what
follows.
-/

namespace LetterPacks.Pattern

def classNames : List String :=
  ["alnum", "alpha", "ascii", "blank", "cntrl", "digit", "graph", "lower", "print", "punct",
    "space", "upper", "word", "xdigit"]

/-- Reads a named class behind its opening bracket, and whether it is a complement. -/
def readClass? : List Char → Option (Bool × List Char)
  | ':' :: source =>
      let (negated, source) := match source with
        | '^' :: rest => (true, rest)
        | rest => (false, rest)
      match source.dropWhile (· != ':') with
      | ':' :: ']' :: rest =>
          let name := String.ofList (source.takeWhile (· != ':'))
          if classNames.contains name then some (negated, rest) else none
      | _ => none
  | _ => none

/-- A set whose closing bracket has not come yet. -/
structure OpenSet where
  negated : Bool
  /-- Nothing but dashes has come, so dashes stand for themselves. -/
  isFresh : Bool := true
  items : List Nat := []
  left? : Option Nat := none

namespace OpenSet

def depth (set : OpenSet) : Nat :=
  match set.left? with
  | none => rowDepth set.items
  | some left => max left (rowDepth set.items) + 1

def add (set : OpenSet) (depth : Nat) : OpenSet :=
  { set with isFresh := false, items := depth :: set.items }

def addDash (set : OpenSet) : OpenSet :=
  { set with items := 0 :: set.items }

def operate (set : OpenSet) : OpenSet :=
  { set with isFresh := false, items := [], left? := some set.depth }

end OpenSet

def readOpenSet (mode : Mode) (source : List Char) : OpenSet × List Char :=
  match mode.skip source with
  | '^' :: rest => (⟨true, true, [], none⟩, rest)
  | rest => (⟨false, true, [], none⟩, rest)

def readMember? (mode : Mode) : List Char → Option (Part × List Char)
  | [] => none
  | first :: rest =>
      if first = '\\' then readEscape? mode rest else some (.literal first false, rest)

def isRange : Part → Part → Bool
  | .literal first _, .literal last _ => decide (first ≤ last)
  | _, _ => false

/-- Whether a dash stands for itself in front of some characters: the set ends there, or another
dash follows. -/
def endsRange (mode : Mode) (source : List Char) : Bool :=
  match mode.skip source with
  | ']' :: _ | '-' :: _ => true
  | _ => false

def readSpan? (mode : Mode) (source : List Char) : Option (List Char) := do
  let (first, rest) ← readMember? mode source
  let single := if mode.allowsInSet first then some rest else none
  match mode.skip rest with
  | '-' :: behind =>
      if endsRange mode behind then single
      else
        let (last, rest) ← readMember? mode (mode.skip behind)
        if isRange first last && mode.allowsInSet first && mode.allowsInSet last then some rest
        else none
  | _ => single

def isOperator (first second : Char) : Bool :=
  first = second && (first = '&' || first = '-' || first = '~')

def allowsClass (mode : Mode) (negated : Bool) : Bool :=
  if mode.unicode then !mode.ignoresCase else !negated

/-- Whether a complement can be taken of a set, which may lie in another one. -/
def allowsComplement (mode : Mode) (isInner : Bool) : Bool :=
  mode.unicode && !(isInner && mode.ignoresCase)

/-- Reads the rest of a set that lies in other ones, up to the closing bracket of the outermost.
Gives its depth and what follows. -/
def readSetRest? (mode : Mode) : Nat → OpenSet → List OpenSet → List Char → Option (Nat × List Char)
  | 0, _, _, _ => none
  | fuel + 1, set, outer, source =>
      let proceed (allowed : Bool) (set : OpenSet) (rest : List Char) : Option (Nat × List Char) :=
        if allowed then readSetRest? mode fuel set outer rest else none
      match mode.skip source with
      | [] => none
      | first :: rest =>
          let isItself := mode.allowsInSet (.literal first false)
          if set.isFresh && first = '-' then proceed isItself set.addDash rest
          else if set.isFresh && set.items.isEmpty && first = ']' then
            proceed isItself (set.add 0) rest
          else if first = ']' then
            if set.negated && !allowsComplement mode !outer.isEmpty then none
            else
              match outer with
              | [] => some (set.depth + 1, rest)
              | parent :: outer => readSetRest? mode fuel (parent.add (set.depth + 1)) outer rest
          else if first = '[' then
            match readClass? rest with
            | some (negated, rest) => proceed (allowsClass mode negated) (set.add 0) rest
            | none =>
                let (inner, rest) := readOpenSet mode rest
                readSetRest? mode fuel inner ({ set with isFresh := false } :: outer) rest
          else if isOperator first (rest.headD ' ') then proceed true set.operate (rest.drop 1)
          else
            match readSpan? mode (first :: rest) with
            | some rest => proceed true (set.add 0) rest
            | none => none

/-- Reads a set behind its opening bracket.  Gives its depth and what follows. -/
def readSet? (mode : Mode) (source : List Char) : Option (Nat × List Char) :=
  let (set, rest) := readOpenSet mode source
  readSetRest? mode (rest.length + 1) set [] rest

end LetterPacks.Pattern
