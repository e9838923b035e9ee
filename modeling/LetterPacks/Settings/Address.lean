import LetterPacks.Number.Digits

/-!
# Network addresses

An address of version four is four numbers below 256 between points, without leading zeros.  One of
version six is eight groups of up to four hexadecimal digits between colons; two colons stand for
one or more groups of zero, and the last two groups may be written as an address of version four.

Addresses of version six are written with small letters and without leading zeros.  The longest run
of two or more zero groups, the first one of several, is written as two colons.
-/

namespace LetterPacks

inductive Address where
  | v4 (first second third fourth : UInt8)
  | v6 (groups : Vector UInt16 8)
deriving DecidableEq

namespace Address

def readOctet? (text : List Char) : Option (UInt8 × List Char) :=
  let run := Number.leadingDigits text
  let value := Number.valueOfDigits run
  let leadingZero := run.head? = some '0' && 1 < run.length
  if run.isEmpty || 3 < run.length || leadingZero || 255 < value then none
  else some (UInt8.ofNat value, Number.afterDigits text)

def readMark? (mark : Char) : List Char → Option (List Char)
  | [] => none
  | first :: rest => if first = mark then some rest else none

abbrev Octets : Type := UInt8 × UInt8 × UInt8 × UInt8

def readOctets? (text : List Char) : Option (Octets × List Char) := do
  let (first, text) ← readOctet? text
  let (second, text) ← readOctet? (← readMark? '.' text)
  let (third, text) ← readOctet? (← readMark? '.' text)
  let (fourth, text) ← readOctet? (← readMark? '.' text)
  some ((first, second, third, fourth), text)

def readGroup? (text : List Char) : Option (UInt16 × List Char) :=
  let run := text.takeWhile fun character => (Number.hexValue? character).isSome
  if run.isEmpty || 4 < run.length then none
  else
    let value := (run.filterMap Number.hexValue?).foldl (fun total digit => total * 16 + digit) 0
    some (UInt16.ofNat value, text.drop run.length)

def groupsOf : Octets → List UInt16
  | (first, second, third, fourth) =>
      [first.toUInt16 * 256 + second.toUInt16, third.toUInt16 * 256 + fourth.toUInt16]

/-- Groups that were read, whether they end in an address of version four, and what follows. -/
structure Groups where
  groups : List UInt16
  endsInOctets : Bool
  rest : List Char

/-- Reads groups between colons, no more of them than there is room for. -/
def readGroups : Nat → Bool → List Char → Groups
  | 0, _, text => ⟨[], false, text⟩
  | room + 1, isFirst, text =>
      let start? := if isFirst then some text else readMark? ':' text
      match if 0 < room then start?.bind readOctets? else none with
      | some (octets, rest) => ⟨groupsOf octets, true, rest⟩
      | none =>
          match start?.bind readGroup? with
          | none => ⟨[], false, text⟩
          | some (group, rest) =>
              let others := readGroups room false rest
              ⟨group :: others.groups, others.endsInOctets, others.rest⟩

def readV6? (text : List Char) : Option (List UInt16 × List Char) :=
  let head := readGroups 8 true text
  if head.groups.length = 8 then some (head.groups, head.rest)
  else if head.endsInOctets then none
  else
    match head.rest with
    | ':' :: ':' :: rest =>
        let tail := readGroups (7 - head.groups.length) true rest
        let zeros := 8 - head.groups.length - tail.groups.length
        some (head.groups ++ List.replicate zeros 0 ++ tail.groups, tail.rest)
    | _ => none

def ofGroups? (groups : List UInt16) : Option Address :=
  if eight : groups.length = 8 then some (.v6 ⟨groups.toArray, by simpa using eight⟩) else none

def ofText? (text : String) : Option Address :=
  match readOctets? text.toList with
  | some ((first, second, third, fourth), []) => some (.v4 first second third fourth)
  | some _ => none
  | none =>
      match readV6? text.toList with
      | some (groups, []) => ofGroups? groups
      | _ => none

def octetsText (octets : List Nat) : String :=
  String.intercalate "." (octets.map Number.decimal)

def groupsText (groups : List UInt16) : String :=
  String.intercalate ":" (groups.map fun group => String.ofList (Number.hexDigits group.toNat))

def leadingZeros (groups : List UInt16) : Nat :=
  (groups.takeWhile (· = 0)).length

/-- Where the longest run of zero groups starts, the first one of several, and how long it is. -/
def longestZeros (groups : List UInt16) : Nat × Nat :=
  (List.range groups.length).foldl
    (fun best start =>
      let length := leadingZeros (groups.drop start)
      if best.2 < length then (start, length) else best)
    (0, 0)

def v6Text (groups : List UInt16) : String :=
  match groups with
  | [0, 0, 0, 0, 0, 0xFFFF, high, low] =>
      "::ffff:" ++ octetsText [high.toNat / 256, high.toNat % 256, low.toNat / 256, low.toNat % 256]
  | _ =>
      let (start, length) := longestZeros groups
      if 1 < length then
        groupsText (groups.take start) ++ "::" ++ groupsText (groups.drop (start + length))
      else groupsText groups

def withPort (address : Address) (port : UInt16) : String :=
  let host := match address with
    | .v4 first second third fourth =>
        octetsText [first.toNat, second.toNat, third.toNat, fourth.toNat]
    | .v6 groups => "[" ++ v6Text groups.toList ++ "]"
  host ++ ":" ++ Number.decimal port.toNat

end Address

end LetterPacks
