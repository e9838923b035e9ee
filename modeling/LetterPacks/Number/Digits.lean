/-!
# Digits

Whole numbers are written in base ten without a sign or a leading zero, or filled up with zeros to a
least width.  Reading takes the run of ASCII digits at the front of a text.  In base sixteen numbers
are written with small letters, and letters of either case are read.
-/

namespace LetterPacks.Number

def digits (number : Nat) : List Char :=
  Nat.toDigits 10 number

/-- The digits of a number behind as many zeros as the width asks for. -/
def paddedDigits (width number : Nat) : List Char :=
  List.replicate (width - (digits number).length) '0' ++ digits number

def decimal (number : Nat) : String :=
  String.ofList (digits number)

def paddedDecimal (width number : Nat) : String :=
  String.ofList (paddedDigits width number)

def digitValue (digit : Char) : Nat :=
  digit.toNat - '0'.toNat

/-- The number that a run of digits continues: reading goes on from the value read so far. -/
def continueValue (value : Nat) (run : List Char) : Nat :=
  run.foldl (fun total digit => total * 10 + digitValue digit) value

def valueOfDigits (run : List Char) : Nat :=
  continueValue 0 run

def leadingDigits (text : List Char) : List Char :=
  text.takeWhile Char.isDigit

def afterDigits (text : List Char) : List Char :=
  text.dropWhile Char.isDigit

/-- A number of one to any number of digits, behind an optional plus sign, no larger than a bound.
-/
def boundedNatural? (bound : Nat) (text : String) : Option Nat :=
  let unsigned := match text.toList with
    | '+' :: rest => rest
    | other => other
  if !unsigned.isEmpty && unsigned.all Char.isDigit && valueOfDigits unsigned ≤ bound then
    some (valueOfDigits unsigned)
  else none

@[simp]
theorem continueValue_nil (value : Nat) : continueValue value [] = value := rfl

@[simp]
theorem continueValue_cons (value : Nat) (digit : Char) (run : List Char) :
    continueValue value (digit :: run) = continueValue (value * 10 + digitValue digit) run := by
  rw [continueValue, List.foldl_cons, ← continueValue]

theorem continueValue_append (value : Nat) (left right : List Char) :
    continueValue value (left ++ right) = continueValue (continueValue value left) right := by
  simp [continueValue, List.foldl_append]

def hexValue? (digit : Char) : Option Nat :=
  let point := digit.toNat
  if '0'.toNat ≤ point ∧ point ≤ '9'.toNat then some (point - '0'.toNat)
  else if 'a'.toNat ≤ point ∧ point ≤ 'f'.toNat then some (point - 'a'.toNat + 10)
  else if 'A'.toNat ≤ point ∧ point ≤ 'F'.toNat then some (point - 'A'.toNat + 10)
  else none

def hexDigit (value : Nat) : Char :=
  Nat.digitChar value

def hexDigits (number : Nat) : List Char :=
  Nat.toDigits 16 number

theorem hexValue?_hexDigit {value : Nat} (small : value < 16) :
    hexValue? (hexDigit value) = some value := by
  revert value
  decide

end LetterPacks.Number
