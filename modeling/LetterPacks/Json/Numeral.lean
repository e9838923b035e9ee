import LetterPacks.Json.Fault

/-!
# Reading a number

A number is whole when it has neither a fraction nor an exponent and fits its range: 64 bits
without a sign, or 64 bits with one.  Every other number, and zero behind a minus sign, is a
floating-point one.

The first digits make up the significand as long as it fits 64 bits.  Digits of the whole part that
follow raise the exponent instead, and digits of the fraction that follow are dropped.
-/

namespace LetterPacks.Json

inductive Numeral where
  | integer (value : Int)
  | floating (value : Number.Floating)
deriving DecidableEq

def largestNatural : Nat := 18446744073709551615

/-- The largest magnitude behind a minus sign that is still whole. -/
def largestNegative : Nat := 9223372036854775808

def largestExponent : Nat := 2147483647

/-- Extends a significand by digits as long as it fits a bound.  Gives the significand, how many
digits it took and what follows. -/
def extend (bound : Nat) (significand : Nat) : List Char → Nat × Nat × List Char
  | [] => (significand, 0, [])
  | digit :: rest =>
      let grown := significand * 10 + Number.digitValue digit
      if digit.isDigit && grown ≤ bound then
        let (extended, count, after) := extend bound grown rest
        (extended, count + 1, after)
      else (significand, 0, digit :: rest)

/-- A floating-point number of a sign, a significand and a power of ten. -/
def floating (negative : Bool) (significand : Nat) (power : Int) (rest : List Char) :
    Except Fault (Numeral × List Char) :=
  match Number.Binary64.ofScientific? significand power with
  | some magnitude => .ok (.floating ⟨negative, magnitude⟩, rest)
  | none => .error .malformed

def exponentSign : List Char → Bool × List Char
  | '+' :: rest => (false, rest)
  | '-' :: rest => (true, rest)
  | rest => (false, rest)

/-- Reads an exponent behind its mark.  One that cannot be written down makes the number zero or
puts it out of range. -/
def readExponent (negative : Bool) (significand : Nat) (power : Int) (source : List Char) :
    Except Fault (Numeral × List Char) :=
  let (negativeExponent, source) := exponentSign source
  match source with
  | [] => .error .ended
  | first :: rest =>
      if first.isDigit then
        let (exponent, _, after) := extend largestExponent (Number.digitValue first) rest
        if (Number.leadingDigits after).isEmpty then
          let shift : Int := if negativeExponent then -exponent else exponent
          floating negative significand (power + shift) after
        else if significand ≠ 0 && !negativeExponent then .error .malformed
        else floating negative 0 0 (Number.afterDigits after)
      else .error .malformed

def readPower (negative : Bool) (significand : Nat) (power : Int) (source : List Char) :
    Except Fault (Numeral × List Char) :=
  match source with
  | 'e' :: rest | 'E' :: rest => readExponent negative significand power rest
  | rest => floating negative significand power rest

def readFraction (negative : Bool) (significand : Nat) (power : Int) (source : List Char) :
    Except Fault (Numeral × List Char) :=
  match source with
  | [] => .error .ended
  | first :: _ =>
      if first.isDigit then
        let (extended, count, after) := extend largestNatural significand source
        readPower negative extended (power - count) (Number.afterDigits after)
      else .error .malformed

/-- Reads the fraction and the exponent that follow a significand. -/
def readScaled (negative : Bool) (significand : Nat) (power : Int) (source : List Char) :
    Except Fault (Numeral × List Char) :=
  match source with
  | '.' :: rest => readFraction negative significand power rest
  | rest => readPower negative significand power rest

def whole (negative : Bool) (value : Nat) (rest : List Char) : Except Fault (Numeral × List Char) :=
  if negative then
    if value = 0 ∨ largestNegative < value then floating true value 0 rest
    else .ok (.integer (-value), rest)
  else .ok (.integer value, rest)

def goesOn : List Char → Bool
  | '.' :: _ | 'e' :: _ | 'E' :: _ => true
  | _ => false

/-- Reads what follows a significand that takes in the whole part. -/
def readWhole (negative : Bool) (significand : Nat) (source : List Char) :
    Except Fault (Numeral × List Char) :=
  if goesOn source then readScaled negative significand 0 source
  else whole negative significand source

def readNumeral (negative : Bool) (source : List Char) : Except Fault (Numeral × List Char) :=
  match source with
  | [] => .error .ended
  | '0' :: rest =>
      if (Number.leadingDigits rest).isEmpty then readWhole negative 0 rest else .error .malformed
  | first :: rest =>
      if first.isDigit then
        let (significand, _, after) := extend largestNatural (Number.digitValue first) rest
        let excess := Number.leadingDigits after
        if excess.isEmpty then readWhole negative significand after
        else readScaled negative significand excess.length (Number.afterDigits after)
      else .error .malformed

/-- What a number is when it stands where something else is wanted. -/
def Numeral.found : Numeral → Found
  | .integer value => .integer value
  | .floating value => .floating value

end LetterPacks.Json
