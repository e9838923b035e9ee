/-!
# Double-precision magnitudes

A floating-point number of double precision, without its sign, is a significand of at most 53 bits
times a power of two.  An exact ratio of whole numbers is brought to the nearest such number, a tie
to the even significand; multiplying and dividing round the exact result once.  A result beyond the
largest number has no magnitude.
-/

namespace LetterPacks.Number

structure Binary64 where
  significand : Nat
  exponent : Int
deriving DecidableEq, Repr

namespace Binary64

/-- The least power of two that a significand may be multiplied with. -/
def leastExponent : Int := -1074

/-- The greatest power of two that a full significand may be multiplied with. -/
def greatestExponent : Int := 971

/-- The quotient of two whole numbers rounded to the nearest whole number, a tie to the even one. -/
def roundQuotient (dividend divisor : Nat) : Nat :=
  let quotient := dividend / divisor
  let twice := 2 * (dividend % divisor)
  if twice < divisor then quotient
  else if divisor < twice then quotient + 1
  else quotient + quotient % 2

/-- The numerator and the denominator of `numerator / denominator * 2 ^ -exponent`. -/
def scaled (numerator denominator : Nat) (exponent : Int) : Nat × Nat :=
  if 0 ≤ exponent then (numerator, denominator * Nat.pow 2 exponent.toNat)
  else (numerator * Nat.pow 2 (-exponent).toNat, denominator)

/-- The power of two that leaves 53 bits before the point, as far as the range allows. -/
def unitExponent (numerator denominator : Nat) : Int :=
  let estimate : Int := Nat.log2 numerator - Nat.log2 denominator
  let low := max (estimate - 53) leastExponent
  let (dividend, divisor) := scaled numerator denominator low
  if dividend / divisor < Nat.pow 2 53 then low else low + 1

/-- The magnitude nearest to `numerator / denominator`; none beyond the largest one. -/
def ofRatio? (numerator denominator : Nat) : Option Binary64 :=
  if numerator = 0 then some ⟨0, leastExponent⟩
  else
    let exponent := unitExponent numerator denominator
    let (dividend, divisor) := scaled numerator denominator exponent
    let significand := roundQuotient dividend divisor
    let rounded : Binary64 :=
      if significand = Nat.pow 2 53 then ⟨Nat.pow 2 52, exponent + 1⟩ else ⟨significand, exponent⟩
    if rounded.exponent ≤ greatestExponent then some rounded else none

def ratio (magnitude : Binary64) : Nat × Nat :=
  if 0 ≤ magnitude.exponent then
    (magnitude.significand * Nat.pow 2 magnitude.exponent.toNat, 1)
  else (magnitude.significand, Nat.pow 2 (-magnitude.exponent).toNat)

def mul? (left right : Binary64) : Option Binary64 :=
  ofRatio? (left.ratio.1 * right.ratio.1) (left.ratio.2 * right.ratio.2)

def div? (left right : Binary64) : Option Binary64 :=
  ofRatio? (left.ratio.1 * right.ratio.2) (left.ratio.2 * right.ratio.1)

def tenTo? (power : Nat) : Option Binary64 :=
  ofRatio? (Nat.pow 10 power) 1

def greatestPower : Nat := 308

end Binary64

/-- Divides by the largest power of ten a number of times, then by the power that is left.  A
magnitude that has become zero on the way stays zero. -/
def Binary64.scaleDown : Nat → Nat → Binary64 → Option Binary64
  | 0, power, magnitude => (tenTo? power).bind magnitude.div?
  | times + 1, power, magnitude =>
      if magnitude.significand = 0 then some magnitude
      else (tenTo? greatestPower).bind magnitude.div? |>.bind (scaleDown times power)

/-- A significand times a power of ten, rounded step by step: the significand, each power and each
product or quotient.  None beyond the largest magnitude. -/
def Binary64.ofScientific? (significand : Nat) (power : Int) : Option Binary64 := do
  let magnitude ← Binary64.ofRatio? significand 1
  let size := power.natAbs
  if power < 0 then
    let times := (size - 1) / greatestPower
    magnitude.scaleDown times (size - greatestPower * times)
  else if size ≤ greatestPower then (tenTo? size).bind magnitude.mul?
  else if magnitude.significand = 0 then some magnitude
  else none

end LetterPacks.Number
