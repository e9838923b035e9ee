import LetterPacks.Number.Binary64
import LetterPacks.Number.Digits

/-!
# The shortest decimal text of a double-precision number

Among the decimals that round to a number, the shortest are the ones with the fewest digits, and of
those the nearest to the number is written.  Between `1e-5` and `1e16` the digits stand around a
decimal point with at least one digit on either side; outside they carry an exponent of ten with its
sign.
-/

namespace LetterPacks.Number

/-- A decimal `0.d₁d₂… * 10 ^ power`, given by the whole number that its digits write. -/
structure ShortDecimal where
  digits : Nat
  count : Nat
  power : Int
deriving DecidableEq, Repr

namespace Binary64

/-- The power of ten just above a positive ratio: `10 ^ (power - 1) ≤ ratio < 10 ^ power`. -/
def decimalPower (numerator denominator : Nat) : Int :=
  if denominator ≤ numerator then (Number.digits (numerator / denominator)).length
  else
    let inverse := (denominator + numerator - 1) / numerator
    1 - ((Number.digits (inverse - 1)).length : Int)

/-- Whether `numerator / denominator` rounds to the magnitude: it lies between the midpoints to the
two neighbouring magnitudes, which count themselves when the significand is even. -/
def roundsTo (magnitude : Binary64) (numerator denominator : Nat) : Bool :=
  let (value, unit) := magnitude.ratio
  let step := if 0 ≤ magnitude.exponent then Nat.pow 2 magnitude.exponent.toNat else 1
  let narrow := magnitude.significand = Nat.pow 2 52 && leastExponent < magnitude.exponent
  let low := if narrow then 4 * value - step else 4 * value - 2 * step
  let high := 4 * value + 2 * step
  let point := 4 * numerator * unit
  if magnitude.significand % 2 = 0 then
    low * denominator ≤ point && point ≤ high * denominator
  else low * denominator < point && point < high * denominator

/-- The nearest decimal with the given count of digits that rounds to the magnitude, if there is
one.  Only the two decimals of that count around the magnitude can be the nearest. -/
def decimalOfCount? (magnitude : Binary64) (power : Int) (count : Nat) : Option ShortDecimal :=
  let (value, unit) := magnitude.ratio
  let shift : Int := count - power
  let (numerator, denominator) :=
    if 0 ≤ shift then (value * Nat.pow 10 shift.toNat, unit)
    else (value, unit * Nat.pow 10 (-shift).toNat)
  let below := numerator / denominator
  let rest := numerator % denominator
  let fits (digits : Nat) : Bool :=
    if 0 ≤ shift then magnitude.roundsTo digits (Nat.pow 10 shift.toNat)
    else magnitude.roundsTo (digits * Nat.pow 10 (-shift).toNat) 1
  let nearest := Binary64.roundQuotient numerator denominator
  let other := if nearest = below then below + 1 else below
  if fits nearest then some ⟨nearest, count, power⟩
  else if rest ≠ 0 && fits other then some ⟨other, count, power⟩
  else none

/-- The shortest decimal that rounds to a positive magnitude.  Seventeen digits always suffice. -/
def shortest (magnitude : Binary64) : ShortDecimal :=
  let (value, unit) := magnitude.ratio
  let power := decimalPower value unit
  (((List.range 17).map (· + 1)).findSome? (magnitude.decimalOfCount? power)).getD ⟨0, 1, 1⟩

end Binary64

/-- The digits of a short decimal without the zeros at its end, and the power of ten that goes with
them.  A carry into a new digit raises the power. -/
def ShortDecimal.significant (decimal : ShortDecimal) : List Char × Int :=
  let run := Number.digits decimal.digits
  let carried : Int := decimal.power + (run.length - decimal.count)
  let kept := (run.reverse.dropWhile (· == '0')).reverse
  (kept, carried)

/-- The text of a positive decimal whose digits start just behind the point, times a power of ten.
-/
def scientificText (run : List Char) (power : Int) : List Char :=
  let exponent := power - 1
  if -5 ≤ exponent && exponent ≤ 15 then
    if power ≤ 0 then
      ['0', '.'] ++ List.replicate (-power).toNat '0' ++ run
    else if run.length ≤ power.toNat then
      run ++ List.replicate (power.toNat - run.length) '0' ++ ['.', '0']
    else run.take power.toNat ++ ['.'] ++ run.drop power.toNat
  else
    let fraction := if run.length ≤ 1 then [] else '.' :: run.drop 1
    run.take 1 ++ fraction ++ ['e', if exponent < 0 then '-' else '+'] ++
      Number.digits exponent.natAbs

/-- A floating-point number: a sign and a magnitude.  Zero has a sign too. -/
structure Floating where
  negative : Bool
  magnitude : Binary64
deriving DecidableEq, Repr

def Floating.text (number : Floating) : String :=
  let unsigned :=
    if number.magnitude.significand = 0 then ['0', '.', '0']
    else
      let (run, power) := number.magnitude.shortest.significant
      scientificText run power
  String.ofList (if number.negative then '-' :: unsigned else unsigned)

end LetterPacks.Number
