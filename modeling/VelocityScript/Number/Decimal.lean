import VelocityScript.Number.Double

/-!
# Decimal text of doubles

A whole number below `2 ^ 53` is written as its digits.  Any other finite
number is written with the fewest digits that read back as the same double,
the nearest of those, and without an exponent.
-/

namespace VelocityScript

/-- The decimal digits of a natural number. -/
def naturalDigits (value : Nat) : List Char :=
  Nat.toDigits 10 value

/-- The number `coefficient * 10 ^ power`. -/
structure Decimal where
  coefficient : Nat
  power : Int
  deriving DecidableEq

namespace Decimal

/-- Drops zeros from the end of the coefficient, at most `count` of them. -/
def trimZeros : Nat → Decimal → Decimal
  | 0, decimal => decimal
  | count + 1, decimal =>
      if decimal.coefficient % 10 = 0 then
        trimZeros count ⟨decimal.coefficient / 10, decimal.power + 1⟩
      else
        decimal

/-- Positional text, with a point only where a fraction follows it. -/
def positional (decimal : Decimal) : List Char :=
  let digits := naturalDigits decimal.coefficient
  if 0 ≤ decimal.power then
    digits ++ List.replicate decimal.power.toNat '0'
  else
    let places := (-decimal.power).toNat
    if places < digits.length then
      digits.take (digits.length - places) ++
        '.' :: digits.drop (digits.length - places)
    else
      '0' :: '.' :: (List.replicate (places - digits.length) '0' ++ digits)

end Decimal

/-- The exponent `e` with `10 ^ (e - 1) ≤ v < 10 ^ e` for a positive quotient. -/
def decimalExponent (numerator denominator : Nat) : Int :=
  if denominator ≤ numerator then
    (naturalDigits (numerator / denominator)).length
  else
    1 - ((naturalDigits ((denominator - 1) / numerator)).length : Int)

/-- A positive quotient together with the reals that round to it: those
between `low` and `high` over the same denominator, the ends counting when
`closed` holds. -/
structure RoundingInterval where
  low : Nat
  value : Nat
  high : Nat
  denominator : Nat
  closed : Bool

namespace RoundingInterval

/-- The interval of a nonzero finite double.  Below a power of two the
neighbour is half as far away as above it. -/
def ofDouble (number : Double) : RoundingInterval :=
  let coefficient := number.significand
  let power := number.scale - 2
  let unit := Nat.pow 2 power.toNat
  let below := if number.fraction.val = 0 ∧ number.exponent.val ≠ 0 then 1 else 2
  { low := (4 * coefficient - below) * unit
    value := 4 * coefficient * unit
    high := (4 * coefficient + 2) * unit
    denominator := Nat.pow 2 (-power).toNat
    closed := coefficient % 2 == 0 }

def contains (interval : RoundingInterval) (count : Nat) (power : Int) : Bool :=
  let point := count * Nat.pow 10 power.toNat * interval.denominator
  let scaling := Nat.pow 10 (-power).toNat
  if interval.closed then
    interval.low * scaling ≤ point && point ≤ interval.high * scaling
  else
    interval.low * scaling < point && point < interval.high * scaling

/-- The candidate with the given number of digits: of the two neighbours of
the value on that grid the one that rounds to it, the nearer if both do, and
the upper one on a tie. -/
def candidate? (interval : RoundingInterval) (digits : Nat) : Option Decimal :=
  let power :=
    decimalExponent interval.value interval.denominator - digits
  let scaled := interval.value * Nat.pow 10 (-power).toNat
  let unit := interval.denominator * Nat.pow 10 power.toNat
  let below := scaled / unit
  let remainder := scaled % unit
  match interval.contains below power, interval.contains (below + 1) power with
  | true, true =>
      some ⟨if unit ≤ 2 * remainder then below + 1 else below, power⟩
  | true, false => some ⟨below, power⟩
  | false, true => some ⟨below + 1, power⟩
  | false, false => none

/-- The shortest decimal that rounds to the value.  Seventeen digits always
suffice. -/
def shortest (interval : RoundingInterval) : Decimal :=
  match (List.range 17).findSome? fun index => interval.candidate? (index + 1) with
  | some decimal => decimal.trimZeros 17
  | none => ⟨interval.value / interval.denominator, 0⟩

end RoundingInterval

namespace Double

def magnitudeText (number : Double) : List Char :=
  (RoundingInterval.ofDouble number).shortest.positional

/-- The text of a number in a template. -/
def text (number : Double) : String :=
  match number.natural? with
  | some value =>
      if value = 0 then
        "0"
      else if value < Nat.pow 2 53 then
        String.ofList
          ((if number.negative then ['-'] else []) ++ naturalDigits value)
      else
        String.ofList
          ((if number.negative then ['-'] else []) ++ number.magnitudeText)
  | none =>
      if number.isFinite then
        String.ofList
          ((if number.negative then ['-'] else []) ++ number.magnitudeText)
      else if number.fraction.val = 0 then
        if number.negative then "-inf" else "inf"
      else
        "NaN"

end Double

end VelocityScript
