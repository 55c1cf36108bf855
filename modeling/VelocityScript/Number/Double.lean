/-!
# Double-precision numbers

A double is its sign, its biased exponent and its fraction.  All rounding is
exact arithmetic on natural numbers, so nothing here depends on the machine.
-/

namespace VelocityScript

/-- A number in the 64-bit binary interchange format. -/
structure Double where
  negative : Bool
  exponent : Fin 2048
  fraction : Fin 4503599627370496
  deriving DecidableEq

/-- The nearest natural number to a quotient; a half goes to the even
neighbour. -/
def roundHalfEven (numerator denominator : Nat) : Nat :=
  let quotient := numerator / denominator
  let doubled := 2 * (numerator % denominator)
  if doubled < denominator then
    quotient
  else if denominator < doubled then
    quotient + 1
  else
    quotient + quotient % 2

namespace Double

def ofBits (bits : Nat) : Double :=
  { negative := bits / Nat.pow 2 63 % 2 == 1
    exponent := ⟨bits / Nat.pow 2 52 % 2048, Nat.mod_lt _ (by decide)⟩
    fraction := ⟨bits % Nat.pow 2 52, Nat.mod_lt _ (by decide)⟩ }

def toBits (number : Double) : Nat :=
  (if number.negative then Nat.pow 2 63 else 0) +
    number.exponent.val * Nat.pow 2 52 + number.fraction.val

/-- Whether the number is neither infinite nor undefined. -/
def isFinite (number : Double) : Bool :=
  number.exponent.val != 2047

/-- The coefficient `m` of the magnitude `m * 2 ^ q`. -/
def significand (number : Double) : Nat :=
  if number.exponent.val = 0 then
    number.fraction.val
  else
    Nat.pow 2 52 + number.fraction.val

/-- The power `q` of the magnitude `m * 2 ^ q`. -/
def scale (number : Double) : Int :=
  if number.exponent.val = 0 then
    -1074
  else
    (number.exponent.val : Int) - 1075

/-- The natural number a magnitude equals, if it is one. -/
def natural? (number : Double) : Option Nat :=
  if number.isFinite then
    if 0 ≤ number.scale then
      some (number.significand * Nat.pow 2 number.scale.toNat)
    else
      let unit := Nat.pow 2 (-number.scale).toNat
      if number.significand % unit = 0 then
        some (number.significand / unit)
      else
        none
  else
    none

/-- The greatest power of two that is at most a positive quotient. -/
def floorLog (numerator denominator : Nat) : Int :=
  let high : Int := (numerator.log2 : Int) - denominator.log2
  if denominator * Nat.pow 2 high.toNat ≤
      numerator * Nat.pow 2 (-high).toNat then
    high
  else
    high - 1

/-- The double nearest to a quotient, a tie going to the even neighbour; none
where the magnitude is too large.  The exponent and the coefficient are added
as one number, so that a coefficient rounded up to the next power of two
carries into the exponent. -/
def ofQuotient?
    (negative : Bool) (numerator denominator : Nat) : Option Double :=
  if numerator = 0 then
    some ⟨negative, 0, 0⟩
  else
    let unit := max (floorLog numerator denominator - 52) (-1074)
    let coefficient :=
      roundHalfEven
        (numerator * Nat.pow 2 (-unit).toNat)
        (denominator * Nat.pow 2 unit.toNat)
    let bits := (unit + 1074).toNat * Nat.pow 2 52 + coefficient
    if bits < 2047 * Nat.pow 2 52 then
      some { ofBits bits with negative := negative }
    else
      none

end Double

end VelocityScript
