import VelocityScript.Number.Double

/-!
# Numeric literals

A literal is a decimal number, possibly with a fraction and an exponent, or an
integer after `0x`, `0o` or `0b`.  The separator `_` may stand anywhere.
-/

namespace VelocityScript

/-- The value of a digit in bases up to sixteen. -/
def digitValue? (character : Char) : Option Nat :=
  if '0' ≤ character ∧ character ≤ '9' then
    some (character.toNat - '0'.toNat)
  else if 'a' ≤ character ∧ character ≤ 'f' then
    some (character.toNat - 'a'.toNat + 10)
  else if 'A' ≤ character ∧ character ≤ 'F' then
    some (character.toNat - 'A'.toNat + 10)
  else
    none

def digitIn? (base : Nat) (character : Char) : Option Nat :=
  (digitValue? character).filter (· < base)

/-- The value of a sequence of digits that continues `value`. -/
def digitsFrom? (base : Nat) : Nat → List Char → Option Nat
  | value, [] => some value
  | value, character :: rest =>
      match digitIn? base character with
      | some digit => digitsFrom? base (value * base + digit) rest
      | none => none

/-- The value of a nonempty sequence of digits. -/
def digits? (base : Nat) (characters : List Char) : Option Nat :=
  if characters.isEmpty then none else digitsFrom? base 0 characters

/-- An integer after its base mark: a plus sign may precede the digits, and
the value must fit in 64 bits. -/
def radixInteger? (base : Nat) (characters : List Char) : Option Nat :=
  let unsigned :=
    match characters with
    | '+' :: rest => rest
    | _ => characters
  (digits? base unsigned).filter (· < Nat.pow 2 64)

structure DecimalParts where
  negative : Bool
  whole : List Char
  fraction : List Char
  exponent : Int

/-- The exponent part: nothing, or a mark, an optional sign and digits. -/
def exponentPart? (characters : List Char) : Option Int :=
  match characters with
  | [] => some 0
  | mark :: rest =>
      if mark = 'e' ∨ mark = 'E' then
        match rest with
        | '-' :: digits => (digits? 10 digits).map fun value => -(value : Int)
        | '+' :: digits => (digits? 10 digits).map fun value => (value : Int)
        | digits => (digits? 10 digits).map fun value => (value : Int)
      else
        none

/-- Cuts a decimal number into its parts.  At least one digit must stand
before or after the point. -/
def DecimalParts.ofCharacters? (characters : List Char) : Option DecimalParts :=
  let (negative, unsigned) :=
    match characters with
    | '-' :: rest => (true, rest)
    | '+' :: rest => (false, rest)
    | _ => (false, characters)
  let whole := unsigned.takeWhile Char.isDigit
  let afterWhole := unsigned.dropWhile Char.isDigit
  let (fraction, afterFraction) :=
    match afterWhole with
    | '.' :: rest => (rest.takeWhile Char.isDigit, rest.dropWhile Char.isDigit)
    | _ => ([], afterWhole)
  if whole.isEmpty ∧ fraction.isEmpty then
    none
  else
    (exponentPart? afterFraction).map fun exponent =>
      ⟨negative, whole, fraction, exponent⟩

/-- The nearest double of a decimal number; none where it is too large.  Far
outside the range of doubles the answer is known from the number of digits
alone. -/
def DecimalParts.nearest? (parts : DecimalParts) : Option Double :=
  let digits := parts.whole ++ parts.fraction
  let coefficient := (digitsFrom? 10 0 digits).getD 0
  let power := parts.exponent - parts.fraction.length
  if coefficient = 0 ∨ (digits.length : Int) + power < -330 then
    Double.ofQuotient? parts.negative 0 1
  else if 330 + (digits.length : Int) < power then
    none
  else
    Double.ofQuotient? parts.negative
      (coefficient * Nat.pow 10 power.toNat) (Nat.pow 10 (-power).toNat)

/-- The base that the first two characters announce. -/
def radixMark? (mark : Char) : Option Nat :=
  if mark = 'x' ∨ mark = 'X' then
    some 16
  else if mark = 'o' ∨ mark = 'O' then
    some 8
  else if mark = 'b' ∨ mark = 'B' then
    some 2
  else
    none

def decimalLiteral? (characters : List Char) : Option Double :=
  (DecimalParts.ofCharacters? characters).bind DecimalParts.nearest?

/-- The value of a numeric literal. -/
def numericLiteral? (text : String) : Option Double :=
  let characters := text.toList.filter (· != '_')
  match characters with
  | '0' :: mark :: rest =>
      match radixMark? mark with
      | some base =>
          (radixInteger? base rest).bind fun value =>
            Double.ofQuotient? false value 1
      | none => decimalLiteral? characters
  | _ => decimalLiteral? characters

end VelocityScript
