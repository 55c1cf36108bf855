import Mathlib.Algebra.Order.Field.Power
import Mathlib.Algebra.Order.Ring.Rat
import Mathlib.Tactic.Ring
import VelocityScript.Number.Decimal

/-!
# Exact natural numbers

The magnitude of a double is its coefficient times a power of two, and two doubles
of one sign with the same magnitude are the same.  A natural number below `2 ^ 53`
is the magnitude of a double: rounding it changes nothing, and the text of the
double is the digits of the number.
-/

namespace VelocityScript

namespace Double

variable {number first second : Double} {value : Nat}

/-! ## Magnitudes -/

/-- The magnitude of a finite number. -/
def magnitude (number : Double) : ℚ :=
  number.significand * 2 ^ number.scale

/-- A double is a natural number, and has no sign. -/
structure IsNatural (number : Double) (value : Nat) : Prop where
  finite : number.isFinite = true
  unsigned : number.negative = false
  exact : number.magnitude = value

/-- The weight of the leading bit, which is also the number of fractions. -/
theorem leadingBit_eq : Nat.pow 2 52 = 4503599627370496 := rfl

theorem significand_lt (number : Double) : number.significand < 2 ^ 53 := by
  have fraction := number.fraction.isLt
  have leading := leadingBit_eq
  unfold significand
  split <;> omega

/-- Above the least scale a coefficient has all its bits. -/
theorem le_significand {least : Int} (lowest : -1074 ≤ least)
    (higher : least < number.scale) : 2 ^ 52 ≤ number.significand := by
  have leading := leadingBit_eq
  unfold scale at higher
  unfold significand
  split at higher
  · omega
  · next normal =>
      rw [if_neg normal]
      omega

theorem le_scale (number : Double) : -1074 ≤ number.scale := by
  unfold scale
  split <;> omega

/-- A greater scale outweighs every coefficient. -/
theorem magnitude_lt_of_scale_lt (less : first.scale < second.scale) :
    first.magnitude < second.magnitude := by
  have bounded : (first.significand : ℚ) < 2 ^ 53 := by
    exact_mod_cast first.significand_lt
  have normal : (2 : ℚ) ^ 52 ≤ second.significand := by
    exact_mod_cast le_significand first.le_scale less
  calc (first.significand : ℚ) * 2 ^ first.scale
      < 2 ^ 53 * 2 ^ first.scale :=
        mul_lt_mul_of_pos_right bounded (by positivity)
    _ = 2 ^ 52 * 2 ^ (first.scale + 1) := by
        rw [zpow_add_one₀ (by norm_num)]
        ring
    _ ≤ 2 ^ 52 * 2 ^ second.scale :=
        mul_le_mul_of_nonneg_left
          (zpow_le_zpow_right₀ (by norm_num) less) (by positivity)
    _ ≤ second.significand * 2 ^ second.scale :=
        mul_le_mul_of_nonneg_right normal (by positivity)

theorem scale_eq_of_magnitude_eq (same : first.magnitude = second.magnitude) :
    first.scale = second.scale := by
  rcases lt_trichotomy first.scale second.scale with less | equal | greater
  · exact absurd same (magnitude_lt_of_scale_lt less).ne
  · exact equal
  · exact absurd same (magnitude_lt_of_scale_lt greater).ne'

/-- A coefficient and a scale say which exponent and which fraction they come from:
the least two exponents have one scale, but not one coefficient. -/
theorem fields_eq (scales : first.scale = second.scale)
    (coefficients : first.significand = second.significand) :
    first.exponent = second.exponent ∧ first.fraction = second.fraction := by
  have leading := leadingBit_eq
  have firstBound := first.fraction.isLt
  have secondBound := second.fraction.isLt
  unfold scale at scales
  unfold significand at coefficients
  rw [Fin.ext_iff, Fin.ext_iff]
  split_ifs at scales coefficients <;> omega

theorem eq_of_magnitude_eq (signs : first.negative = second.negative)
    (same : first.magnitude = second.magnitude) : first = second := by
  have scales := scale_eq_of_magnitude_eq same
  have coefficients : first.significand = second.significand := by
    unfold magnitude at same
    rw [scales] at same
    exact_mod_cast mul_right_cancel₀ (zpow_ne_zero _ two_ne_zero) same
  obtain ⟨exponents, fractions⟩ := fields_eq scales coefficients
  cases first
  cases second
  rw [mk.injEq]
  exact ⟨signs, exponents, fractions⟩

theorem IsNatural.eq (natural : first.IsNatural value)
    (other : second.IsNatural value) : first = second :=
  eq_of_magnitude_eq (natural.unsigned.trans other.unsigned.symm)
    (natural.exact.trans other.exact.symm)

/-! ## Rounding a natural number -/

theorem roundHalfEven_one (numerator : Nat) : roundHalfEven numerator 1 = numerator := by
  unfold roundHalfEven
  simp [Nat.mod_one]

theorem floorLog_one (positive : value ≠ 0) : floorLog value 1 = value.log2 := by
  have zero : Nat.log2 1 = 0 := by decide
  have reached : 1 * 2 ^ ((value.log2 : Int) - 0).toNat ≤
      value * 2 ^ (-((value.log2 : Int) - 0)).toNat := by
    have below := Nat.log2_self_le positive
    have none : (-((value.log2 : Int) - 0)).toNat = 0 := by omega
    simpa [none] using below
  unfold floorLog
  rw [zero]
  exact (if_pos reached).trans (sub_zero _)

/-- The fields of a positive natural number: its bits, moved up until the first of
them is the one that is left out. -/
structure HasFieldsOf (number : Double) (value : Nat) : Prop where
  unsigned : number.negative = false
  exponent : number.exponent.val = value.log2 + 1023
  fraction : 2 ^ 52 + number.fraction.val = value * 2 ^ (52 - value.log2)

/-- A positive number with at most 53 bits, moved up to have all of them. -/
theorem shifted_bounds (positive : value ≠ 0) (small : value < 2 ^ 53) :
    value.log2 ≤ 52 ∧ 2 ^ 52 ≤ value * 2 ^ (52 - value.log2) ∧
      value * 2 ^ (52 - value.log2) < 2 ^ 53 := by
  have short : value.log2 ≤ 52 :=
    Nat.le_of_lt_succ ((Nat.log2_lt positive).mpr small)
  have lower : 2 ^ value.log2 * 2 ^ (52 - value.log2) = 2 ^ 52 := by
    rw [← Nat.pow_add, Nat.add_sub_cancel' short]
  have upper : 2 ^ (value.log2 + 1) * 2 ^ (52 - value.log2) = 2 ^ 53 := by
    rw [← Nat.pow_add]
    congr 1
    omega
  refine ⟨short, ?_, ?_⟩
  · rw [← lower]
    exact Nat.mul_le_mul_right _ (Nat.log2_self_le positive)
  · rw [← upper]
    exact Nat.mul_lt_mul_of_pos_right Nat.lt_log2_self (Nat.two_pow_pos _)

/-- The fields of bits that are put together from an exponent, less one, and a
coefficient with all its bits. -/
theorem ofBits_fields {exponent coefficient : Nat} (few : exponent < 2047)
    (full : 2 ^ 52 ≤ coefficient) (bounded : coefficient < 2 ^ 53) :
    (ofBits (exponent * Nat.pow 2 52 + coefficient)).exponent.val = exponent + 1 ∧
      2 ^ 52 + (ofBits (exponent * Nat.pow 2 52 + coefficient)).fraction.val =
        coefficient := by
  simp only [ofBits, leadingBit_eq]
  omega

theorem ofQuotient?_natural (positive : value ≠ 0) (small : value < 2 ^ 53) :
    ∃ number, ofQuotient? false value 1 = some number ∧
      number.HasFieldsOf value := by
  obtain ⟨short, full, bounded⟩ := shifted_bounds positive small
  have unit : max (floorLog value 1 - 52) (-1074) = (value.log2 : Int) - 52 := by
    rw [floorLog_one positive]
    omega
  -- The unit of the last place is at most one, so that nothing is rounded off.
  have whole : ((value.log2 : Int) - 52).toNat = 0 := by omega
  have shift : (-((value.log2 : Int) - 52)).toNat = 52 - value.log2 := by omega
  have place : ((value.log2 : Int) - 52 + 1074).toNat = value.log2 + 1022 := by omega
  have coefficient : roundHalfEven (value * Nat.pow 2 (52 - value.log2))
      (1 * Nat.pow 2 0) = value * 2 ^ (52 - value.log2) :=
    roundHalfEven_one _
  have fits : (value.log2 + 1022) * Nat.pow 2 52 + value * 2 ^ (52 - value.log2) <
      2047 * Nat.pow 2 52 := by
    rw [leadingBit_eq]
    omega
  obtain ⟨exponent, fraction⟩ :=
    ofBits_fields (by omega : value.log2 + 1022 < 2047) full bounded
  refine ⟨{ ofBits ((value.log2 + 1022) * Nat.pow 2 52 +
    value * 2 ^ (52 - value.log2)) with negative := false }, ?_,
    ⟨rfl, exponent, fraction⟩⟩
  unfold ofQuotient?
  rw [if_neg positive]
  simp only [unit, whole, shift, place, coefficient]
  exact if_pos fits

theorem HasFieldsOf.isNatural (fields : number.HasFieldsOf value)
    (short : value.log2 ≤ 52) : number.IsNatural value := by
  have normal : number.exponent.val ≠ 0 := by
    rw [fields.exponent]
    omega
  have scale : number.scale = -((52 - value.log2 : Nat) : Int) := by
    rw [Double.scale, if_neg normal, fields.exponent]
    omega
  have significand : number.significand = value * 2 ^ (52 - value.log2) := by
    rw [Double.significand, if_neg normal]
    exact fields.fraction
  refine ⟨?_, fields.unsigned, ?_⟩
  · rw [isFinite, fields.exponent, bne_iff_ne]
    omega
  · rw [magnitude, scale, significand, zpow_neg, zpow_natCast]
    push_cast
    exact mul_inv_cancel_right₀ (pow_ne_zero _ two_ne_zero) _

theorem isNatural_zero : IsNatural ⟨false, 0, 0⟩ 0 where
  finite := rfl
  unsigned := rfl
  exact := by
    have nothing : significand ⟨false, 0, 0⟩ = 0 := rfl
    rw [magnitude, nothing, Nat.cast_zero, zero_mul]

/-- Rounding a natural number below `2 ^ 53` changes nothing. -/
theorem exists_isNatural (small : value < 2 ^ 53) :
    ∃ number, ofQuotient? false value 1 = some number ∧ number.IsNatural value := by
  by_cases zero : value = 0
  · subst zero
    exact ⟨⟨false, 0, 0⟩, rfl, isNatural_zero⟩
  · obtain ⟨number, rounded, fields⟩ := ofQuotient?_natural zero small
    exact ⟨number, rounded, fields.isNatural (shifted_bounds zero small).1⟩

/-! ## The text of a natural number -/

theorem IsNatural.natural?_eq (natural : number.IsNatural value) :
    number.natural? = some value := by
  have exact := natural.exact
  unfold magnitude at exact
  unfold natural?
  rw [if_pos natural.finite]
  split
  · next whole =>
      obtain ⟨power, scale⟩ := Int.eq_ofNat_of_zero_le whole
      rw [scale, zpow_natCast] at exact
      rw [scale, Int.toNat_natCast]
      exact congrArg some (by exact_mod_cast exact)
  · next fractional =>
      -- The coefficient is a multiple of its unit, because the magnitude is whole.
      obtain ⟨power, scale⟩ : ∃ power : Nat, number.scale = -(power : Int) :=
        ⟨(-number.scale).toNat, by omega⟩
      have significand : number.significand = value * 2 ^ power := by
        rw [scale, zpow_neg, zpow_natCast, mul_inv_eq_iff_eq_mul₀
          (pow_ne_zero _ two_ne_zero)] at exact
        exact_mod_cast exact
      rw [scale, neg_neg, Int.toNat_natCast, significand]
      exact (if_pos (Nat.mul_mod_left value (2 ^ power))).trans
        (congrArg some (Nat.mul_div_cancel value (Nat.two_pow_pos power)))

theorem IsNatural.text_eq (natural : number.IsNatural value)
    (small : value < 2 ^ 53) : number.text = Nat.repr value := by
  unfold text
  rw [natural.natural?_eq]
  dsimp only
  by_cases zero : value = 0
  · subst zero
    rfl
  · have below : value < Nat.pow 2 53 := small
    rw [if_neg zero, if_pos below, natural.unsigned, Nat.repr_eq_ofList_toDigits]
    rfl

end Double

end VelocityScript
