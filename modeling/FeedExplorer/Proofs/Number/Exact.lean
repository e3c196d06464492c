import FeedExplorer.Number.Binary64
import Mathlib.Algebra.Order.Field.Basic
import Mathlib.Data.Nat.Cast.Field
import Mathlib.Data.Rat.Cast.Order
import Mathlib.Tactic.FieldSimp
import Mathlib.Tactic.Linarith
import Mathlib.Tactic.Ring

/-!
# Exact values

The rational number that a double denotes, and how far it is from a rounded decimal. Main statement:
rounding to a number of places moves a double by half a unit of the last place at most, and an
integer not at all.
-/

namespace FeedExplorer

namespace Number

/-- The factor of a sign. -/
def signed (negative : Bool) : ℚ :=
  if negative then -1 else 1

theorem abs_signed (negative : Bool) : |signed negative| = 1 := by
  cases negative <;> simp [signed]

theorem signed_mul_natAbs (k : ℤ) : signed (decide (k < 0)) * k.natAbs = k := by
  rw [Nat.cast_natAbs, Int.cast_abs, signed]
  by_cases hk : k < 0
  · rw [if_pos (decide_eq_true hk), abs_of_neg (by exact_mod_cast hk), neg_one_mul, neg_neg]
  · rw [if_neg (by simpa using hk), abs_of_nonneg (by exact_mod_cast not_lt.mp hk), one_mul]

theorem abs_roundEven_sub_le (num : Nat) {den : Nat} (hden : 0 < den) :
    |(roundEven num den : ℚ) - num / den| ≤ 1 / 2 := by
  obtain ⟨hbelow, habove⟩ := @roundEven_near num den hden
  have hpos : (0 : ℚ) < den := by exact_mod_cast hden
  have hbelow : (2 : ℚ) * num ≤ 2 * (roundEven num den * den) + den := by exact_mod_cast hbelow
  have habove : (2 : ℚ) * (roundEven num den * den) ≤ 2 * num + den := by exact_mod_cast habove
  have hquotient : (num : ℚ) / den * den = num := div_mul_cancel₀ _ hpos.ne'
  rw [abs_le]
  constructor
  · refine le_of_mul_le_mul_right ?_ hpos
    rw [sub_mul, hquotient]
    linarith
  · refine le_of_mul_le_mul_right ?_ hpos
    rw [sub_mul, hquotient]
    linarith

end Number

namespace Binary64

open Number (abs_signed roundEven signed)

/-- The number that is denoted. -/
def toRat (x : Binary64) : ℚ :=
  signed x.negative * (x.mantissa * 2 ^ x.exponent)

theorem toRat_eq_div (x : Binary64) :
    x.toRat = signed x.negative * (x.numerator / x.denominator) := by
  have hpow : (2 : ℚ) ^ x.exponent = 2 ^ x.exponent.toNat / 2 ^ (-x.exponent).toNat := by
    conv_lhs => rw [← Int.toNat_sub_toNat_neg x.exponent]
    rw [zpow_sub₀ two_ne_zero, zpow_natCast, zpow_natCast]
  have hnumerator : (x.numerator : ℚ) = x.mantissa * 2 ^ x.exponent.toNat := by
    exact_mod_cast rfl
  have hdenominator : (x.denominator : ℚ) = 2 ^ (-x.exponent).toNat := by
    exact_mod_cast rfl
  rw [toRat, hpow, hnumerator, hdenominator, mul_div_assoc]

variable {x : Binary64}

theorem numerator_of_toRat {k : ℤ} (h : x.toRat = k) :
    x.numerator = k.natAbs * x.denominator := by
  have hpos : (0 : ℚ) < x.denominator := by exact_mod_cast x.denominator_pos
  have hmagnitude : (x.numerator : ℚ) / x.denominator = k.natAbs := by
    calc (x.numerator : ℚ) / x.denominator
        = |signed x.negative * (x.numerator / x.denominator)| := by
          rw [abs_mul, abs_signed, one_mul,
            abs_of_nonneg (div_nonneg (Nat.cast_nonneg _) (Nat.cast_nonneg _))]
      _ = k.natAbs := by rw [← toRat_eq_div, h, Nat.cast_natAbs, Int.cast_abs]
  rw [div_eq_iff hpos.ne'] at hmagnitude
  exact_mod_cast hmagnitude

theorem toRat_of_isIntegral (h : x.isIntegral = true) : x.toRat = x.truncate := by
  have hdvd : x.denominator ∣ x.numerator := Nat.dvd_of_mod_eq_zero (beq_iff_eq.mp h)
  rw [toRat_eq_div, ← Nat.cast_div_charZero hdvd, truncate, signed]
  split
  · rw [Int.cast_neg, Int.cast_natCast, neg_one_mul]
  · rw [Int.cast_natCast, one_mul]

/-! ## Rounding to places -/

/-- The double in units of the last of `places` places, rounded and without its sign. -/
def units (places : Nat) (x : Binary64) : Nat :=
  roundEven (x.numerator * 10 ^ places) x.denominator

theorem abs_units_sub_le (places : Nat) (x : Binary64) :
    |signed x.negative * (x.units places / 10 ^ places) - x.toRat| ≤ 1 / 2 / 10 ^ places := by
  have hpos : (0 : ℚ) < 10 ^ places := by positivity
  have hround := Number.abs_roundEven_sub_le (x.numerator * 10 ^ places) x.denominator_pos
  have hscaled : (x.units places : ℚ) / 10 ^ places - x.numerator / x.denominator =
      (x.units places - (x.numerator * 10 ^ places : Nat) / x.denominator) / 10 ^ places := by
    push_cast
    field_simp
  rw [toRat_eq_div, ← mul_sub, abs_mul, abs_signed, one_mul, hscaled, abs_div, abs_of_pos hpos]
  exact div_le_div_of_nonneg_right hround hpos.le

theorem units_of_toRat (places : Nat) {k : ℤ} (h : x.toRat = k) :
    signed x.negative * (x.units places / 10 ^ places) = x.toRat := by
  have hunits : x.units places = k.natAbs * 10 ^ places := by
    rw [units, numerator_of_toRat h, Nat.mul_right_comm,
      Number.roundEven_mul _ x.denominator_pos]
  have hden : (x.denominator : ℚ) ≠ 0 := by exact_mod_cast x.denominator_pos.ne'
  rw [toRat_eq_div, hunits, numerator_of_toRat h]
  push_cast
  rw [mul_div_cancel_right₀ _ hden, mul_div_cancel_right₀ _ (by positivity)]

end Binary64

end FeedExplorer
