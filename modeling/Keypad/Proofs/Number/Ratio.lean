import Keypad.Number.Ratio
import Mathlib

/-!
# Ratios as rational numbers

What scaling, rounding and taking the order do to the number that a ratio stands for.
Products of numerators and denominators stay inside this module.
-/

namespace Keypad.Ratio

/-- The number that a ratio stands for. -/
def value (r : Ratio) : ℚ :=
  r.num / r.den

variable (r : Ratio)

theorem den_value_pos : (0 : ℚ) < r.den :=
  Nat.cast_pos.2 r.den_pos

theorem value_mul_den : r.value * r.den = r.num :=
  div_mul_cancel₀ _ r.den_value_pos.ne'

theorem num_pos_of_value_pos (positive : 0 < r.value) : 0 < r.num := by
  rw [value, div_pos_iff_of_pos_right r.den_value_pos] at positive
  exact_mod_cast positive

@[simp] theorem value_ofNat (n : Nat) : (ofNat n).value = n := by
  simp [value, ofNat]

/-- The order of ratios is that of their numbers. -/
theorem lt_iff (left right : Ratio) : left.lt right ↔ left.value < right.value := by
  rw [lt, decide_eq_true_iff, value, value, div_lt_div_iff₀ left.den_value_pos right.den_value_pos]
  exact_mod_cast Iff.rfl

/-- Scaling multiplies by the power of the base. -/
@[simp] theorem value_scale (base : Nat) (exponent : Int) (positive : 0 < base) :
    (r.scale base exponent positive).value = r.value * (base : ℚ) ^ exponent := by
  cases exponent with
  | ofNat n => simp [scale, value, div_mul_eq_mul_div]
  | negSucc n =>
      rw [zpow_negSucc, ← div_eq_mul_inv]
      simp [scale, value, div_div]

/-- The nearest integer is at most a half above the number. -/
theorem nearest_le : (r.nearest : ℚ) ≤ r.value + 1 / 2 := by
  have close : (2 * (r.nearest * r.den) : ℚ) ≤ 2 * r.num + r.den :=
    mod_cast r.nearest_within_half.2
  rw [← r.value_mul_den] at close
  nlinarith [r.den_value_pos]

/-- The nearest integer is at most a half below the number. -/
theorem le_nearest : r.value - 1 / 2 ≤ r.nearest := by
  have close : (2 * r.num : ℚ) ≤ 2 * (r.nearest * r.den) + r.den :=
    mod_cast r.nearest_within_half.1
  rw [← r.value_mul_den] at close
  nlinarith [r.den_value_pos]

/-- An integer less than a half away is the nearest one. -/
theorem nearest_eq_of_abs_sub_lt {n : Nat} (close : |r.value - n| < 1 / 2) : r.nearest = n := by
  obtain ⟨below, above⟩ := abs_lt.1 close
  have high : (r.nearest : ℚ) < n + 1 := by linarith [r.nearest_le]
  have low : (n : ℚ) < r.nearest + 1 := by linarith [r.le_nearest]
  have high : r.nearest < n + 1 := by exact_mod_cast high
  have low : n < r.nearest + 1 := by exact_mod_cast low
  omega

/-- Rounding does not go below an integer. -/
theorem le_nearest_of_le {n : Nat} (low : (n : ℚ) ≤ r.value) : n ≤ r.nearest := by
  have bound : (n : ℚ) < r.nearest + 1 := by linarith [r.le_nearest]
  exact Nat.lt_succ_iff.1 (by exact_mod_cast bound)

/-- Rounding does not go above an integer. -/
theorem nearest_le_of_le {n : Nat} (high : r.value ≤ n) : r.nearest ≤ n := by
  have bound : (r.nearest : ℚ) < n + 1 := by linarith [r.nearest_le]
  exact Nat.lt_succ_iff.1 (by exact_mod_cast bound)

/-- Rounded to a multiple of a power of the base, a number is at most half of that power away. -/
theorem abs_nearest_scale_sub_le {base : Nat} (positive : 0 < base) (places : Int) :
    |((r.scale base places positive).nearest : ℚ) * base ^ (-places) - r.value| ≤
      base ^ (-places) / 2 := by
  have above := (r.scale base places positive).nearest_le
  have below := (r.scale base places positive).le_nearest
  have base_pos : (0 : ℚ) < base := Nat.cast_pos.2 positive
  rw [value_scale] at above below
  have near : |((r.scale base places positive).nearest : ℚ) - r.value * base ^ places| ≤ 1 / 2 :=
    abs_le.2 ⟨by linarith, by linarith⟩
  have unit : (0 : ℚ) < base ^ (-places) := zpow_pos base_pos _
  calc |((r.scale base places positive).nearest : ℚ) * base ^ (-places) - r.value|
      = |(((r.scale base places positive).nearest : ℚ) - r.value * base ^ places) *
          base ^ (-places)| := by
        rw [sub_mul, mul_assoc r.value, ← zpow_add₀ base_pos.ne', add_neg_cancel, zpow_zero,
          mul_one]
    _ = |((r.scale base places positive).nearest : ℚ) - r.value * base ^ places| *
          base ^ (-places) := by rw [abs_mul, abs_of_pos unit]
    _ ≤ 1 / 2 * base ^ (-places) := mul_le_mul_of_nonneg_right near unit.le
    _ = base ^ (-places) / 2 := by ring

/-- What is at most a half is rounded to zero, because zero is even. -/
theorem nearest_eq_zero_iff : r.nearest = 0 ↔ r.value ≤ 1 / 2 := by
  constructor
  · intro zero
    have below := r.le_nearest
    rw [zero, Nat.cast_zero] at below
    linarith
  · intro small
    have den_pos := r.den_pos
    have half : 2 * r.num ≤ r.den := by
      have : (2 * r.num : ℚ) ≤ r.den := by
        rw [← r.value_mul_den]
        nlinarith [r.den_value_pos]
      exact_mod_cast this
    have below : r.num < r.den := by omega
    have floor : r.floor = 0 := Nat.div_eq_of_lt below
    rcases r.nearest_eq_or with ⟨value, -⟩ | ⟨value, above⟩
    · rw [value, floor]
    · rw [Nat.mod_eq_of_lt below] at above
      have tie : r.compareHalf = .eq := by
        rw [compareHalf, Nat.mod_eq_of_lt below]
        exact Nat.compare_eq_eq.2 (Nat.le_antisymm half above)
      simp [nearest, tie, floor]

/-- A positive number with several digits is at least the power of the base with as many
digits. -/
theorem pow_le_of_length {base n zeros : Nat} (large : 1 < base) (positive : 1 ≤ n)
    (count : (Nat.toDigits base n).length = zeros + 1) : base ^ zeros ≤ n := by
  by_contra few
  cases zeros with
  | zero => exact few (by simpa using positive)
  | succ zeros =>
      have short := (Nat.length_toDigits_le_iff large (Nat.succ_pos zeros)).2 (Nat.not_le.1 few)
      omega

/-- A positive number is not below the power of the base of its order. -/
theorem zpow_order_le {base : Nat} (large : 1 < base) (positive : 0 < r.num) :
    (base : ℚ) ^ r.order base ≤ r.value := by
  have base_pos : (0 : ℚ) < base := by exact_mod_cast Nat.zero_lt_of_lt large
  rw [value, le_div_iff₀ r.den_value_pos]
  unfold order
  split
  · rename_i above
    obtain ⟨digits, count⟩ := Nat.exists_eq_add_one.2 (@Nat.length_toDigits_pos base r.floor)
    have whole : 1 ≤ r.floor := (Nat.one_le_div_iff r.den_pos).2 above
    rw [count, Nat.cast_add, Nat.cast_one, add_sub_cancel_right, zpow_natCast]
    have bound : base ^ digits * r.den ≤ r.num :=
      (Nat.mul_le_mul_right _ (pow_le_of_length large whole count)).trans r.floor_mul_le_num
    exact_mod_cast bound
  · have digits := (Nat.length_toDigits_le_iff large Nat.length_toDigits_pos).1
      (Nat.le_refl (Nat.toDigits base ((r.den - 1) / r.num)).length)
    rw [zpow_neg, zpow_natCast, ← div_eq_inv_mul, div_le_iff₀ (pow_pos base_pos _)]
    have bound : r.den ≤ r.num * base ^ (Nat.toDigits base ((r.den - 1) / r.num)).length := by
      have product := (Nat.div_lt_iff_lt_mul positive).1 digits
      rw [Nat.mul_comm]
      omega
    exact_mod_cast bound

/-- The number lies below the power of the base after that of its order. -/
theorem value_lt_zpow_order {base : Nat} (large : 1 < base) (positive : 0 < r.num) :
    r.value < (base : ℚ) ^ (r.order base + 1) := by
  have base_pos : (0 : ℚ) < base := by exact_mod_cast Nat.zero_lt_of_lt large
  rw [value, div_lt_iff₀ r.den_value_pos]
  unfold order
  split
  · -- The whole part has as many digits as the order says, and one more.
    have digits := (Nat.length_toDigits_le_iff large Nat.length_toDigits_pos).1
      (Nat.le_refl (Nat.toDigits base r.floor).length)
    rw [sub_add_cancel, zpow_natCast]
    have bound : r.num < base ^ (Nat.toDigits base r.floor).length * r.den :=
      r.num_lt_floor_succ_mul.trans_le (Nat.mul_le_mul_right _ digits)
    exact_mod_cast bound
  · rename_i below
    -- The zeros are as many as the digits of the reciprocal, rounded up and less one.
    have whole : 1 ≤ (r.den - 1) / r.num := (Nat.one_le_div_iff positive).2 (by omega)
    obtain ⟨zeros, count⟩ := Nat.exists_eq_add_one.2
      (@Nat.length_toDigits_pos base ((r.den - 1) / r.num))
    have digits : base ^ zeros ≤ (r.den - 1) / r.num := pow_le_of_length large whole count
    have bound : r.num * base ^ zeros < r.den := by
      have product := (Nat.mul_le_mul_left r.num digits).trans (Nat.mul_div_le _ _)
      have den_pos := r.den_pos
      omega
    rw [count, Nat.cast_add, Nat.cast_one, neg_add, neg_add_cancel_right, zpow_neg, zpow_natCast,
      ← div_eq_inv_mul, lt_div_iff₀ (pow_pos base_pos zeros)]
    exact_mod_cast bound

/-- A number between two powers of the base that follow each other has the order of the lower
one. -/
theorem order_eq {base : Nat} (large : 1 < base) (positive : 0 < r.num) {order : Int}
    (low : (base : ℚ) ^ order ≤ r.value) (high : r.value < (base : ℚ) ^ (order + 1)) :
    r.order base = order := by
  have base_large : (1 : ℚ) < base := by exact_mod_cast large
  have above := low.trans_lt (r.value_lt_zpow_order large positive)
  have below := (r.zpow_order_le large positive).trans_lt high
  rw [zpow_lt_zpow_iff_right₀ base_large] at above below
  omega

end Keypad.Ratio
