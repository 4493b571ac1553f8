import Keypad.Number.Scientific
import Keypad.Proofs.Number.Ratio

/-!
# Rounding to significant digits

A number in scientific notation has one digit in front of the point and a fixed number of places
behind it. It is the nearest such number to the one it was rounded from, off by at most half a
unit of the last place, and it is not moved by less than that: `round_eq` says how far a number
may be off one in scientific notation to be rounded to it.
-/

namespace Keypad.Scientific

/-- The number that is written. -/
def Rounded.value (places : Nat) (rounded : Rounded) : ℚ :=
  rounded.significand * 10 ^ (rounded.exponent - places)

/-- Scaled to the unit of its last place, a number is its significand. -/
theorem Rounded.value_mul (places : Nat) (rounded : Rounded) :
    rounded.value places * 10 ^ (places - rounded.exponent) = rounded.significand := by
  rw [value, mul_assoc, ← zpow_add₀ (by norm_num), sub_add_sub_cancel, sub_self, zpow_zero,
    mul_one]

/-- How far a number is off, in units of the last place. -/
theorem Rounded.abs_mul_sub (places : Nat) (rounded : Rounded) (number : ℚ) :
    |number * 10 ^ (places - rounded.exponent) - rounded.significand| =
      |number - rounded.value places| * 10 ^ (places - rounded.exponent) := by
  have unit : (0 : ℚ) < 10 ^ (places - rounded.exponent) := zpow_pos (by norm_num) _
  rw [← rounded.value_mul places, ← sub_mul, abs_mul, abs_of_pos unit]

/-- Numbers with one digit in front of the point are in order when their exponents are, and those
with the same exponent when their significands are. -/
def Rounded.Before (rounded bound : Rounded) : Prop :=
  rounded.exponent < bound.exponent ∨
    rounded.exponent = bound.exponent ∧ rounded.significand ≤ bound.significand

/-- What stands before a number and is not that number stands before the one below it. -/
theorem Rounded.Before.of_ne {rounded : Rounded} {significand : Nat} {exponent : Int}
    (before : rounded.Before ⟨significand + 1, exponent⟩)
    (other : rounded ≠ ⟨significand + 1, exponent⟩) : rounded.Before ⟨significand, exponent⟩ := by
  obtain ⟨digits, power⟩ := rounded
  rcases before with less | ⟨same, le⟩
  · exact .inl less
  · refine .inr ⟨same, Nat.lt_succ_iff.1 (lt_of_le_of_ne le fun equal => other ?_)⟩
    exact congr (congrArg Rounded.mk equal) same

/-- One digit other than zero stands in front of the point. -/
structure Rounded.Normal (places : Nat) (rounded : Rounded) : Prop where
  long : 10 ^ places ≤ rounded.significand
  short : rounded.significand < 10 ^ (places + 1)

namespace Rounded.Normal

variable {places : Nat} {rounded bound : Rounded} (normal : rounded.Normal places)

include normal

theorem value_pos : 0 < rounded.value places :=
  mul_pos (Nat.cast_pos.2 ((Nat.pow_pos (by decide)).trans_le normal.long))
    (zpow_pos (by norm_num) _)

/-- The exponent says between which powers of ten the number lies. -/
theorem value_bounds :
    10 ^ rounded.exponent ≤ rounded.value places ∧
      rounded.value places < 10 ^ (rounded.exponent + 1) := by
  have unit : (0 : ℚ) < 10 ^ (rounded.exponent - places) := zpow_pos (by norm_num) _
  have long : (10 : ℚ) ^ places ≤ rounded.significand := by exact_mod_cast normal.long
  have short : (rounded.significand : ℚ) < 10 ^ (places + 1) := by exact_mod_cast normal.short
  constructor
  · calc (10 : ℚ) ^ rounded.exponent = 10 ^ places * 10 ^ (rounded.exponent - places) := by
          rw [← zpow_natCast, ← zpow_add₀ (by norm_num), add_sub_cancel]
      _ ≤ rounded.value places := mul_le_mul_of_nonneg_right long unit.le
  · calc rounded.value places < 10 ^ (places + 1) * 10 ^ (rounded.exponent - places) :=
          mul_lt_mul_of_pos_right short unit
      _ = 10 ^ (rounded.exponent + 1) := by
          rw [← zpow_natCast, ← zpow_add₀ (by norm_num)]
          congr 1
          push_cast
          ring

theorem zpow_le_value {power : Int} (le : power ≤ rounded.exponent) :
    10 ^ power ≤ rounded.value places :=
  (zpow_le_zpow_right₀ (by norm_num) le).trans normal.value_bounds.1

theorem value_lt_zpow {power : Int} (lt : rounded.exponent < power) :
    rounded.value places < 10 ^ power :=
  normal.value_bounds.2.trans_le (zpow_le_zpow_right₀ (by norm_num) lt)

/-- A number that stands before another one is no greater. -/
theorem value_le (boundNormal : bound.Normal places) (before : rounded.Before bound) :
    rounded.value places ≤ bound.value places := by
  rcases before with less | ⟨same, le⟩
  · exact (normal.value_lt_zpow less).le.trans boundNormal.value_bounds.1
  · rw [value, value, same]
    exact mul_le_mul_of_nonneg_right (by exact_mod_cast le) (zpow_nonneg (by norm_num) _)

end Rounded.Normal

section Round

variable (places : Nat) {r : Ratio} (positive : 0 < r.num)

include positive

/-- Scaled to `places` places behind its leading digit, a number has that many digits and one
more in front of the point. -/
theorem scale_order_bounds :
    10 ^ places ≤ (r.scale 10 (places - r.order 10)).value ∧
      (r.scale 10 (places - r.order 10)).value < 10 ^ (places + 1) := by
  have low := r.zpow_order_le (by decide : 1 < 10) positive
  have high := r.value_lt_zpow_order (by decide : 1 < 10) positive
  have unit : (0 : ℚ) < 10 ^ (places - r.order 10) := zpow_pos (by norm_num) _
  rw [Ratio.value_scale]
  constructor
  · calc (10 : ℚ) ^ places = 10 ^ r.order 10 * 10 ^ (places - r.order 10) := by
          rw [← zpow_add₀ (by norm_num), add_sub_cancel, zpow_natCast]
      _ ≤ r.value * 10 ^ (places - r.order 10) := mul_le_mul_of_nonneg_right low unit.le
  · calc r.value * 10 ^ (places - r.order 10)
        < 10 ^ (r.order 10 + 1) * 10 ^ (places - r.order 10) :=
          mul_lt_mul_of_pos_right high unit
      _ = 10 ^ (places + 1) := by
          rw [← zpow_add₀ (by norm_num), ← zpow_natCast]
          congr 1
          push_cast
          ring

/-- The two ways a number is rounded: the significand keeps its length, or it becomes the next
power of ten, which is written with the next exponent. -/
theorem round_cases :
    ((r.scale 10 (places - r.order 10)).nearest < 10 ^ (places + 1) ∧
        round places r = ⟨(r.scale 10 (places - r.order 10)).nearest, r.order 10⟩) ∨
      ((r.scale 10 (places - r.order 10)).nearest = 10 ^ (places + 1) ∧
        round places r = ⟨10 ^ places, r.order 10 + 1⟩) := by
  have high := (scale_order_bounds places positive).2
  have bounded : (r.scale 10 (places - r.order 10)).nearest ≤ 10 ^ (places + 1) :=
    Ratio.nearest_le_of_le _ (by exact_mod_cast high.le)
  rcases bounded.lt_or_eq with short | full
  · exact .inl ⟨short, if_pos short⟩
  · exact .inr ⟨full, if_neg full.not_lt⟩

theorem normal_round : (round places r).Normal places := by
  have long : 10 ^ places ≤ (r.scale 10 (places - r.order 10)).nearest :=
    Ratio.le_nearest_of_le _ (by exact_mod_cast (scale_order_bounds places positive).1)
  rcases round_cases places positive with ⟨short, equal⟩ | ⟨-, equal⟩
  · rw [equal]
    exact ⟨long, short⟩
  · rw [equal]
    exact ⟨Nat.le_refl _, Nat.pow_lt_pow_succ (by decide)⟩

theorem exponent_round :
    (round places r).exponent = r.order 10 ∨ (round places r).exponent = r.order 10 + 1 := by
  rcases round_cases places positive with ⟨-, equal⟩ | ⟨-, equal⟩
  · exact .inl (congrArg Rounded.exponent equal)
  · exact .inr (congrArg Rounded.exponent equal)

/-- A significand that moves to the next power of ten stays the same number. -/
theorem value_round :
    (round places r).value places =
      (r.scale 10 (places - r.order 10)).nearest * 10 ^ (r.order 10 - places) := by
  rcases round_cases places positive with ⟨-, equal⟩ | ⟨full, equal⟩
  · rw [equal, Rounded.value]
  · have next : r.order 10 + 1 - (places : Int) = r.order 10 - places + 1 := by ring
    rw [equal, Rounded.value, full, next, zpow_add_one₀ (by norm_num)]
    push_cast
    ring

/-- The number in scientific notation is off by at most half a unit of the last place. -/
theorem abs_value_round_sub_le :
    |(round places r).value places - r.value| ≤ 10 ^ (r.order 10 - places) / 2 := by
  have close := r.abs_nearest_scale_sub_le Ratio.ten_pos (places - r.order 10)
  rwa [neg_sub, Nat.cast_ofNat, ← value_round places positive] at close

/-- Half a unit of the last place is at most as much of the number as one in twice the power of
ten. -/
theorem abs_round_sub_le :
    |(round places r).value places - r.value| ≤ r.value / (2 * 10 ^ places) :=
  calc |(round places r).value places - r.value|
      ≤ 10 ^ (r.order 10 - places) / 2 := abs_value_round_sub_le places positive
    _ = 10 ^ r.order 10 / (2 * 10 ^ places) := by
      rw [zpow_sub₀ (by norm_num), zpow_natCast]
      field_simp
    _ ≤ r.value / (2 * 10 ^ places) :=
      div_le_div_of_nonneg_right (r.zpow_order_le (by decide) positive) (by positivity)

/-- Rounding does not go above a number in scientific notation. -/
theorem round_before {bound : Rounded} (normal : bound.Normal places)
    (below : r.value ≤ bound.value places) : (round places r).Before bound := by
  have order : r.order 10 ≤ bound.exponent := by
    have powers : (10 : ℚ) ^ r.order 10 < 10 ^ (bound.exponent + 1) :=
      calc (10 : ℚ) ^ r.order 10 ≤ r.value := r.zpow_order_le (by decide) positive
        _ ≤ bound.value places := below
        _ < 10 ^ (bound.exponent + 1) := normal.value_bounds.2
    rw [zpow_lt_zpow_iff_right₀ (by norm_num)] at powers
    omega
  rcases order.lt_or_eq with less | same
  · rcases round_cases places positive with ⟨-, equal⟩ | ⟨-, equal⟩
    · exact .inl (by rw [equal]; exact less)
    · rw [equal]
      rcases (show r.order 10 + 1 ≤ bound.exponent by omega).lt_or_eq with before | next
      · exact .inl before
      · exact .inr ⟨next, normal.long⟩
  · have scaled : (r.scale 10 (places - r.order 10)).value ≤ bound.significand := by
      rw [Ratio.value_scale, same, ← bound.value_mul places, Nat.cast_ofNat]
      exact mul_le_mul_of_nonneg_right below (zpow_nonneg (by norm_num) _)
    have kept : (r.scale 10 (places - r.order 10)).nearest ≤ bound.significand :=
      Ratio.nearest_le_of_le _ scaled
    have short := normal.short
    rcases round_cases places positive with ⟨-, equal⟩ | ⟨full, -⟩
    · rw [equal]
      exact .inr ⟨same, kept⟩
    · omega

/-- The order is the exponent with which a number has one digit in front of the point. -/
theorem order_eq_of_scale_bounds {order : Int}
    (low : 10 ^ places ≤ (r.scale 10 (places - order)).value)
    (high : (r.scale 10 (places - order)).value < 10 ^ (places + 1)) : r.order 10 = order := by
  have unit : (0 : ℚ) < 10 ^ (places - order) := zpow_pos (by norm_num) _
  rw [Ratio.value_scale, Nat.cast_ofNat] at low high
  refine r.order_eq (by decide) positive ?_ ?_
  · rw [← mul_le_mul_iff_left₀ unit]
    calc ((10 : Nat) : ℚ) ^ order * 10 ^ (places - order) = 10 ^ places := by
          rw [Nat.cast_ofNat, ← zpow_add₀ (by norm_num), add_sub_cancel, zpow_natCast]
      _ ≤ r.value * 10 ^ (places - order) := low
  · rw [← mul_lt_mul_iff_left₀ unit]
    calc r.value * 10 ^ (places - order) < 10 ^ (places + 1) := high
      _ = ((10 : Nat) : ℚ) ^ (order + 1) * 10 ^ (places - order) := by
          rw [Nat.cast_ofNat, ← zpow_natCast, ← zpow_add₀ (by norm_num)]
          congr 1
          push_cast
          ring

/-- What is less than half a unit of the last place off a number in scientific notation is
rounded to it. Below a power of ten the units are a tenth as large. -/
theorem round_eq {rounded : Rounded} (normal : rounded.Normal places)
    (close : |r.value * 10 ^ (places - rounded.exponent) - rounded.significand| < 1 / 2)
    (large : 10 ^ places - 1 / 20 < r.value * 10 ^ (places - rounded.exponent)) :
    round places r = rounded := by
  obtain ⟨significand, exponent⟩ := rounded
  obtain ⟨long, short⟩ := normal
  simp only at close large long short
  have scaled : (r.scale 10 (places - exponent)).value = r.value * 10 ^ (places - exponent) := by
    rw [Ratio.value_scale, Nat.cast_ofNat]
  rw [← scaled] at close large
  obtain ⟨below, above⟩ := abs_lt.1 close
  rcases le_or_gt (10 ^ places) (r.scale 10 (places - exponent)).value with low | less
  · have digits : (significand : ℚ) + 1 ≤ 10 ^ (places + 1) := by exact_mod_cast short
    have order : r.order 10 = exponent :=
      order_eq_of_scale_bounds places positive low (by linarith)
    have nearest := Ratio.nearest_eq_of_abs_sub_lt _ close
    rw [← order] at nearest
    rcases round_cases places positive with ⟨-, equal⟩ | ⟨full, -⟩
    · rw [equal, nearest, order]
    · omega
  · -- The significand is a power of ten here, and one place more is kept of the number.
    have least : significand = 10 ^ places := by
      have bound : (significand : ℚ) < 10 ^ places + 1 := by linarith
      have bound : significand < 10 ^ places + 1 := by exact_mod_cast bound
      omega
    have finer : (r.scale 10 (places - (exponent - 1))).value =
        10 * (r.scale 10 (places - exponent)).value := by
      rw [scaled, Ratio.value_scale, Nat.cast_ofNat, sub_sub_eq_add_sub, add_sub_right_comm,
        zpow_add_one₀ (by norm_num)]
      ring
    have one : (1 : ℚ) ≤ 10 ^ places := one_le_pow₀ (by norm_num)
    have order : r.order 10 = exponent - 1 := by
      apply order_eq_of_scale_bounds places positive
      · rw [finer]; linarith
      · rw [finer, pow_succ]; linarith
    have nearest : (r.scale 10 (places - r.order 10)).nearest = 10 ^ (places + 1) := by
      apply Ratio.nearest_eq_of_abs_sub_lt
      rw [order, finer, abs_lt]
      push_cast
      rw [pow_succ]
      constructor <;> linarith
    rcases round_cases places positive with ⟨short', -⟩ | ⟨-, equal⟩
    · omega
    · rw [equal, order, sub_add_cancel, least]

end Round

end Keypad.Scientific
