import Keypad.Proofs.Number.Nearest

/-!
# How far off the nearest double is

A positive number is rounded in units of a power of two: of the power that leaves 53 digits, or of
the least power in use. The nearest double is that many units, whether or not the significand
moves on to the next power of two, so it is off by at most half a unit
(`exists_viewMagnitude_close`). Under the least power the units are the significand itself
(`viewMagnitude_least`).

First come the places where powers of ten and of two have to be compared. Each is a comparison of
two whole numbers, which is computed.
-/

namespace Keypad.Binary

section Powers

/-- The greatest number of four digits below the point of overflow. -/
theorem ten_zpow_lt_overflow : 1797 * (10 : ℚ) ^ (305 : Int) < overflow := by
  have bound : 1797 * 10 ^ 305 < 18014398509481983 * 2 ^ 970 := by decide +kernel
  have double : (2 : ℚ) ^ (971 : Int) = 2 ^ (970 : Int) * 2 := zpow_add_one₀ (by norm_num) 970
  have equal : overflow = 18014398509481983 * 2 ^ (970 : Int) := by
    rw [overflow, double]
    ring
  rw [equal]
  exact_mod_cast bound

/-- No double is greater than the next number of four digits. -/
theorem two_zpow_le_scientific : (2 : ℚ) ^ (1024 : Int) ≤ 1798 * 10 ^ (305 : Int) := by
  have bound : 2 ^ 1024 ≤ 1798 * 10 ^ 305 := by decide +kernel
  exact_mod_cast bound

theorem half_least_eq : (2 : ℚ) ^ (-1075 : Int) = 2 ^ leastExponent / 2 := by
  have double : (2 : ℚ) ^ leastExponent = 2 ^ (-1075 : Int) * 2 :=
    zpow_add_one₀ (by norm_num) (-1075)
  rw [double, mul_div_cancel_right₀ _ (by norm_num)]

/-- Half a unit of the last place of the smallest results is less than half of the least unit. -/
theorem ten_zpow_half_lt : (10 : ℚ) ^ (-324 : Int) / 2 < 2 ^ (-1075 : Int) := by
  have bound : 2 ^ 1074 < 10 ^ 324 := by decide +kernel
  rw [half_least_eq, leastExponent, zpow_neg, zpow_neg]
  refine div_lt_div_of_pos_right ?_ (by norm_num)
  rw [inv_lt_inv₀ (zpow_pos (by norm_num) _) (zpow_pos (by norm_num) _)]
  exact_mod_cast bound

/-- The smallest results are those of numbers without all their digits. -/
theorem ten_zpow_lt_normal : (10 : ℚ) ^ (-320 : Int) < 2 ^ (-1022 : Int) := by
  have bound : 2 ^ 1022 < 10 ^ 320 := by decide +kernel
  rw [zpow_neg, zpow_neg, inv_lt_inv₀ (zpow_pos (by norm_num) _) (zpow_pos (by norm_num) _)]
  exact_mod_cast bound

/-- Half of the least unit is little even in the units of very small results. -/
theorem half_least_mul_lt : (2 : ℚ) ^ (-1075 : Int) * 10 ^ (322 : Int) < 1 / 20 := by
  have bound : 10 ^ 322 * 20 < 2 ^ 1075 := by decide +kernel
  rw [zpow_neg, ← div_eq_inv_mul, div_lt_div_iff₀ (zpow_pos (by norm_num) _) (by norm_num), one_mul]
  exact_mod_cast bound

end Powers

/-- How far off a number the nearest double may be: as much of the number as 53 digits leave, or
half of the least unit. -/
def slack (number : ℚ) : ℚ :=
  max (number / 2 ^ 53) (2 ^ (-1075 : Int))

/-- Numbers that are not very small have all their digits. -/
theorem slack_of_normal {number : ℚ} (normal : 2 ^ (-1022 : Int) ≤ number) :
    slack number = number / 2 ^ 53 := by
  have split : (2 : ℚ) ^ (-1022 : Int) = 2 ^ (-1075 : Int) * 2 ^ 53 :=
    zpow_add₀ (by norm_num) (-1075) 53
  apply max_eq_left
  rw [le_div_iff₀ (by norm_num), ← split]
  exact normal

/-- The power of two in units of which a number is rounded. -/
def unitExponent (r : Ratio) : Int :=
  max (r.order 2 - 52) leastExponent

/-- The number of units that is nearest to a number. -/
def units (r : Ratio) : Nat :=
  (r.scale 2 (-unitExponent r)).nearest

section Units

variable {r : Ratio} (positive : 0 < r.num)

/-- The units are off by half of one. -/
theorem abs_units_sub_le :
    |(units r : ℚ) * 2 ^ unitExponent r - r.value| ≤ 2 ^ unitExponent r / 2 := by
  have close := r.abs_nearest_scale_sub_le Nat.two_pos (-unitExponent r)
  rwa [neg_neg, Nat.cast_ofNat] at close

include positive

theorem units_le : units r ≤ 2 ^ 53 := by
  apply Ratio.nearest_le_of_le
  exact_mod_cast (value_scale_lt positive (le_max_left _ _)).le

/-- The units have all their digits, unless they are the least ones. -/
theorem le_units_of_lt (above : leastExponent < unitExponent r) : 2 ^ 52 ≤ units r := by
  have exponent : unitExponent r = r.order 2 - 52 :=
    max_eq_left (not_lt.1 fun less => above.ne (max_eq_right less.le).symm)
  apply Ratio.le_nearest_of_le
  rw [Ratio.value_scale, exponent]
  push_cast
  calc (2 : ℚ) ^ 52 = 2 ^ r.order 2 * 2 ^ (-(r.order 2 - 52)) := by
        rw [← zpow_add₀ (by norm_num), neg_sub, add_sub_cancel]
        norm_num
    _ ≤ r.value * 2 ^ (-(r.order 2 - 52)) :=
        mul_le_mul_of_nonneg_right (r.zpow_order_le (by decide) positive)
          (zpow_nonneg (by norm_num) _)

/-- Half a unit is as much of the number as its digits say, or half of the least unit. -/
theorem half_unit_le : (2 : ℚ) ^ unitExponent r / 2 ≤ slack r.value := by
  rcases max_choice (r.order 2 - 52) leastExponent with digits | least
  · apply le_max_of_le_left
    calc (2 : ℚ) ^ unitExponent r / 2 = 2 ^ r.order 2 / 2 ^ 53 := by
          rw [unitExponent, digits, zpow_sub₀ (by norm_num)]
          norm_num
          ring
      _ ≤ r.value / 2 ^ 53 :=
          div_le_div_of_nonneg_right (r.zpow_order_le (by decide) positive) (by norm_num)
  · apply le_max_of_le_right
    rw [unitExponent, least, half_least_eq]

variable (small : r.value < overflow)

include small

theorem nearestMagnitude_eq :
    nearestMagnitude r = (unitExponent r - leastExponent).toNat * 2 ^ 52 + units r :=
  min_eq_left (min_lt_iff.1 (nearestMagnitude_lt positive small) |>.resolve_right (lt_irrefl _)).le

end Units

/-- A magnitude with its hidden bit. -/
theorem viewMagnitude_add (negative : Bool) {field fraction : Nat} (positive : 0 < field)
    (finite : field < 2047) (short : fraction < 2 ^ 52) :
    viewMagnitude negative (field * 2 ^ 52 + fraction) =
      .finite negative (2 ^ 52 + fraction) (leastExponent + (field - 1)) := by
  have whole : (field * 2 ^ 52 + fraction) / 2 ^ 52 = field := by omega
  have rest : (field * 2 ^ 52 + fraction) % 2 ^ 52 = fraction := by omega
  rw [viewMagnitude, hiddenBit_eq]
  simp only [whole, rest]
  rw [if_neg positive.ne', if_pos finite]

/-- A magnitude without hidden bit. -/
theorem viewMagnitude_of_lt (negative : Bool) {fraction : Nat} (short : fraction < 2 ^ 52) :
    viewMagnitude negative fraction = .finite negative fraction leastExponent := by
  rw [viewMagnitude, hiddenBit_eq]
  simp only [Nat.div_eq_of_lt short, Nat.mod_eq_of_lt short, if_true]

section Nearest

variable {r : Ratio} (positive : 0 < r.num) (small : r.value < overflow) (negative : Bool)

include positive small

/-- The nearest double is the number of units that is nearest. -/
theorem exists_viewMagnitude_units :
    ∃ significand power, viewMagnitude negative (nearestMagnitude r) =
        .finite negative significand power ∧
      (magnitude significand power).value = units r * 2 ^ unitExponent r := by
  have least : leastExponent ≤ unitExponent r := le_max_right _ _
  have finite := nearestMagnitude_lt positive small
  have bounded := units_le positive
  obtain ⟨steps, above⟩ := Int.eq_ofNat_of_zero_le (sub_nonneg.2 least)
  have exponent : unitExponent r = leastExponent + steps := by omega
  rw [nearestMagnitude_eq positive small, above, Int.toNat_natCast, infinityBits, hiddenBit_eq]
    at finite
  rw [nearestMagnitude_eq positive small, above, Int.toNat_natCast]
  rcases Nat.lt_or_ge (units r) (2 ^ 52) with short | long
  · -- Without all their digits they are the least units.
    have none : steps = 0 := by
      by_contra some
      exact absurd (le_units_of_lt positive (by omega)) (by omega)
    subst none
    rw [Nat.zero_mul, Nat.zero_add, viewMagnitude_of_lt negative short]
    exact ⟨_, _, rfl, by rw [value_magnitude, exponent, Nat.cast_zero, add_zero]⟩
  · rcases bounded.lt_or_eq with less | full
    · have split : steps * 2 ^ 52 + units r = (steps + 1) * 2 ^ 52 + (units r - 2 ^ 52) := by omega
      rw [split, viewMagnitude_add negative (by omega) (by omega) (by omega)]
      refine ⟨_, _, rfl, ?_⟩
      rw [value_magnitude, exponent, Nat.add_sub_cancel' long]
      congr 2
      push_cast
      ring
    · have split : steps * 2 ^ 52 + units r = (steps + 2) * 2 ^ 52 + 0 := by omega
      rw [split, viewMagnitude_add negative (by omega) (by omega) (by decide)]
      refine ⟨_, _, rfl, ?_⟩
      have next : leastExponent + (((steps + 2 : Nat) : Int) - 1) = leastExponent + steps + 1 := by
        push_cast
        ring
      rw [value_magnitude, exponent, full, next, zpow_add_one₀ (by norm_num)]
      push_cast
      ring

/-- The nearest double is off by at most half a unit. -/
theorem exists_viewMagnitude_close :
    ∃ significand power, viewMagnitude negative (nearestMagnitude r) =
        .finite negative significand power ∧
      |(magnitude significand power).value - r.value| ≤ slack r.value := by
  obtain ⟨significand, power, view, value⟩ := exists_viewMagnitude_units positive small negative
  refine ⟨significand, power, view, ?_⟩
  rw [value]
  exact abs_units_sub_le.trans (half_unit_le positive)

/-- Near a small number of the least units, the nearest double is that number of units. -/
theorem viewMagnitude_least {significand : Nat} (short : significand < 2 ^ 52)
    (close : |r.value - (magnitude significand leastExponent).value| < 2 ^ (-1075 : Int)) :
    viewMagnitude negative (nearestMagnitude r) = .finite negative significand leastExponent := by
  have unit : (0 : ℚ) < 2 ^ leastExponent := zpow_pos (by norm_num) _
  rw [value_magnitude, half_least_eq] at close
  have least : unitExponent r = leastExponent := by
    have digits : (significand : ℚ) + 1 ≤ 2 ^ 52 := by exact_mod_cast short
    have powers : (2 : ℚ) ^ r.order 2 < 2 ^ (52 + leastExponent) :=
      calc (2 : ℚ) ^ r.order 2 ≤ r.value := r.zpow_order_le (by decide) positive
        _ < (significand + 1) * 2 ^ leastExponent := by linarith [(abs_lt.1 close).2]
        _ ≤ 2 ^ 52 * 2 ^ leastExponent := mul_le_mul_of_nonneg_right digits unit.le
        _ = 2 ^ (52 + leastExponent) := (zpow_add₀ (by norm_num) 52 leastExponent).symm
    rw [zpow_lt_zpow_iff_right₀ (by norm_num)] at powers
    exact max_eq_right (by omega)
  have count : units r = significand := by
    apply Ratio.nearest_eq_of_abs_sub_lt
    have scaled : r.value / 2 ^ leastExponent - significand =
        (r.value - significand * 2 ^ leastExponent) / 2 ^ leastExponent := by
      field_simp
    rw [Ratio.value_scale, least, zpow_neg, ← div_eq_mul_inv, Nat.cast_ofNat, scaled, abs_div,
      abs_of_pos unit, div_lt_iff₀ unit]
    linarith
  rw [nearestMagnitude_eq positive small, least, sub_self, count, Int.toNat_zero, Nat.zero_mul,
    Nat.zero_add, viewMagnitude_of_lt negative short]

end Nearest

end Keypad.Binary
