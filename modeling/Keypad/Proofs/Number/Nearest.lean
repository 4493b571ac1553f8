import Keypad.Proofs.Number.Double
import Keypad.Proofs.Number.Ratio

/-!
# The doubles nearest to decimal numbers

A decimal number is read as a finite double other than zero if it is at least the smallest
positive double, and below the point where rounding reaches infinity. Finite doubles lie
below that point themselves, by a margin that rounding to decimal places does not use up.
-/

namespace Keypad.Binary

open Float.Model
open UnpackedFloat hiding unpack pack

/-- The point from which on numbers are rounded to infinity: half a step above the greatest
finite double. -/
def overflow : ℚ := (2 ^ 53 - 1 / 2) * 2 ^ (971 : Int)

theorem overflow_lt : overflow < 2 ^ (1024 : Int) :=
  calc overflow < 2 ^ 53 * 2 ^ (971 : Int) :=
        mul_lt_mul_of_pos_right (by norm_num) (zpow_pos (by norm_num) _)
    _ = 2 ^ (1024 : Int) := (zpow_add₀ (by norm_num) 53 971).symm

@[simp] theorem value_magnitude (significand : Nat) (exponent : Int) :
    (magnitude significand exponent).value = significand * 2 ^ exponent := by
  simp [magnitude]

/-- A magnitude that is no NaN keeps its meaning as a double. -/
theorem view_ofMagnitude (negative : Bool) {magnitude : Nat} (small : magnitude ≤ infinityBits) :
    view (ofMagnitude negative magnitude) = viewMagnitude negative magnitude := by
  rw [infinityBits, hiddenBit_eq] at small
  let bits := (UInt64.ofNat (if negative then Nat.pow 2 63 + magnitude else magnitude)).toBitVec
  have low : bits.toNat % 2 ^ 63 = magnitude := by
    cases negative <;> simp [bits] <;> omega
  have high : decide (2 ^ 63 ≤ bits.toNat) = negative := by
    cases negative <;> simp [bits] <;> omega
  have valid : Format.binary64.Valid bits := by
    refine ⟨fun full broken => ?_⟩
    have field := (unpackExponent_eq_neg_one_iff bits).1 full
    have fraction := mt (unpackMantissa_eq_zero_iff bits).2 broken
    rw [toNat_unpackExponent] at field
    rw [toNat_unpackMantissa] at fraction
    omega
  have unpacked : (ofMagnitude negative magnitude).toModel.unpack =
      UnpackedFloat.unpack .binary64 bits :=
    congrArg (UnpackedFloat.unpack .binary64) (pack_unpack valid)
  rw [view_eq_ofUnpacked, unpacked, ofUnpacked_unpack, low, high]

/-- The bounds of the parts of a finite double. -/
theorem bounds_of_view {x : Float} {negative : Bool} {significand : Nat} {exponent : Int}
    (finite : view x = .finite negative significand exponent) :
    significand < 2 ^ 53 ∧ leastExponent ≤ exponent ∧ exponent ≤ 971 := by
  have fraction := Nat.mod_lt (x.toBits.toNat % Nat.pow 2 63) (y := hiddenBit) (by decide)
  simp only [view, viewMagnitude] at finite
  rw [hiddenBit_eq] at finite fraction
  split at finite
  · cases finite
    exact ⟨by omega, by decide, by decide⟩
  · split at finite
    · cases finite
      rw [leastExponent]
      omega
    · split at finite <;> cases finite

/-- Finite doubles stay at least a half below the point of overflow. -/
theorem add_half_le_overflow {x : Float} {negative : Bool} {significand : Nat} {exponent : Int}
    (finite : view x = .finite negative significand exponent) :
    (significand : ℚ) * 2 ^ exponent + 1 / 2 ≤ overflow := by
  obtain ⟨short, -, low⟩ := bounds_of_view finite
  have digits : (significand : ℚ) ≤ 2 ^ 53 - 1 := by
    rw [le_sub_iff_add_le]
    exact_mod_cast short
  have power : (2 : ℚ) ^ exponent ≤ 2 ^ (971 : Int) := zpow_le_zpow_right₀ (by norm_num) low
  have step : (1 : ℚ) ≤ 2 ^ (971 : Int) := one_le_zpow₀ (by norm_num) (by norm_num)
  have product := mul_le_mul digits power (zpow_nonneg (by norm_num) _) (by norm_num)
  rw [overflow]
  generalize (2 : ℚ) ^ (971 : Int) = unit at step product ⊢
  linarith

/-- A finite double other than zero is at least the smallest positive double. -/
theorem two_zpow_le_of_view {x : Float} {negative : Bool} {significand : Nat} {exponent : Int}
    (finite : view x = .finite negative significand exponent) (positive : 0 < significand) :
    2 ^ leastExponent ≤ (magnitude significand exponent).value := by
  obtain ⟨-, least, -⟩ := bounds_of_view finite
  have whole : (1 : ℚ) ≤ significand := by exact_mod_cast positive
  calc (2 : ℚ) ^ leastExponent ≤ 1 * 2 ^ exponent := by
        rw [one_mul]
        exact zpow_le_zpow_right₀ (by norm_num) least
    _ ≤ significand * 2 ^ exponent :=
        mul_le_mul_of_nonneg_right whole (zpow_nonneg (by norm_num) _)
    _ = (magnitude significand exponent).value := (value_magnitude significand exponent).symm

/-- A finite double lies below the point of overflow. -/
theorem lt_overflow_of_view {x : Float} {negative : Bool} {significand : Nat} {exponent : Int}
    (finite : view x = .finite negative significand exponent) :
    (magnitude significand exponent).value < overflow := by
  have half := add_half_le_overflow finite
  rw [value_magnitude]
  linarith

/-- The magnitudes between zero and infinity are those of finite doubles other than zero. -/
theorem exists_viewMagnitude_eq (negative : Bool) {magnitude : Nat} (positive : 0 < magnitude)
    (small : magnitude < infinityBits) :
    ∃ significand exponent, viewMagnitude negative magnitude =
      .finite negative significand exponent ∧ 0 < significand := by
  rw [infinityBits, hiddenBit_eq] at small
  rw [viewMagnitude, hiddenBit_eq]
  by_cases subnormal : magnitude / 2 ^ 52 = 0
  · exact ⟨_, _, if_pos subnormal, by omega⟩
  · have normal : magnitude / 2 ^ 52 < 2047 := by omega
    exact ⟨_, _, (if_neg subnormal).trans (if_pos normal), by omega⟩

section Nearest

variable {r : Ratio}

/-- What is at least the smallest positive double is not rounded to zero. -/
theorem nearestMagnitude_pos (large : 2 ^ leastExponent ≤ r.value) : 0 < nearestMagnitude r := by
  let exponent := max (r.order 2 - 52) leastExponent
  have positive : 0 < (exponent - leastExponent).toNat * hiddenBit +
      (r.scale 2 (-exponent)).nearest := by
    rcases (show leastExponent ≤ exponent from le_max_right _ _).lt_or_eq with above | least
    · exact Nat.add_pos_left (Nat.mul_pos (by omega) (by decide)) _
    · apply Nat.add_pos_right
      have whole : 1 ≤ (r.scale 2 (-exponent)).value := by
        rw [Ratio.value_scale, ← least, zpow_neg, ← div_eq_mul_inv,
          one_le_div (zpow_pos (by norm_num) _)]
        exact_mod_cast large
      have near := (r.scale 2 (-exponent)).le_nearest
      have half : (0 : ℚ) < (r.scale 2 (-exponent)).nearest := by linarith
      exact_mod_cast half
  exact lt_min positive (by decide)

variable (positive : 0 < r.num)

include positive

/-- The significand of the nearest double is less than half a step too long. -/
theorem value_scale_lt {exponent : Int} (long : r.order 2 - 52 ≤ exponent) :
    (r.scale 2 (-exponent)).value < 2 ^ 53 := by
  have two_pos : (0 : ℚ) < 2 ^ exponent := zpow_pos (by norm_num) _
  rw [Ratio.value_scale, zpow_neg, ← div_eq_mul_inv]
  change r.value / 2 ^ exponent < 2 ^ 53
  rw [div_lt_iff₀ two_pos]
  calc r.value < 2 ^ (r.order 2 + 1) := r.value_lt_zpow_order (by decide) positive
    _ ≤ 2 ^ (53 + exponent) := zpow_le_zpow_right₀ (by norm_num) (by omega)
    _ = 2 ^ 53 * 2 ^ exponent := zpow_add₀ (by norm_num) _ _

/-- Below the point of overflow there is an exponent of a finite double for the order. -/
theorem order_le_of_lt_overflow (small : r.value < overflow) : r.order 2 ≤ 1023 := by
  have bound : (2 : ℚ) ^ r.order 2 < 2 ^ (1024 : Int) :=
    calc (2 : ℚ) ^ r.order 2 ≤ r.value := r.zpow_order_le (by decide) positive
      _ < overflow := small
      _ < 2 ^ (1024 : Int) := overflow_lt
  have order := (zpow_lt_zpow_iff_right₀ (by norm_num)).1 bound
  omega

/-- What lies below the point of overflow is not rounded to infinity. -/
theorem nearestMagnitude_lt (small : r.value < overflow) :
    nearestMagnitude r < infinityBits := by
  let exponent := max (r.order 2 - 52) leastExponent
  have order := order_le_of_lt_overflow positive small
  have scaled := value_scale_lt positive (le_max_left (r.order 2 - 52) leastExponent)
  have near := (r.scale 2 (-exponent)).nearest_le
  have least : leastExponent = -1074 := rfl
  apply min_lt_of_left_lt
  rw [infinityBits, hiddenBit_eq]
  change (exponent - leastExponent).toNat * 2 ^ 52 + (r.scale 2 (-exponent)).nearest < _
  change (r.scale 2 (-exponent)).value < _ at scaled
  rcases (by omega : exponent ≤ 970 ∨ exponent = 971) with below | greatest
  · have short : ((r.scale 2 (-exponent)).nearest : ℚ) < 2 ^ 53 + 1 := by linarith
    have short : (r.scale 2 (-exponent)).nearest < 2 ^ 53 + 1 := by exact_mod_cast short
    omega
  · -- Under the greatest exponent a significand that rounds up would be infinite.
    have tight : (r.scale 2 (-exponent)).value < 2 ^ 53 - 1 / 2 := by
      rw [Ratio.value_scale, greatest, zpow_neg, ← div_eq_mul_inv,
        div_lt_iff₀ (zpow_pos (by norm_num) _), Nat.cast_ofNat]
      exact small
    have short : ((r.scale 2 (-exponent)).nearest : ℚ) < 2 ^ 53 := by linarith
    have short : (r.scale 2 (-exponent)).nearest < 2 ^ 53 := by exact_mod_cast short
    omega

end Nearest

section Decimal

variable {digits : Nat} {exponent : Int}

/-- A decimal number lies between the powers of ten that its digits and its exponent say. -/
theorem between_powers (positive : 0 < digits) :
    (10 : ℚ) ^ ((Nat.toDigits 10 digits).length + exponent - 1) ≤ digits * 10 ^ exponent ∧
      (digits : ℚ) * 10 ^ exponent < 10 ^ ((Nat.toDigits 10 digits).length + exponent) := by
  have order : (Ratio.ofNat digits).order 10 = (Nat.toDigits 10 digits).length - 1 := by
    simp [Ratio.order, Ratio.ofNat, Ratio.floor, Nat.one_le_iff_ne_zero.2 positive.ne']
  have low := (Ratio.ofNat digits).zpow_order_le (by decide : 1 < 10) positive
  have high := (Ratio.ofNat digits).value_lt_zpow_order (by decide : 1 < 10) positive
  rw [order, Ratio.value_ofNat, Nat.cast_ofNat] at low
  rw [order, Ratio.value_ofNat, Nat.cast_ofNat, sub_add_cancel] at high
  have ten_pos : (0 : ℚ) < 10 ^ exponent := zpow_pos (by norm_num) _
  constructor
  · rw [add_sub_right_comm, zpow_add₀ (by norm_num)]
    exact mul_le_mul_of_nonneg_right low ten_pos.le
  · rw [zpow_add₀ (by norm_num)]
    exact mul_lt_mul_of_pos_right high ten_pos

/-- The greatest power of two in use is less than the power of ten that counts as infinite. -/
theorem two_zpow_le_ten_zpow : (2 : ℚ) ^ (1024 : Int) ≤ 10 ^ (309 : Int) := by
  have bound : 2 ^ 1024 ≤ 10 ^ 309 := by decide +kernel
  exact_mod_cast bound

/-- The power of ten that counts as zero is less than the smallest positive double. -/
theorem ten_zpow_le_two_zpow : (10 : ℚ) ^ (-325 : Int) ≤ 2 ^ leastExponent := by
  have bound : 2 ^ 1074 ≤ 10 ^ 325 := by decide +kernel
  rw [leastExponent, zpow_neg, zpow_neg, inv_le_inv₀ (zpow_pos (by norm_num) _)
    (zpow_pos (by norm_num) _)]
  exact_mod_cast bound

section Reading

variable (large : 10 ^ (-325 : Int) ≤ (digits : ℚ) * 10 ^ exponent)
  (small : (digits : ℚ) * 10 ^ exponent < overflow)

include large

theorem digits_pos : 0 < digits := by
  by_contra zero
  have ten_pos : (0 : ℚ) < 10 ^ (-325 : Int) := zpow_pos (by norm_num) _
  rw [Nat.eq_zero_of_not_pos zero, Nat.cast_zero, zero_mul] at large
  exact absurd large ten_pos.not_ge

theorem num_scale_pos : 0 < ((Ratio.ofNat digits).scale 10 exponent).num := by
  have digits_pos := digits_pos large
  cases exponent <;> simp [Ratio.scale, Ratio.ofNat, digits_pos]

include small

/-- Within the range of doubles, no number counts as too large or too small for its digits. -/
theorem nearestDecimal_eq :
    nearestDecimal digits exponent =
      nearestMagnitude ((Ratio.ofNat digits).scale 10 exponent) := by
  have positive := digits_pos large
  obtain ⟨low, high⟩ := @between_powers digits exponent positive
  have notLarge : ¬310 ≤ (Nat.toDigits 10 digits).length + exponent := by
    intro size
    have bound : (10 : ℚ) ^ (309 : Int) < 10 ^ (309 : Int) :=
      calc (10 : ℚ) ^ (309 : Int)
          ≤ 10 ^ ((Nat.toDigits 10 digits).length + exponent - 1) :=
            zpow_le_zpow_right₀ (by norm_num) (by omega)
        _ ≤ digits * 10 ^ exponent := low
        _ < overflow := small
        _ < 2 ^ (1024 : Int) := overflow_lt
        _ ≤ 10 ^ (309 : Int) := two_zpow_le_ten_zpow
    exact lt_irrefl _ bound
  have notSmall : ¬(Nat.toDigits 10 digits).length + exponent ≤ -325 := by
    intro size
    have bound : (10 : ℚ) ^ (-325 : Int) < 10 ^ (-325 : Int) :=
      calc (10 : ℚ) ^ (-325 : Int) ≤ digits * 10 ^ exponent := large
        _ < 10 ^ ((Nat.toDigits 10 digits).length + exponent) := high
        _ ≤ 10 ^ (-325 : Int) := zpow_le_zpow_right₀ (by norm_num) size
    exact lt_irrefl _ bound
  simp only [nearestDecimal, positive.ne', notLarge, notSmall, if_false]

/-- A decimal number within the range of doubles is read as the nearest double. -/
theorem view_ofDecimal (negative : Bool) :
    view (ofDecimal negative digits exponent) =
      viewMagnitude negative (nearestMagnitude ((Ratio.ofNat digits).scale 10 exponent)) := by
  rw [ofDecimal, view_ofMagnitude negative (nearestDecimal_le digits exponent),
    nearestDecimal_eq large small]

end Reading

/-- A decimal number within the range of doubles is read as a finite double other than
zero, with its sign. -/
theorem exists_view_ofDecimal (large : 2 ^ leastExponent ≤ (digits : ℚ) * 10 ^ exponent)
    (small : (digits : ℚ) * 10 ^ exponent < overflow) (negative : Bool) :
    ∃ significand power, view (ofDecimal negative digits exponent) =
      .finite negative significand power ∧ 0 < significand := by
  have value : ((Ratio.ofNat digits).scale 10 exponent).value = digits * 10 ^ exponent := by
    simp
  have readable := ten_zpow_le_two_zpow.trans large
  have positive := nearestMagnitude_pos (value ▸ large)
  have finite := nearestMagnitude_lt (num_scale_pos readable) (value ▸ small)
  rw [view_ofDecimal readable small]
  exact exists_viewMagnitude_eq negative positive finite

end Decimal

end Keypad.Binary
