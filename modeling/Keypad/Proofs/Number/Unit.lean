import Keypad.Proofs.Number.Nearest
import Keypad.Proofs.Number.Sign

/-!
# Multiplying by one

The product of a double and one is the double. A product is computed with a longer mantissa and
rounded; here the mantissa is only longer by zeros, so rounding takes them off again and stops
where it started, because the mantissa of a double is as long as its exponent allows
(`Canonical`).
-/

namespace Keypad.Binary

open Float.Model
open UnpackedFloat hiding unpack pack

/-- A mantissa that has its hidden bit, or has the least exponent. -/
structure Canonical (mantissa : Nat) (exponent : Int) : Prop where
  short : mantissa < 2 ^ 53
  least : -1074 ≤ exponent
  full : 2 ^ 52 ≤ mantissa ∨ exponent = -1074

/-- The parts of a finite double are canonical. -/
theorem canonical_of_view {x : Float} {negative : Bool} {significand : Nat} {exponent : Int}
    (finite : view x = .finite negative significand exponent) : Canonical significand exponent := by
  have fraction := Nat.mod_lt (x.toBits.toNat % Nat.pow 2 63) (y := hiddenBit) (by decide)
  simp only [view, viewMagnitude] at finite
  rw [hiddenBit_eq] at finite fraction
  split at finite
  · cases finite
    exact ⟨by omega, by decide, .inr rfl⟩
  · split at finite
    · cases finite
      exact ⟨by omega, by rw [leastExponent]; omega, .inl (by omega)⟩
    · split at finite <;> cases finite

/-- A small double has the least exponent, and no hidden bit. -/
theorem least_of_view {x : Float} {negative : Bool} {significand : Nat} {exponent : Int}
    (finite : view x = .finite negative significand exponent)
    (small : (magnitude significand exponent).value < 2 ^ (-1022 : Int)) :
    exponent = leastExponent ∧ significand < 2 ^ 52 := by
  obtain ⟨-, least, full⟩ := canonical_of_view finite
  have short : significand < 2 ^ 52 := by
    by_contra long
    have digits : (2 : ℚ) ^ 52 ≤ significand := by exact_mod_cast Nat.le_of_not_lt long
    rw [value_magnitude] at small
    refine absurd small (not_lt.2 ?_)
    calc (2 : ℚ) ^ (-1022 : Int) = 2 ^ 52 * 2 ^ (-1074 : Int) := zpow_add₀ (by norm_num) 52 (-1074)
      _ ≤ significand * 2 ^ exponent :=
          mul_le_mul digits (zpow_le_zpow_right₀ (by norm_num) least) (zpow_nonneg (by norm_num) _)
            (Nat.cast_nonneg _)
  exact ⟨full.resolve_left (by omega), short⟩

/-- Zeros behind a mantissa are shifted out without a trace. -/
theorem shiftRight_exact (mantissa zeros : Nat) :
    (ExtendedMantissa.mk (mantissa * 2 ^ zeros) false false) >>> zeros =
      ExtendedMantissa.mk mantissa false false := by
  change zeros.repeat ExtendedMantissa.shiftRightOne _ = _
  induction zeros generalizing mantissa with
  | zero => rw [Nat.pow_zero, Nat.mul_one]; rfl
  | succ zeros inductionHypothesis =>
      have longer : mantissa * 2 ^ (zeros + 1) = mantissa * 2 * 2 ^ zeros := by
        rw [Nat.pow_succ, Nat.mul_comm (2 ^ zeros) 2, Nat.mul_assoc]
      rw [Nat.repeat, longer, inductionHypothesis]
      simp [ExtendedMantissa.shiftRightOne]

section Rounding

variable {mantissa : Nat} {exponent : Int} (positive : 0 < mantissa)
  (canonical : Canonical mantissa exponent)

include positive canonical

/-- However many zeros stand behind a canonical mantissa, its exponent is the one to round
to. -/
theorem targetExponent_eq (zeros : Nat) :
    Format.binary64.targetExponent (totalExponent (mantissa * 2 ^ zeros) (exponent - zeros)) =
      exponent := by
  obtain ⟨short, least, full⟩ := canonical
  have nonzero := positive.ne'
  have length : (mantissa * 2 ^ zeros).log2 = mantissa.log2 + zeros := by
    obtain ⟨low, high⟩ := (Nat.log2_eq_iff nonzero).1 rfl
    refine (Nat.log2_eq_iff (by positivity)).2 ⟨?_, ?_⟩
    · rw [Nat.pow_add]
      exact Nat.mul_le_mul_right _ low
    · rw [Nat.add_right_comm, Nat.pow_add]
      exact Nat.mul_lt_mul_of_pos_right high (Nat.two_pow_pos zeros)
  have high : mantissa.log2 < 53 := (Nat.log2_lt nonzero).2 short
  have bits : (Format.mantissaBits .binary64 : Int) = 53 := rfl
  have floor : Format.minExponent .binary64 = -1074 := rfl
  rw [Format.targetExponent, totalExponent, length, bits, floor]
  rcases full with long | rfl
  · have low : 52 ≤ mantissa.log2 := (Nat.le_log2 nonzero).2 long
    omega
  · omega

theorem shiftToTargetExponent_eq (zeros : Nat) :
    shiftToTargetExponent .binary64 (mantissa * 2 ^ zeros) (exponent - zeros) .exact =
      (⟨mantissa, false, false⟩, exponent) := by
  have distance : (exponent - (exponent - zeros)).toNat = zeros := by omega
  rw [shiftToTargetExponent, targetExponent_eq positive canonical, shiftToExponent, distance]
  simp only [ExtendedMantissa.ofMantissaAndAccuracy, shiftRight_exact, sub_add_cancel]

/-- A canonical mantissa with zeros behind it is rounded to itself. -/
theorem roundWithAccuracy_eq (sign : Sign) (zeros : Nat) :
    roundWithAccuracy .binary64 sign (mantissa * 2 ^ zeros) (exponent - zeros) .exact =
      .finite sign mantissa exponent positive := by
  have again := shiftToTargetExponent_eq positive canonical 0
  simp only [Nat.pow_zero, Nat.mul_one, Nat.cast_zero, sub_zero] at again
  have kept : ExtendedMantissa.roundedMantissa ⟨mantissa, false, false⟩ = mantissa := rfl
  simp only [roundWithAccuracy, shiftToTargetExponent_eq positive canonical zeros, kept, again,
    positive.ne', dif_neg, not_false_eq_true]

end Rounding

theorem unpack_one :
    (1 : Float).toModel.unpack = .finite .positive (2 ^ 52) (-52) (by decide) := rfl

/-- Multiplying by one changes no double. -/
theorem mul_one (x : Float) : x * 1 = x := by
  have positiveSign (sign : Sign) : sign * .positive = sign := by cases sign <;> rfl
  have unchanged : UnpackedFloat.mul .binary64 x.toModel.unpack (1 : Float).toModel.unpack =
      x.toModel.unpack := by
    have finite := view_eq_ofUnpacked x
    rw [unpack_one]
    cases unpacked : x.toModel.unpack with
    | notANumber => rfl
    | infinity sign | zero sign => simp [UnpackedFloat.mul, positiveSign]
    | finite sign mantissa exponent positive =>
        rw [unpacked] at finite
        have rounded := roundWithAccuracy_eq positive (canonical_of_view finite) sign 52
        simpa [UnpackedFloat.mul, positiveSign, Int.sub_eq_add_neg] using rounded
  apply unpack_injective
  change (Float.Model.pack (UnpackedFloat.mul _ x.toModel.unpack _)).unpack = _
  rw [unchanged, unpack_pack_unpack]

end Keypad.Binary
