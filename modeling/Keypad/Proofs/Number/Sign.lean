import Keypad.Proofs.Number.Double
import Keypad.Readout

/-!
# Signs in double arithmetic

Two relations between doubles that calculations from the left preserve: to have opposite
signs, through multiplications and divisions, and to differ in the sign of zero at most,
through additions and subtractions. Readouts do not show the sign of zero.

With them a zero that starts a sum can be left out: `alike_zero_add` and
`alike_zero_sub` say what may stand in place of `0 + x` and `0 - x`.
-/

namespace Keypad.Binary

open Float.Model
open UnpackedFloat hiding unpack pack

/-- Whether a double is a zero of either sign. -/
def IsZero (x : Float) : Prop :=
  ∃ sign, x.toModel.unpack = .zero sign

/-- The same double with the opposite sign. NaN has no sign. -/
def Opposite (x y : Float) : Prop :=
  x.toModel.unpack = y.toModel.unpack.neg

/-- Doubles that differ in the sign of zero at most. -/
def Alike (x y : Float) : Prop :=
  x = y ∨ IsZero x ∧ IsZero y

theorem Alike.refl (x : Float) : Alike x x :=
  .inl rfl

theorem Alike.symm {x y : Float} (alike : Alike x y) : Alike y x :=
  alike.imp Eq.symm And.symm

theorem Alike.trans {x y z : Float} (first : Alike x y) (second : Alike y z) : Alike x z := by
  rcases first with rfl | ⟨isZero, isZero'⟩
  · exact second
  · rcases second with rfl | ⟨-, isZero''⟩
    · exact .inr ⟨isZero, isZero'⟩
    · exact .inr ⟨isZero, isZero''⟩

/-- Readouts do not show the sign of zero. -/
theorem Alike.result_eq {x y : Float} (alike : Alike x y) :
    Readout.result x = Readout.result y := by
  rcases alike with rfl | ⟨⟨left, leftZero⟩, ⟨right, rightZero⟩⟩
  · rfl
  · simp [Readout.result, view_eq_ofUnpacked, leftZero, rightZero, View.ofUnpacked]

/-- A double is packed back into its own unpacked form. -/
theorem unpack_pack_unpack (x : Float) :
    (Float.Model.pack x.toModel.unpack).unpack = x.toModel.unpack := by
  change UnpackedFloat.unpack .binary64 (UnpackedFloat.pack .binary64 _) = _
  rw [Float.Model.unpack, pack_unpack x.toModel.valid]

theorem unpack_pack_zero (sign : Sign) : (Float.Model.pack (.zero sign)).unpack = .zero sign := by
  cases sign <;> rfl

section Unpacked

variable (u v : UnpackedFloat)

/-- Rounding does not look at the sign. -/
theorem roundWithAccuracy_neg (sign : Sign) (mantissa : Nat) (exponent : Int)
    (accuracy : Accuracy) :
    roundWithAccuracy .binary64 (-sign) mantissa exponent accuracy =
      (roundWithAccuracy .binary64 sign mantissa exponent accuracy).neg := by
  simp only [roundWithAccuracy]
  split <;> rfl

theorem neg_mul : UnpackedFloat.mul .binary64 u.neg v = (UnpackedFloat.mul .binary64 u v).neg := by
  have signs (s t : Sign) : -s * t = -(s * t) := by cases s <;> cases t <;> rfl
  cases u <;> cases v <;>
    simp only [UnpackedFloat.mul, UnpackedFloat.neg, signs, roundWithAccuracy_neg]

theorem neg_div : UnpackedFloat.div .binary64 u.neg v = (UnpackedFloat.div .binary64 u v).neg := by
  have signs (s t : Sign) : -s / t = -(s / t) := by cases s <;> cases t <;> rfl
  cases u <;> cases v <;>
    simp only [UnpackedFloat.div, UnpackedFloat.neg, signs, roundWithAccuracy_neg]

/-- Whatever is not a zero itself absorbs a zero in front of it. -/
theorem zero_add_cases (sign : Sign) :
    UnpackedFloat.add .binary64 (.zero sign) u = u ∨
      (∃ s, u = .zero s) ∧ ∃ s, UnpackedFloat.add .binary64 (.zero sign) u = .zero s := by
  cases u with
  | notANumber => exact .inl rfl
  | infinity s => exact .inl rfl
  | finite s m e positive => exact .inl rfl
  | zero s =>
      refine .inr ⟨⟨s, rfl⟩, ?_⟩
      cases sign <;> cases s <;> exact ⟨_, rfl⟩

theorem zero_sub_cases (sign : Sign) :
    UnpackedFloat.sub .binary64 (.zero sign) u = u.neg ∨
      (∃ s, u = .zero s) ∧ ∃ s, UnpackedFloat.sub .binary64 (.zero sign) u = .zero s := by
  cases u with
  | notANumber => exact .inl rfl
  | infinity s => exact .inl rfl
  | finite s m e positive => exact .inl rfl
  | zero s =>
      refine .inr ⟨⟨s, rfl⟩, ?_⟩
      cases sign <;> cases s <;> exact ⟨_, rfl⟩

end Unpacked

section Arithmetic

variable {x y z : Float}

theorem Opposite.mul (opposite : Opposite x y) (z : Float) : Opposite (x * z) (y * z) := by
  change (Float.Model.pack (UnpackedFloat.mul _ x.toModel.unpack _)).unpack =
    (Float.Model.pack (UnpackedFloat.mul _ _ _)).unpack.neg
  rw [opposite, neg_mul, unpack_pack_neg]

theorem Opposite.div (opposite : Opposite x y) (z : Float) : Opposite (x / z) (y / z) := by
  change (Float.Model.pack (UnpackedFloat.div _ x.toModel.unpack _)).unpack =
    (Float.Model.pack (UnpackedFloat.div _ _ _)).unpack.neg
  rw [opposite, neg_div, unpack_pack_neg]

/-- Only one double is opposite to another. -/
theorem Opposite.eq_neg (opposite : Opposite y x) : y = -x := by
  apply unpack_injective
  change y.toModel.unpack = (Float.Model.pack x.toModel.unpack.neg).unpack
  rw [unpack_pack_neg, unpack_pack_unpack, opposite]

/-- A zero that is added to can be left out. -/
theorem alike_zero_add (isZero : IsZero z) (x : Float) : Alike (z + x) x := by
  obtain ⟨sign, zero⟩ := isZero
  have sum : (z + x).toModel.unpack =
      (Float.Model.pack (UnpackedFloat.add .binary64 (.zero sign) x.toModel.unpack)).unpack := by
    rw [← zero]
    rfl
  rcases zero_add_cases x.toModel.unpack sign with same | ⟨isZero, ⟨other, zeros⟩⟩
  · rw [same, unpack_pack_unpack] at sum
    exact .inl (unpack_injective sum)
  · rw [zeros, unpack_pack_zero] at sum
    exact .inr ⟨⟨other, sum⟩, isZero⟩

/-- A zero that is subtracted from leaves the sign to what is subtracted. -/
theorem alike_zero_sub (isZero : IsZero z) (x : Float) : Alike (z - x) (-x) := by
  obtain ⟨sign, zero⟩ := isZero
  have difference : (z - x).toModel.unpack =
      (Float.Model.pack (UnpackedFloat.sub .binary64 (.zero sign) x.toModel.unpack)).unpack := by
    rw [← zero]
    rfl
  rcases zero_sub_cases x.toModel.unpack sign with same | ⟨⟨s, isZero⟩, ⟨other, zeros⟩⟩
  · rw [same] at difference
    exact .inl (unpack_injective difference)
  · rw [zeros, unpack_pack_zero] at difference
    refine .inr ⟨⟨other, difference⟩, -s, ?_⟩
    change (Float.Model.pack x.toModel.unpack.neg).unpack = _
    rw [isZero]
    exact unpack_pack_zero (-s)

/-- The sign of a zero does not matter to what is added to it. -/
theorem Alike.add (alike : Alike x y) (z : Float) : Alike (x + z) (y + z) := by
  rcases alike with rfl | ⟨left, right⟩
  · exact .refl _
  · exact (alike_zero_add left z).trans (alike_zero_add right z).symm

theorem Alike.sub (alike : Alike x y) (z : Float) : Alike (x - z) (y - z) := by
  rcases alike with rfl | ⟨left, right⟩
  · exact .refl _
  · exact (alike_zero_sub left z).trans (alike_zero_sub right z).symm

end Arithmetic

/-- The sign bit gives a magnitude its sign. -/
theorem opposite_ofMagnitude {magnitude : Nat} (small : magnitude < 2 ^ 63) :
    Opposite (ofMagnitude true magnitude) (ofMagnitude false magnitude) := by
  let exponent := BitVec.ofNat 11 (magnitude / 2 ^ 52)
  let mantissa := BitVec.ofNat 52 magnitude
  have positive : (UInt64.ofNat magnitude).toBitVec =
      packComponents .binary64 .positive exponent mantissa := by
    apply BitVec.eq_of_toNat_eq
    rw [toNat_packComponents]
    simp [exponent, mantissa, Sign.toBitVec]
    omega
  have negative : (UInt64.ofNat (Nat.pow 2 63 + magnitude)).toBitVec =
      packComponents .binary64 .negative exponent mantissa := by
    apply BitVec.eq_of_toNat_eq
    rw [toNat_packComponents]
    simp [exponent, mantissa, Sign.toBitVec]
    omega
  change (Float.Model.pack (UnpackedFloat.unpack .binary64 _)).unpack =
    (Float.Model.pack (UnpackedFloat.unpack .binary64 _)).unpack.neg
  simp only [if_true, Bool.false_eq_true, if_false]
  rw [positive, negative, ← unpack_pack_neg, ← unpack_packComponents_neg]
  rfl

end Keypad.Binary
