import Keypad.Number.Binary
import Mathlib

/-!
# Doubles as their parts

The view of a double is a function of its unpacked form, which the arithmetic of doubles
is defined on. A double is packed back into itself, and packing leaves signs alone: what
is packed with the opposite sign is unpacked with the opposite sign, whatever rounding
the packing does.
-/

namespace Keypad.Binary

open Float.Model
open UnpackedFloat hiding unpack pack

theorem hiddenBit_eq : hiddenBit = 2 ^ 52 := rfl

section Parts

variable (b : BitVec Format.binary64.numBits)

theorem toNat_unpackMantissa : (unpackMantissa b).toNat = b.toNat % 2 ^ 52 := by
  simp [unpackMantissa]

theorem toNat_unpackExponent : (unpackExponent b).toNat = b.toNat / 2 ^ 52 % 2 ^ 11 := by
  simp [unpackExponent, Nat.shiftRight_eq_div_pow]

theorem toNat_unpackSign : (unpackSign b).toNat = b.toNat / 2 ^ 63 % 2 := by
  simp [unpackSign, Nat.shiftRight_eq_div_pow]

/-- The highest bit is the sign. -/
theorem ofBitVec_unpackSign :
    (Sign.ofBitVec (unpackSign b) == .negative) = decide (2 ^ 63 ≤ b.toNat) := by
  have bit := toNat_unpackSign b
  have small : b.toNat < 2 ^ 64 := b.isLt
  by_cases negative : 2 ^ 63 ≤ b.toNat
  · have one : unpackSign b = 1#1 := BitVec.eq_of_toNat_eq (by rw [bit]; simp; omega)
    rw [one, decide_eq_true negative]
    rfl
  · have zero : unpackSign b = 0#1 := BitVec.eq_of_toNat_eq (by rw [bit]; simp; omega)
    rw [zero, decide_eq_false negative]
    rfl

theorem toNat_packComponents (sign : Sign) (exponent : BitVec 11) (mantissa : BitVec 52) :
    (packComponents .binary64 sign exponent mantissa).toNat =
      sign.toBitVec.toNat * 2 ^ 63 + exponent.toNat * 2 ^ 52 + mantissa.toNat := by
  have mantissaBound := mantissa.isLt
  have exponentBound := exponent.isLt
  simp only [packComponents]
  rw [BitVec.toNat_append, ← Nat.shiftLeft_add_eq_or_of_lt mantissaBound, BitVec.toNat_append,
    ← Nat.shiftLeft_add_eq_or_of_lt exponentBound, Nat.shiftLeft_eq, Nat.shiftLeft_eq]
  omega

theorem toBitVec_ofBitVec (sign : BitVec 1) : (Sign.ofBitVec sign).toBitVec = sign := by
  have all : ∀ sign : BitVec 1, (Sign.ofBitVec sign).toBitVec = sign := by decide
  exact all sign

/-- A double is put together from its parts. -/
theorem packComponents_unpack :
    packComponents .binary64 (Sign.ofBitVec (unpackSign b)) (unpackExponent b)
      (unpackMantissa b) = b := by
  have bound : b.toNat < 2 ^ 64 := b.isLt
  apply BitVec.eq_of_toNat_eq
  rw [toNat_packComponents, toBitVec_ofBitVec, toNat_unpackSign, toNat_unpackExponent,
    toNat_unpackMantissa]
  omega

@[simp] theorem unpackSign_packComponents (sign : Sign) (exponent : BitVec 11)
    (mantissa : BitVec 52) :
    Sign.ofBitVec (unpackSign (packComponents .binary64 sign exponent mantissa)) = sign := by
  have kept : unpackSign (packComponents .binary64 sign exponent mantissa) = sign.toBitVec := by
    have mantissaBound := mantissa.isLt
    have exponentBound := exponent.isLt
    have signBound := sign.toBitVec.isLt
    apply BitVec.eq_of_toNat_eq
    rw [toNat_unpackSign, toNat_packComponents]
    omega
  rw [kept]
  cases sign <;> rfl

theorem eq_ofNat_iff {width : Nat} (word : BitVec width) (n : Nat) (small : n < 2 ^ width) :
    word = BitVec.ofNat width n ↔ word.toNat = n := by
  rw [← BitVec.toNat_inj, BitVec.toNat_ofNat, Nat.mod_eq_of_lt small]

/-- The hidden bit stands in front of the mantissa. -/
theorem toNat_hidden_append (mantissa : BitVec 52) :
    (1#1 ++ mantissa).toNat = hiddenBit + mantissa.toNat := by
  rw [BitVec.toNat_append, ← Nat.shiftLeft_add_eq_or_of_lt mantissa.isLt]
  rfl

/-- The exponents that stand for no infinity and no NaN. -/
theorem unpackExponent_eq_neg_one_iff :
    unpackExponent b = -1#_ ↔ (unpackExponent b).toNat = 2047 :=
  eq_ofNat_iff _ 2047 (by decide)

theorem unpackExponent_eq_zero_iff :
    unpackExponent b = 0#_ ↔ (unpackExponent b).toNat = 0 :=
  eq_ofNat_iff _ 0 (by decide)

theorem unpackMantissa_eq_zero_iff :
    unpackMantissa b = 0#_ ↔ (unpackMantissa b).toNat = 0 :=
  eq_ofNat_iff _ 0 (by decide)

end Parts

/-- The view of an unpacked double. -/
def View.ofUnpacked : UnpackedFloat → View
  | .notANumber => .notANumber
  | .infinity sign => .infinite (sign == .negative)
  | .zero sign => .finite (sign == .negative) 0 leastExponent
  | .finite sign significand exponent _ => .finite (sign == .negative) significand exponent

theorem ofUnpacked_unpack (b : BitVec Format.binary64.numBits) :
    View.ofUnpacked (UnpackedFloat.unpack .binary64 b) =
      viewMagnitude (2 ^ 63 ≤ b.toNat) (b.toNat % 2 ^ 63) := by
  have field : b.toNat % 2 ^ 63 / hiddenBit = (unpackExponent b).toNat := by
    rw [toNat_unpackExponent, hiddenBit_eq]
    omega
  have fraction : b.toNat % 2 ^ 63 % hiddenBit = (unpackMantissa b).toNat := by
    rw [toNat_unpackMantissa, hiddenBit_eq]
    omega
  have bound : (unpackExponent b).toNat < 2 ^ 11 := (unpackExponent b).isLt
  have bias : (Format.exponentBias .binary64 : Int) = 1023 := rfl
  simp only [viewMagnitude, field, fraction, ← ofBitVec_unpackSign]
  unfold UnpackedFloat.unpack
  simp only
  split
  · rename_i full
    have full := (unpackExponent_eq_neg_one_iff b).1 full
    split
    · rename_i whole
      have whole := (unpackMantissa_eq_zero_iff b).1 whole
      simp [full, whole, View.ofUnpacked]
    · rename_i broken
      have broken := mt (unpackMantissa_eq_zero_iff b).2 broken
      simp [full, broken, View.ofUnpacked]
  · rename_i notFull
    have notFull := mt (unpackExponent_eq_neg_one_iff b).2 notFull
    split
    · rename_i subnormal
      have subnormal := (unpackExponent_eq_zero_iff b).1 subnormal
      split
      · rename_i whole
        have whole := (unpackMantissa_eq_zero_iff b).1 whole
        simp [whole, View.ofUnpacked]
      · simp [subnormal, bias, leastExponent, View.ofUnpacked]
    · rename_i normal
      have normal := mt (unpackExponent_eq_zero_iff b).2 normal
      have less : (unpackExponent b).toNat < 2047 := by omega
      have exponents : leastExponent + ((unpackExponent b).toNat - 1) =
          (unpackExponent b).toNat - ((1023 : Int) + (52 : Nat)) := by
        rw [leastExponent]
        omega
      simp only [normal, less, if_true, if_false, bias, exponents, View.ofUnpacked]
      rw [toNat_hidden_append]

/-- The view of a double is that of its unpacked form. -/
theorem view_eq_ofUnpacked (x : Float) : view x = View.ofUnpacked x.toModel.unpack :=
  (ofUnpacked_unpack x.toModel.toBits.toBitVec).symm

theorem isFinite_iff (x : Float) : isFinite x ↔
    ∃ negative significand exponent, view x = .finite negative significand exponent := by
  rw [isFinite]
  cases view x <;> simp

theorem isFinite_of_view {x : Float} {negative : Bool} {significand : Nat} {exponent : Int}
    (finite : view x = .finite negative significand exponent) : isFinite x :=
  (isFinite_iff x).2 ⟨negative, significand, exponent, finite⟩

/-- A double is finite when it is neither a NaN nor an infinity. -/
theorem isFinite_eq_false_iff (x : Float) : isFinite x = false ↔ x.isNaN ∨ x.isInf := by
  rw [isFinite, view_eq_ofUnpacked]
  change _ ↔ x.toModel.unpack.isNaN ∨ x.toModel.unpack.isInf
  cases x.toModel.unpack <;> simp [View.ofUnpacked, UnpackedFloat.isNaN, UnpackedFloat.isInf]

/-- A mantissa without its hidden bit is packed as a subnormal number. -/
theorem pack_subnormal (sign : Sign) {mantissa : Nat} (positive : 0 < mantissa)
    (small : mantissa < 2 ^ 52) :
    UnpackedFloat.pack .binary64 (.finite sign mantissa (-1074) positive) =
      packComponents .binary64 sign 0#11 (BitVec.ofNat 52 mantissa) := by
  have width : ¬mantissa.log2 + 1 = Format.mantissaBits .binary64 := by
    have short : mantissa.log2 < 52 := (Nat.log2_lt (Nat.ne_of_gt positive)).2 small
    change ¬mantissa.log2 + 1 = 53
    omega
  have biased : ((-1074 : Int) + Format.exponentBias .binary64 +
      Format.mantissaBitsWithoutImplicit .binary64).toNat = 1 := rfl
  simp only [UnpackedFloat.pack, biased, width, if_false]
  rfl

/-- A mantissa with its hidden bit is packed without it. -/
theorem pack_normal (sign : Sign) {mantissa : BitVec 52} {exponent : Nat}
    (small : exponent < 2047) (positive : 0 < (1#1 ++ mantissa).toNat) :
    UnpackedFloat.pack .binary64
        (.finite sign (1#1 ++ mantissa).toNat
          ((exponent : Int) - (Format.exponentBias .binary64 + (52 : Nat))) positive) =
      packComponents .binary64 sign (BitVec.ofNat 11 exponent) mantissa := by
  have bound := mantissa.isLt
  have whole := toNat_hidden_append mantissa
  rw [hiddenBit_eq] at whole
  have width : (1#1 ++ mantissa).toNat.log2 + 1 = Format.mantissaBits .binary64 := by
    have low : 52 ≤ (1#1 ++ mantissa).toNat.log2 := (Nat.le_log2 (by omega)).2 (by omega)
    have high : (1#1 ++ mantissa).toNat.log2 < 53 := (Nat.log2_lt (by omega)).2 (by omega)
    change _ + 1 = 53
    omega
  have biased : ((exponent : Int) - (Format.exponentBias .binary64 + (52 : Nat)) +
      Format.exponentBias .binary64 + Format.mantissaBitsWithoutImplicit .binary64).toNat =
        exponent := by
    have bits : (Format.mantissaBitsWithoutImplicit .binary64 : Int) = 52 := rfl
    omega
  have representable : ¬2 ^ Format.exponentBits .binary64 ≤ exponent + 1 := by
    change ¬2 ^ 11 ≤ exponent + 1
    omega
  simp only [UnpackedFloat.pack, biased, width, representable, if_true, if_false]
  congr 1
  apply BitVec.eq_of_toNat_eq
  rw [BitVec.toNat_ofNat, whole]
  omega

/-- A double is packed back into its own bits. -/
theorem pack_unpack {b : BitVec Format.binary64.numBits} (valid : Format.binary64.Valid b) :
    UnpackedFloat.pack .binary64 (UnpackedFloat.unpack .binary64 b) = b := by
  have together := packComponents_unpack b
  have bound : (unpackExponent b).toNat < 2 ^ 11 := (unpackExponent b).isLt
  unfold UnpackedFloat.unpack
  simp only
  split
  · rename_i full
    split
    · rename_i whole
      rw [full, whole] at together
      exact together
    · rename_i broken
      exact (valid.eq_packedNaN full broken).symm
  · rename_i notFull
    have notFull := mt (unpackExponent_eq_neg_one_iff b).2 notFull
    split
    · rename_i subnormal
      split
      · rename_i whole
        rw [subnormal, whole] at together
        exact together
      · rename_i broken
        have least : ((unpackExponent b).toNat : Int) -
            (Format.exponentBias .binary64 + Format.mantissaBitsWithoutImplicit .binary64) + 1 =
              -1074 := by
          rw [(unpackExponent_eq_zero_iff b).1 subnormal]
          rfl
        simp only [least]
        rw [pack_subnormal _ _ (unpackMantissa b).isLt, BitVec.ofNat_toNat, BitVec.setWidth_eq,
          ← subnormal]
        exact together
    · refine (pack_normal _ (by omega) _).trans ?_
      rw [BitVec.ofNat_toNat, BitVec.setWidth_eq]
      exact together

/-- Doubles with the same unpacked form are equal. -/
theorem unpack_injective {x y : Float} (equal : x.toModel.unpack = y.toModel.unpack) : x = y := by
  have packed := congrArg (UnpackedFloat.pack .binary64) equal
  simp only [Float.Model.unpack, pack_unpack x.toModel.valid, pack_unpack y.toModel.valid] at packed
  obtain ⟨⟨⟨left⟩, leftValid⟩⟩ := x
  obtain ⟨⟨⟨right⟩, rightValid⟩⟩ := y
  cases packed
  rfl

/-- Unpacking takes the sign from the sign bit alone. -/
theorem unpack_packComponents_neg (sign : Sign) (exponent : BitVec 11) (mantissa : BitVec 52) :
    UnpackedFloat.unpack .binary64 (packComponents .binary64 (-sign) exponent mantissa) =
      UnpackedFloat.neg (UnpackedFloat.unpack .binary64
        (packComponents .binary64 sign exponent mantissa)) := by
  unfold UnpackedFloat.unpack
  simp only [unpackExponent_packComponents, unpackMantissa_packComponents,
    unpackSign_packComponents]
  split
  · split <;> rfl
  · split
    · split <;> rfl
    · rfl

/-- What is packed with the opposite sign is unpacked with the opposite sign. -/
theorem unpack_pack_neg (u : UnpackedFloat) :
    (Float.Model.pack u.neg).unpack = (Float.Model.pack u).unpack.neg := by
  change UnpackedFloat.unpack _ (UnpackedFloat.pack _ u.neg) =
    UnpackedFloat.neg (UnpackedFloat.unpack _ (UnpackedFloat.pack _ u))
  cases u with
  | notANumber => rfl
  | infinity sign => exact unpack_packComponents_neg sign _ _
  | zero sign => exact unpack_packComponents_neg sign _ _
  | finite sign mantissa exponent positive =>
      simp only [UnpackedFloat.neg, UnpackedFloat.pack]
      split
      · exact unpack_packComponents_neg sign _ _
      · split
        · exact unpack_packComponents_neg sign _ _
        · exact unpack_packComponents_neg sign _ _

end Keypad.Binary
