import Keypad.Proofs.Numeral.Spelling

/-!
# The numbers that texts write

The number a numeral denotes, exactly, before any rounding to a double. A number is a magnitude
with a sign in front, and a magnitude is digits times a power of ten.
-/

namespace Keypad

/-- A magnitude with its sign. -/
def signed (negative : Bool) (magnitude : ℚ) : ℚ :=
  if negative then -magnitude else magnitude

section Signed

variable (negative : Bool) (left right : ℚ)

theorem abs_signed_sub :
    |signed negative left - signed negative right| = |left - right| := by
  cases negative with
  | false => rfl
  | true =>
      change |-left - -right| = _
      rw [neg_sub_neg, abs_sub_comm]

theorem abs_signed : |signed negative left| = |left| := by
  cases negative with
  | false => rfl
  | true => exact abs_neg left

@[simp] theorem signed_eq_zero_iff : signed negative left = 0 ↔ left = 0 := by
  cases negative <;> simp [signed]

variable {left right}

/-- Positive magnitudes take their signs from the same place. -/
theorem sign_signed_eq (leftPositive : 0 < left) (rightPositive : 0 < right) :
    SignType.sign (signed negative left) = SignType.sign (signed negative right) := by
  cases negative with
  | false => exact (sign_pos leftPositive).trans (sign_pos rightPositive).symm
  | true =>
      have leftNegative : SignType.sign (-left) = -1 := sign_neg (neg_neg_of_pos leftPositive)
      have rightNegative : SignType.sign (-right) = -1 := sign_neg (neg_neg_of_pos rightPositive)
      exact leftNegative.trans rightNegative.symm

end Signed

namespace Numeral

/-- The number that a numeral denotes. Infinities and NaN denote none. -/
def number? (numeral : Numeral) : Option ℚ :=
  match numeral.size with
  | .decimal digits exponent => some (signed numeral.negative (digits * 10 ^ exponent))
  | .infinite | .notANumber => none

/-- The number that a text writes. -/
def written? (text : Text) : Option ℚ :=
  (parse? text).bind number?

/-- The number with the given whole digits and places, times a power of ten. -/
def scaled (whole places : Text) (exponent : Int) : ℚ :=
  digitsValue (whole ++ places) * 10 ^ (exponent - places.length)

/-- Zeros at the end of the places do not count. -/
theorem scaled_append_zeros (whole places : Text) (zeros : Nat) (exponent : Int) :
    scaled whole (places ++ List.replicate zeros '0') exponent = scaled whole places exponent := by
  have shifted : digitsValue (whole ++ (places ++ List.replicate zeros '0')) =
      10 ^ zeros * digitsValue (whole ++ places) := by
    rw [← List.append_assoc, digitsValue, Nat.ofDigitChars_append,
      Nat.ofDigitChars_replicate_zero, digitsValue]
  have lowered : exponent - (places ++ List.replicate zeros '0').length =
      exponent - places.length - zeros := by
    simp
    omega
  rw [scaled, scaled, shifted, lowered, zpow_sub₀ (by norm_num), zpow_natCast]
  push_cast
  field_simp

/-- The number that a spelling writes. -/
def Spelling.magnitude (spelling : Spelling) : ℚ :=
  scaled spelling.whole (spelling.places.getD []) (exponentValue spelling.exponent)

theorem written?_text (operand : Operand) :
    written? operand.text = some (signed operand.negative operand.spelling.magnitude) := by
  rw [written?, Operand.parse?_text]
  rfl

/-- Zero is written with either sign. -/
theorem written?_sign_zero (negative : Bool) :
    written? (Fixed.sign negative ++ ['0']) = some 0 := by
  have zero : Fixed.sign negative ++ ['0'] = Operand.text ⟨negative, Operand.zero.spelling⟩ := rfl
  rw [zero, written?_text, Option.some_inj, signed_eq_zero_iff]
  change ((0 : Nat) : ℚ) * _ = 0
  rw [Nat.cast_zero, zero_mul]

theorem written?_zero : written? ['0'] = some 0 :=
  written?_sign_zero false

end Numeral

end Keypad
