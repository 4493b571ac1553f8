import Keypad.Currency.Conversion
import Keypad.Proofs.Display.Typing
import Keypad.Proofs.Number.Nearest

/-!
# Amounts that can be read back

An amount is shown with two places and then a blank and a currency, and the next conversion
starts from what is read of that text. What is read can be converted exactly when the amount
is finite and larger than half of a hundredth: smaller amounts are shown as zero.
-/

namespace Keypad

namespace Text

/-- Without blanks in it, the text in front of a blank is the first word. -/
theorem firstWord_append_blank {word : Text} (nonempty : word ≠ [])
    (solid : ∀ c ∈ word, isBlank c = false) (after : Text) :
    firstWord (word ++ ' ' :: after) = word := by
  have unchanged : (word ++ ' ' :: after).dropWhile isBlank = word ++ ' ' :: after := by
    cases word with
    | nil => exact absurd rfl nonempty
    | cons c rest => simp [solid c (by simp)]
  have kept := @List.takeWhile_append_of_pos _ (!isBlank ·) word (' ' :: after)
    (by simpa using solid)
  rw [firstWord, unchanged, kept]
  exact List.append_nil word

end Text

/-- What can be converted are the finite doubles other than zero. -/
theorem isConvertible_iff (x : Float) :
    isConvertible x ↔ ∃ negative significand exponent,
      Binary.view x = .finite negative significand exponent ∧ 0 < significand := by
  have isZero : (x == 0) = x.toModel.unpack.beq (.zero .positive) := rfl
  rw [isConvertible, Binary.isFinite, isZero, Binary.view_eq_ofUnpacked]
  cases x.toModel.unpack with
  | notANumber | infinity sign => simp [Binary.View.ofUnpacked]
  | zero sign => cases sign <;> simp [Binary.View.ofUnpacked] <;> rfl
  | finite sign significand exponent positive =>
      cases sign <;> simp [Binary.View.ofUnpacked, positive] <;> rfl

namespace Fixed

open Numeral (Spelling Operand isDigit)

section Spelling

variable (places value : Nat)

/-- The digits in front of the point. -/
theorem isDigit_of_mem_whole : ∀ c ∈ Nat.toDigits 10 (value / Nat.pow 10 places), isDigit c :=
  fun _ => isDigit_of_mem_toDigits

/-- The digits behind the point. -/
theorem isDigit_of_mem_places :
    ∀ c ∈ (some ((Nat.toDigits 10 (value % Nat.pow 10 places)).leftpad places '0')).getD [],
      isDigit c :=
  fun _ => isDigit_of_mem_leftpad

/-- How a number with a fixed number of places is spelled. -/
def scaledSpelling : Spelling :=
  .unscaled (Nat.toDigits 10 (value / Nat.pow 10 places))
    (some ((Nat.toDigits 10 (value % Nat.pow 10 places)).leftpad places '0'))
    Nat.toDigits_ne_nil (isDigit_of_mem_whole places value) (isDigit_of_mem_places places value)

theorem text_scaledSpelling :
    (scaledSpelling places value).text = writeScaled places value := by
  rw [scaledSpelling, Numeral.Spelling.text_unscaled]
  rfl

end Spelling

section Places

variable {places : Nat} (positive : 0 < places) (value : Nat)

include positive

theorem length_toDigits_mod_le : (Nat.toDigits 10 (value % Nat.pow 10 places)).length ≤ places :=
  (Nat.length_toDigits_le_iff (by decide) positive).2 (Nat.mod_lt _ (Nat.pow_pos (by decide)))

/-- There are as many places as were asked for. -/
theorem length_places :
    ((Nat.toDigits 10 (value % Nat.pow 10 places)).leftpad places '0').length = places := by
  rw [List.length_leftpad, max_eq_left (length_toDigits_mod_le positive value)]

/-- A number with a fixed number of places is read as what is written. -/
theorem size_scaledSpelling : (scaledSpelling places value).size = .decimal value (-places) := by
  have length := length_toDigits_mod_le positive value
  have padded := length_places positive value
  rw [Nat.pow_eq] at length padded
  have digits : Numeral.digitsValue (Nat.toDigits 10 (value / 10 ^ places) ++
      (Nat.toDigits 10 (value % 10 ^ places)).leftpad places '0') = value := by
    rw [Numeral.digitsValue, List.leftpad, Nat.ofDigitChars_append, Nat.ofDigitChars_append,
      Nat.ofDigitChars_replicate_zero, Nat.ofDigitChars_eq_ofDigitChars_zero,
      Nat.ofDigitChars_ten_toDigits, Nat.ofDigitChars_ten_toDigits, ← Nat.mul_assoc, ← Nat.pow_add,
      Nat.add_sub_cancel' length]
    exact Nat.div_add_mod value _
  change Numeral.Size.decimal
    (Numeral.digitsValue (Nat.toDigits 10 (value / 10 ^ places) ++ List.leftpad _ _ _))
    (0 - (List.leftpad _ _ _).length) = _
  rw [Nat.pow_eq, digits, padded, zero_sub]

end Places

end Fixed

namespace Readout

open Numeral (Operand)

/-- Half of the last place of an amount. -/
def halfPlace : Ratio := ⟨1, 2 * Nat.pow 10 amountPlaces, by decide⟩

/-- Whether an amount is finite, and large enough to be shown as other than zero. -/
def isLegible (x : Float) : Bool :=
  match Binary.view x with
  | .finite _ significand exponent => halfPlace.lt (Binary.magnitude significand exponent)
  | _ => false

/-- The amount in hundredths that is shown. -/
def hundredths (r : Ratio) : Nat := (r.scale 10 amountPlaces).nearest

/-- An amount is legible when it is not rounded to zero. -/
theorem isLegible_iff {x : Float} {negative : Bool} {significand : Nat} {exponent : Int}
    (finite : Binary.view x = .finite negative significand exponent) :
    isLegible x ↔ 0 < hundredths (Binary.magnitude significand exponent) := by
  rw [isLegible, finite, Nat.pos_iff_ne_zero, hundredths, Ne, Ratio.nearest_eq_zero_iff, not_le,
    Ratio.value_scale, Ratio.lt_iff]
  have half : halfPlace.value = 1 / 200 := by norm_num [halfPlace, Ratio.value, amountPlaces]
  rw [half, amountPlaces]
  constructor <;> intro large <;> norm_num at large ⊢ <;> linarith

/-- The amount as it is written, in hundredths. -/
def amountOperand (negative : Bool) (value : Nat) : Operand :=
  ⟨negative, Fixed.scaledSpelling amountPlaces value⟩

theorem value_amountOperand (negative : Bool) (value : Nat) :
    (amountOperand negative value).value = Binary.ofDecimal negative value (-2) := by
  rw [Operand.value, Operand.numeral, amountOperand, Fixed.size_scaledSpelling (by decide)]
  rfl

/-- The words for amounts that are not finite. -/
def words : List Text := ["NaN".toList, "inf".toList, "-inf".toList]

/-- How an amount is written: as an operand, or as a word if it is not finite. -/
theorem amount_cases (x : Float) :
    (∃ negative significand exponent, Binary.view x = .finite negative significand exponent ∧
      amount x = (amountOperand negative
        (hundredths (Binary.magnitude significand exponent))).text) ∨
    isLegible x = false ∧ amount x ∈ words := by
  cases view : Binary.view x with
  | notANumber => exact .inr (by simp [isLegible, amount, words, view])
  | infinite negative =>
      cases negative <;> exact .inr (by simp [isLegible, amount, words, view, Fixed.sign])
  | finite negative significand exponent =>
      refine .inl ⟨negative, significand, exponent, rfl, ?_⟩
      rw [amount, view, amountOperand, Operand.text, Fixed.text_scaledSpelling]
      rfl

theorem amount_ne_nil (x : Float) : amount x ≠ [] := by
  obtain ⟨negative, significand, exponent, -, written⟩ | ⟨-, word⟩ := amount_cases x
  · rw [written]
    simp [Operand.text, Numeral.Spelling.text_ne_nil]
  · have nonempty : ∀ word ∈ words, word ≠ [] := by decide
    exact nonempty _ word

/-- No amount has blanks in it. -/
theorem isBlank_of_mem_amount (x : Float) : ∀ c ∈ amount x, Text.isBlank c = false := by
  obtain ⟨negative, significand, exponent, -, written⟩ | ⟨-, word⟩ := amount_cases x
  · intro c member
    rw [written] at member
    have plain : (amountOperand negative
      (hundredths (Binary.magnitude significand exponent))).Plain := rfl
    exact (Entry.isTyped_of_mem_text plain c member).isBlank
  · have solid : words.all fun word => word.all (!Text.isBlank ·) := by decide +kernel
    simpa using List.all_eq_true.1 solid _ word

/-- The number of hundredths of a finite double is within the range of doubles. -/
theorem hundredths_lt {x : Float} {negative : Bool} {significand : Nat} {exponent : Int}
    (finite : Binary.view x = .finite negative significand exponent) :
    (hundredths (Binary.magnitude significand exponent) : ℚ) * 10 ^ (-2 : Int) <
      Binary.overflow := by
  have below := Binary.add_half_le_overflow finite
  have near := ((Binary.magnitude significand exponent).scale 10 amountPlaces).nearest_le
  rw [← hundredths, Ratio.value_scale, Binary.value_magnitude, amountPlaces] at near
  norm_num at near ⊢
  linarith

/-- A number of hundredths is read as a number that can be converted, unless it is zero. -/
theorem isConvertible_value_amountOperand (negative : Bool) {value : Nat}
    (small : (value : ℚ) * 10 ^ (-2 : Int) < Binary.overflow) :
    isConvertible (amountOperand negative value).value ↔ 0 < value := by
  rw [value_amountOperand, isConvertible_iff]
  constructor
  · rintro ⟨other, significand, exponent, view, positive⟩
    apply Nat.pos_of_ne_zero
    rintro rfl
    rw [Binary.ofDecimal, Binary.nearestDecimal_zero, Binary.view_ofMagnitude _ (Nat.zero_le _)]
      at view
    cases view
    exact absurd positive (by decide)
  · intro positive
    have whole : (1 : ℚ) ≤ value := by exact_mod_cast positive
    have large : (2 : ℚ) ^ Binary.leastExponent ≤ value * 10 ^ (-2 : Int) :=
      calc (2 : ℚ) ^ Binary.leastExponent ≤ 2 ^ (-7 : Int) :=
            zpow_le_zpow_right₀ (by norm_num) (by decide)
        _ ≤ 1 * 10 ^ (-2 : Int) := by norm_num
        _ ≤ value * 10 ^ (-2 : Int) :=
            mul_le_mul_of_nonneg_right whole (zpow_nonneg (by norm_num) _)
    obtain ⟨significand, power, view, nonzero⟩ :=
      Binary.exists_view_ofDecimal large small negative
    exact ⟨negative, significand, power, view, nonzero⟩

/-- What is read of an amount in a currency can be converted exactly when the amount is
finite and large enough to be shown as other than zero. -/
theorem isConvertible_leadingAmount (x : Float) (target : Text) :
    isConvertible (Entry.leadingAmount (amount x ++ ' ' :: target)) = isLegible x := by
  rw [Entry.leadingAmount, Text.firstWord_append_blank (amount_ne_nil x) (isBlank_of_mem_amount x)]
  obtain ⟨negative, significand, exponent, view, written⟩ | ⟨illegible, word⟩ := amount_cases x
  · rw [written, Operand.read?_text, Option.getD_some, Bool.eq_iff_iff, isLegible_iff view]
    exact isConvertible_value_amountOperand negative (hundredths_lt view)
  · have refused : ∀ word ∈ words, isConvertible ((Numeral.read? word).getD 0) = false := by
      decide +kernel
    rw [illegible, refused _ word]

end Readout

end Keypad
