import Keypad.Proofs.Number.Scientific
import Keypad.Proofs.Numeral.Denoted
import Keypad.Proofs.Readout.Amount

/-!
# The notations of a result

A finite result other than zero is written in one of two notations, each the spelling of a whole
number of units: plainly in units of the fifth place, or in scientific notation as a rounded
significand with its exponent. Which of them is shown depends on the plain text alone
(`ShownPlain`). Zeros that are left out at the end do not change the number.
-/

namespace Keypad

namespace Fixed

open Numeral (Exponent Operand scaled written? exponentValue)

/-- Leaving out zeros at the end does not change a number. -/
theorem scaled_keptPlaces (whole places : Text) (exponent : Int) :
    scaled whole ((keptPlaces places).getD []) exponent = scaled whole places exponent := by
  have kept : (keptPlaces places).getD [] = places.rdropWhile (· == '0') := by
    unfold keptPlaces
    split
    · rename_i gone
      exact gone.symm
    · rfl
  have zeros : ∀ c ∈ places.rtakeWhile (· == '0'), c = '0' := by
    intro c member
    have zero := List.mem_rtakeWhile_imp member
    simpa using zero
  have split := List.rdropWhile_append_rtakeWhile (p := (· == '0')) (l := places)
  rw [List.eq_replicate_of_mem zeros, ← kept] at split
  calc scaled whole ((keptPlaces places).getD []) exponent
      = scaled whole ((keptPlaces places).getD [] ++ List.replicate _ '0') exponent :=
        (Numeral.scaled_append_zeros ..).symm
    _ = scaled whole places exponent := by rw [split]

section Spelling

variable (places value : Nat)

/-- A number without the zeros at its end is the number with them. -/
theorem written?_trimFraction :
    written? (trimFraction (writeScaled places value)) = written? (writeScaled places value) := by
  let short : Operand := ⟨false, spelling places value none⟩
  let long : Operand := ⟨false, scaledSpelling places value⟩
  have shortText : short.text = trimFraction (writeScaled places value) :=
    (text_spelling places value none).trans (List.append_nil _)
  have longText : long.text = writeScaled places value := text_scaledSpelling places value
  rw [← shortText, ← longText, Numeral.written?_text, Numeral.written?_text]
  exact congrArg (some ∘ signed false) (scaled_keptPlaces _ _ _)

variable {places}

/-- The number that a trimmed spelling writes. -/
theorem magnitude_spelling (positive : 0 < places) (exponent : Option Exponent) :
    (spelling places value exponent).magnitude =
      value * 10 ^ (exponentValue exponent - places) := by
  obtain ⟨digits, length⟩ := Numeral.Size.decimal.inj (size_scaledSpelling positive value)
  have places_eq : ((scaledSpelling places value).places.getD []).length = places := by
    change 0 - (((scaledSpelling places value).places.getD []).length : Int) = -places at length
    omega
  calc (spelling places value exponent).magnitude
      = scaled (scaledSpelling places value).whole ((scaledSpelling places value).places.getD [])
          (exponentValue exponent) := scaled_keptPlaces _ _ _
    _ = value * 10 ^ (exponentValue exponent - places) := by rw [scaled, digits, places_eq]

end Spelling

end Fixed

namespace Scientific

@[simp] theorem exponentValue_exponent (value : Int) :
    Numeral.exponentValue (some (exponent value)) = value := by
  have digits : Numeral.digitsValue (Nat.toDigits 10 value.natAbs) = value.natAbs :=
    Nat.ofDigitChars_ten_toDigits
  change (if Fixed.sign (value < 0) = ['-'] then
    -(Numeral.digitsValue (Nat.toDigits 10 value.natAbs) : Int)
      else Numeral.digitsValue (Nat.toDigits 10 value.natAbs)) = value
  rw [digits]
  by_cases negative : value < 0
  · have minus : Fixed.sign (value < 0) = ['-'] := by rw [decide_eq_true negative]; rfl
    rw [if_pos minus]
    omega
  · have unsigned : Fixed.sign (value < 0) ≠ ['-'] := by rw [decide_eq_false negative]; decide
    rw [if_neg unsigned]
    omega

end Scientific

namespace Readout

open Numeral (Operand written?)

/-- A number of units of the last plain place, written plainly. -/
def plainOperand (negative : Bool) (units : Nat) : Operand :=
  trimmedOperand negative plainPlaces units none

/-- A rounded number, written in scientific notation. -/
def scientificOperand (negative : Bool) (rounded : Scientific.Rounded) : Operand :=
  trimmedOperand negative scientificPlaces rounded.significand
    (some (Scientific.exponent rounded.exponent))

/-- The result in units of the last plain place. -/
def plainUnits (r : Ratio) : Nat :=
  (r.scale 10 plainPlaces).nearest

theorem value_scale_plainPlaces (r : Ratio) :
    (r.scale 10 plainPlaces).value = r.value * 10 ^ 5 := by
  rw [Ratio.value_scale]
  norm_num [plainPlaces]

/-- A number of units is off by at most half of one. -/
theorem abs_plainUnits_sub_le (r : Ratio) :
    |(plainUnits r : ℚ) / 10 ^ 5 - r.value| ≤ 1 / 200000 := by
  have close := r.abs_nearest_scale_sub_le Ratio.ten_pos plainPlaces
  have place : ((10 : Nat) : ℚ) ^ (-plainPlaces : Int) = 1 / 10 ^ 5 := by norm_num [plainPlaces]
  rw [place] at close
  calc |(plainUnits r : ℚ) / 10 ^ 5 - r.value| = |(plainUnits r : ℚ) * (1 / 10 ^ 5) - r.value| := by
        rw [mul_one_div]
    _ ≤ 1 / 10 ^ 5 / 2 := close
    _ = 1 / 200000 := by norm_num

/-- Whether a number of units is shown plainly: it is not zero, and its text is short. -/
structure ShownPlain (negative : Bool) (units : Nat) : Prop where
  visible : units ≠ 0
  short : (plainOperand negative units).text.length ≤ plainWidth

section Operands

variable (negative : Bool)

theorem text_plainOperand (r : Ratio) :
    (plainOperand negative (plainUnits r)).text =
      Fixed.sign negative ++ Fixed.trimFraction (Fixed.write plainPlaces false r) :=
  text_trimmedOperand_plain plainPlaces negative r

theorem text_scientificOperand (r : Ratio) :
    (scientificOperand negative (Scientific.round scientificPlaces r)).text =
      Scientific.write scientificPlaces negative r :=
  text_trimmedOperand_scientific scientificPlaces negative r

theorem magnitude_plainOperand (units : Nat) :
    (plainOperand negative units).spelling.magnitude = units / 10 ^ 5 := by
  rw [plainOperand, trimmedOperand, Fixed.magnitude_spelling units (by decide), div_eq_mul_inv]
  rfl

theorem magnitude_scientificOperand (rounded : Scientific.Rounded) :
    (scientificOperand negative rounded).spelling.magnitude =
      rounded.value scientificPlaces := by
  rw [scientificOperand, trimmedOperand, Fixed.magnitude_spelling rounded.significand (by decide),
    Scientific.exponentValue_exponent, Scientific.Rounded.value]

/-- No units are written as a single zero, and nothing else is. -/
theorem trimFraction_write_eq_zero_iff (r : Ratio) :
    Fixed.trimFraction (Fixed.write plainPlaces false r) = ['0'] ↔ plainUnits r = 0 := by
  have text := text_plainOperand false r
  rw [Fixed.sign, if_neg Bool.false_ne_true, List.nil_append] at text
  rw [← text]
  constructor
  · intro zero
    have writes := Numeral.written?_text (plainOperand false (plainUnits r))
    rw [zero, Numeral.written?_zero, magnitude_plainOperand, Option.some_inj] at writes
    have nothing := (signed_eq_zero_iff _ _).1 writes.symm
    exact_mod_cast (div_eq_zero_iff.1 nothing).resolve_right (by norm_num)
  · intro zero
    rw [zero]
    decide

/-- Which of its two texts a finite result shows. -/
theorem finiteResult_cases (r : Ratio) :
    (ShownPlain negative (plainUnits r) ∧
        finiteResult negative r = (plainOperand negative (plainUnits r)).text) ∨
      (¬ShownPlain negative (plainUnits r) ∧
        finiteResult negative r =
          (scientificOperand negative (Scientific.round scientificPlaces r)).text) := by
  have plain := text_plainOperand negative r
  unfold finiteResult
  simp only
  split
  · rename_i fits
    exact .inl ⟨⟨mt (trimFraction_write_eq_zero_iff r).2 fits.2, plain ▸ fits.1⟩, plain.symm⟩
  · rename_i wide
    refine .inr ⟨fun shown => wide ?_, (text_scientificOperand negative r).symm⟩
    exact ⟨plain ▸ shown.short, mt (trimFraction_write_eq_zero_iff r).1 shown.visible⟩

end Operands

/-- A finite value is shown as a zero or as a finite result. -/
theorem result_of_view {x : Float} {negative : Bool} {significand : Nat} {exponent : Int}
    (finite : Binary.view x = .finite negative significand exponent) :
    result x = if significand = 0 then ['0']
      else finiteResult negative (Binary.magnitude significand exponent) := by
  rw [result, finite]

end Readout

end Keypad
