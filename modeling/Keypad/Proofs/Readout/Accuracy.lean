import Keypad.Proofs.Number.Sign
import Keypad.Proofs.Readout.Notation

/-!
# Accuracy of results

A readout writes a decimal number, which is compared here with the number that the double
stands for. Both are exact: `Numeral.written?` is what the digits say, before any rounding to a
double, and `Binary.number?` is what the bits say.

Rounding is the only inexact step. A plain result is rounded at its last place, so its error is
bounded by a constant; one in scientific notation is rounded at its third place behind the
leading digit, so its error is bounded in proportion to the value. What follows the rounding,
leaving out zeros at the end and moving on to the next power of ten, does not change the number.
-/

namespace Keypad

namespace Binary

/-- The number that a finite double stands for. -/
def number? (x : Float) : Option ℚ :=
  match view x with
  | .finite negative significand exponent => some (signed negative (significand * 2 ^ exponent))
  | .infinite _ | .notANumber => none

theorem num_magnitude_pos {significand : Nat} (positive : 0 < significand) (exponent : Int) :
    0 < (magnitude significand exponent).num := by
  cases exponent <;> simp [magnitude, Ratio.scale, Ratio.ofNat, positive]

/-- A finite double is a zero when its significand is. -/
theorem isZero_iff_of_view {x : Float} {negative : Bool} {significand : Nat} {exponent : Int}
    (finite : view x = .finite negative significand exponent) : IsZero x ↔ significand = 0 := by
  rw [view_eq_ofUnpacked] at finite
  unfold IsZero
  cases unpacked : x.toModel.unpack with
  | notANumber | infinity sign =>
      rw [unpacked] at finite
      cases finite
  | zero sign =>
      rw [unpacked] at finite
      cases finite
      simp
  | finite sign mantissa power positive =>
      rw [unpacked] at finite
      cases finite
      simp [positive.ne']

end Binary

namespace Readout

open Numeral (written? written?_zero)

/-- How far a text may be off the number that it shows: half a unit of the last place of a
plain text, and as much of the number as one in two thousand for a text with an exponent. -/
def tolerance (text : Text) (value : ℚ) : ℚ :=
  if 'e' ∈ text then |value| / 2000 else 1 / 200000

theorem tolerance_of_mem {text : Text} (scientific : 'e' ∈ text) (value : ℚ) :
    tolerance text value = |value| / 2000 :=
  if_pos scientific

theorem tolerance_of_notMem {text : Text} (plain : 'e' ∉ text) (value : ℚ) :
    tolerance text value = 1 / 200000 :=
  if_neg plain

section Finite

variable (negative : Bool) {r : Ratio} (positive : 0 < r.num)

/-- A plain text has no exponent letter. -/
theorem notMem_text_plainOperand (units : Nat) : 'e' ∉ (plainOperand negative units).text := by
  intro member
  have plain : (plainOperand negative units).Plain := rfl
  rcases Entry.isTyped_of_mem_text plain 'e' member with digit | point | ⟨op, symbol⟩
  · revert digit
    decide
  · revert point
    decide
  · cases op <;> revert symbol <;> decide

include positive

theorem value_pos_of_num_pos : 0 < r.value :=
  div_pos (Nat.cast_pos.2 positive) r.den_value_pos

/-- A finite result other than zero is shown as a number other than zero, with its sign and
within the tolerance. -/
theorem exists_written_finiteResult :
    ∃ magnitude : ℚ, written? (finiteResult negative r) = some (signed negative magnitude) ∧
      0 < magnitude ∧ |magnitude - r.value| ≤ tolerance (finiteResult negative r) r.value := by
  rcases finiteResult_cases negative r with ⟨shown, text⟩ | ⟨-, text⟩
  · rw [text, Numeral.written?_text, tolerance_of_notMem (notMem_text_plainOperand negative _),
      magnitude_plainOperand]
    refine ⟨_, rfl, ?_, abs_plainUnits_sub_le r⟩
    exact div_pos (Nat.cast_pos.2 (Nat.pos_of_ne_zero shown.visible)) (by norm_num)
  · have marked : 'e' ∈ finiteResult negative r := by
      rw [text, text_scientificOperand]
      simp [Scientific.write]
    have close := Scientific.abs_round_sub_le scientificPlaces positive
    rw [tolerance_of_mem marked, text, Numeral.written?_text, magnitude_scientificOperand,
      abs_of_pos (value_pos_of_num_pos positive)]
    refine ⟨_, rfl, (Scientific.normal_round scientificPlaces positive).value_pos, ?_⟩
    norm_num [scientificPlaces] at close ⊢
    exact close

end Finite

@[simp] theorem tolerance_signed (text : Text) (negative : Bool) (value : ℚ) :
    tolerance text (signed negative value) = tolerance text value := by
  rw [tolerance, tolerance, abs_signed]

/-- A finite double is a zero, or it is shown by its sign and a positive ratio. -/
theorem result_cases {x : Float} {value : ℚ} (stands : Binary.number? x = some value) :
    (Binary.IsZero x ∧ value = 0 ∧ result x = ['0']) ∨
      ¬Binary.IsZero x ∧ ∃ negative r, 0 < r.num ∧ value = signed negative r.value ∧
        result x = finiteResult negative r := by
  unfold Binary.number? at stands
  unfold result
  cases view : Binary.view x with
  | notANumber | infinite negative =>
      rw [view] at stands
      cases stands
  | finite negative significand exponent =>
      rw [view] at stands
      have stands := (Option.some.inj stands).symm
      rw [Binary.isZero_iff_of_view view]
      by_cases zero : significand = 0
      · refine .inl ⟨zero, ?_, if_pos zero⟩
        rw [stands, zero, signed_eq_zero_iff, Nat.cast_zero, zero_mul]
      · refine .inr ⟨zero, negative, Binary.magnitude significand exponent, ?_, ?_, if_neg zero⟩
        · exact Binary.num_magnitude_pos (Nat.pos_of_ne_zero zero) exponent
        · rw [stands, Binary.value_magnitude]

/-- A finite double is shown as a decimal number within the tolerance, which is zero when the
double is a zero, and has the sign of the double. Only zeros are shown as `0`. The zeros that
are left out at the end of a number do not change it. -/
theorem result_accuracy {x : Float} {value : ℚ} (stands : Binary.number? x = some value) :
    (∃ shown, written? (result x) = some shown ∧ |shown - value| ≤ tolerance (result x) value ∧
        (shown = 0 ↔ Binary.IsZero x) ∧ SignType.sign shown = SignType.sign value) ∧
      (result x = ['0'] ↔ Binary.IsZero x) ∧
      ∀ places scaled : Nat,
        written? (Fixed.trimFraction (Fixed.writeScaled places scaled)) =
          written? (Fixed.writeScaled places scaled) := by
  rcases result_cases stands with ⟨isZero, rfl, text⟩ | ⟨notZero, negative, r, positive, rfl, text⟩
  · have exact : |(0 : ℚ) - 0| ≤ tolerance ['0'] 0 := by
      rw [tolerance_of_notMem (by decide)]
      norm_num
    rw [text]
    exact ⟨⟨0, written?_zero, exact, iff_of_true rfl isZero, rfl⟩, iff_of_true rfl isZero,
      Fixed.written?_trimFraction⟩
  · obtain ⟨magnitude, writes, shownPositive, close⟩ := exists_written_finiteResult negative positive
    have shownNotZero : signed negative magnitude ≠ 0 :=
      mt (signed_eq_zero_iff negative magnitude).1 shownPositive.ne'
    have notWrittenZero : finiteResult negative r ≠ ['0'] := by
      intro zero
      rw [zero, written?_zero] at writes
      exact shownNotZero (Option.some.inj writes).symm
    rw [text]
    refine ⟨⟨_, writes, ?_, iff_of_false shownNotZero notZero, ?_⟩,
      iff_of_false notWrittenZero notZero, Fixed.written?_trimFraction⟩
    · rwa [abs_signed_sub, tolerance_signed]
    · exact sign_signed_eq negative shownPositive (value_pos_of_num_pos positive)

/-- Rounding moves the significand of this number on to the next power of ten. -/
theorem result_accuracy_carried :
    let x : Float := -9999510000
    Binary.number? x = some (-9999510000) ∧ result x = "-1e10".toList ∧
      ∃ shown, written? (result x) = some shown ∧
        |shown - -9999510000| ≤ tolerance (result x) (-9999510000) ∧
          SignType.sign shown = SignType.sign (-9999510000 : ℚ) := by
  intro x
  have view : Binary.view x = .finite true 5242623098880000 (-19) := by decide +kernel
  have stands : Binary.number? x = some (-9999510000) := by
    rw [Binary.number?, view]
    norm_num [signed]
  obtain ⟨⟨shown, writes, close, -, sign⟩, -⟩ := result_accuracy stands
  exact ⟨stands, by decide +kernel, shown, writes, close, sign⟩

end Readout

end Keypad
