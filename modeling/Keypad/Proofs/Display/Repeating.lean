import Keypad.Proofs.Display.Soundness
import Keypad.Proofs.Readout.Rereading

/-!
# Evaluating a result again

A shown result is an expression of its own, so the evaluation key can be pressed again. The number
on the line stays the same, though its notation may change, apart from two results and their
negatives: one is rounded on to the next number, and one is too large to be read back.
-/

namespace Keypad

open Numeral (Operand written?)
open Readout (result greatest belowPlain plainOperand scientificOperand
  text_scientificOperand_belowPlain text_scientificOperand_greatest)

namespace Display

/-- A result is evaluated as it stands. -/
theorem expression_result {x : Float} (finite : Binary.isFinite x) :
    Entry.expression (result x) = result x := by
  obtain ⟨operand, regular, text⟩ := Readout.exists_operand_result finite
  rw [text, ← Chain.line_single]
  exact Entry.expression_line (Chain.regular_single regular)

/-- The greatest result below the plain ones is read as a double that is shown plainly. -/
theorem value_belowPlain (negative : Bool) :
    Binary.isFinite (scientificOperand negative ⟨5000, -6⟩).value ∧
      result (scientificOperand negative ⟨5000, -6⟩).value =
        Fixed.sign negative ++ "0.00001".toList := by
  cases negative <;> decide +kernel

/-- The greatest result is read as an infinity. -/
theorem value_greatest (negative : Bool) :
    (scientificOperand negative ⟨1798, 308⟩).value.isInf ∧
      result (scientificOperand negative ⟨1798, 308⟩).value =
        Fixed.sign negative ++ "Infinity".toList := by
  cases negative <;> decide +kernel

/-- Evaluating a shown result again shows a finite result that is the same number, unless the
result is one of two. The greatest result that is not shown plainly for being too small is rounded
on to the smallest plain result, and the greatest result becomes an infinity. -/
theorem press_evaluate_result {x : Float} (finite : Binary.isFinite x) :
    ∃ value, Expression.evaluate (result x) = .ok value ∧
      (∀ display : Display, display.buffer = result x → display.flags.needsReset = false →
        ∃ next, display.press .evaluate = .ok (next, none) ∧ next.buffer = result value ∧
          (next.flags.error ↔ ¬Binary.isFinite value)) ∧
      ((∀ negative, result x ≠ belowPlain negative ∧ result x ≠ greatest negative) →
        Binary.isFinite value ∧
          ∃ shown, written? (result x) = some shown ∧ written? (result value) = some shown) ∧
      ∀ negative,
        (result x = belowPlain negative →
          Binary.isFinite value ∧ result value = Fixed.sign negative ++ "0.00001".toList) ∧
        (result x = greatest negative →
          value.isInf ∧ result value = Fixed.sign negative ++ "Infinity".toList) := by
  obtain ⟨operand, -, text⟩ := Readout.exists_operand_result finite
  have evaluated : Expression.evaluate (result x) = .ok operand.value :=
    text ▸ operand.evaluate_text
  refine ⟨operand.value, evaluated, ?_, ?_, fun negative => ⟨?_, ?_⟩⟩
  · intro display buffer noReset
    have noError : display.flags.error = false := (Bool.or_eq_false_iff.1 noReset).2
    have valued : Expression.evaluate (Entry.expression display.buffer) = .ok operand.value := by
      rw [buffer, expression_result finite, evaluated]
    refine ⟨_, press_evaluate noReset valued, rfl, ?_⟩
    simp [showResult, noError]
  · intro others
    have stable := Readout.isStable_of_result finite text (fun negative => (others negative).1)
      fun negative => (others negative).2
    have shown := Numeral.written?_text operand
    exact ⟨stable.isFinite, _, text ▸ shown, stable.written_eq.trans shown⟩
  · intro below
    have same := (text_scientificOperand_belowPlain negative).trans (below.symm.trans text)
    exact Readout.value_eq_of_text same ▸ value_belowPlain negative
  · intro great
    have same := (text_scientificOperand_greatest negative).trans (great.symm.trans text)
    exact Readout.value_eq_of_text same ▸ value_greatest negative

/-- A result in scientific notation is shown plainly the second time. -/
theorem press_evaluate_result_plainly :
    let x := Binary.ofDecimal false 123456789123 (-3)
    let display : Display :=
      ⟨"1.235e8".toList, "123456789.123".toList, ⟨true, false, false⟩, false⟩
    Binary.isFinite x ∧ result x = display.buffer ∧
      ∃ next, display.press .evaluate = .ok (next, none) ∧ next.flags.error = false ∧
        next.buffer = "123500000".toList ∧
          ∃ shown, written? display.buffer = some shown ∧ written? next.buffer = some shown := by
  intro x display
  have finite : Binary.isFinite x := by decide +kernel
  have buffer : result x = display.buffer := by decide +kernel
  obtain ⟨value, evaluated, pressed, again, -⟩ := press_evaluate_result finite
  obtain ⟨next, press, line, error⟩ := pressed display buffer.symm rfl
  obtain ⟨isFinite, shown, first, second⟩ := again (by rw [buffer]; decide)
  have read : Expression.evaluate (result x) = .ok (Binary.ofDecimal false 1235 5) := by
    decide +kernel
  cases read.symm.trans evaluated
  have noError : next.flags.error = false := by simpa [isFinite] using error
  exact ⟨finite, buffer, next, press, noError, line.trans (by decide +kernel), shown,
    buffer ▸ first, line ▸ second⟩

/-- What is shown of a double below five millionths is another number when it is evaluated. -/
theorem not_forall_result_evaluate :
    ¬∀ x : Float, Binary.isFinite x → ∃ value, Expression.evaluate (result x) = .ok value ∧
      Binary.isFinite value ∧
        ∃ shown, written? (result x) = some shown ∧ written? (result value) = some shown := by
  intro all
  let tiny : Operand := scientificOperand false ⟨5000, -6⟩
  have text : result (Binary.ofDecimal false 49999 (-10)) = tiny.text := by decide +kernel
  have plain : result tiny.value = (plainOperand false 1).text := by decide +kernel
  obtain ⟨value, evaluated, -, shown, first, second⟩ :=
    all (Binary.ofDecimal false 49999 (-10)) (by decide +kernel)
  rw [text] at evaluated first
  cases tiny.evaluate_text.symm.trans evaluated
  rw [plain, Numeral.written?_text, Readout.magnitude_plainOperand] at second
  rw [Numeral.written?_text, Readout.magnitude_scientificOperand] at first
  have equal := Option.some.inj (first.trans second.symm)
  norm_num [tiny, signed, scientificOperand, plainOperand, Readout.trimmedOperand,
    Scientific.Rounded.value, Readout.scientificPlaces] at equal

end Display

end Keypad
