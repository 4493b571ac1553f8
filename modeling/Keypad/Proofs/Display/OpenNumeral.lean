import Keypad.Proofs.Display.Undoing
import Keypad.Proofs.Expression.Roles

/-!
# The numeral being typed

Whether a point may be typed is decided on the numeral at the end of the line, which is found by
looking back from there. The scanner finds its last numeral reading forward. They agree on every
text that can be scanned (`Entry.openNumeral_of_ofText`), since both find the numeral that the
roles of the characters make out; only the minus that opens a numeral is the scanner's alone.
-/

namespace Keypad

open Scanner (Reads alphabet numeralAt numeralReversed role)

/-- A numeral without the minus it may start with. -/
def Numeral.withoutMinus : Text → Text
  | '-' :: rest => rest
  | text => text

theorem Numeral.withoutMinus_concat {text : Text} {c : Char} (inside : text ≠ [] ∨ c ≠ '-') :
    withoutMinus (text ++ [c]) = withoutMinus text ++ [c] := by
  unfold withoutMinus
  cases text with
  | nil => simp_all
  | cons first rest => by_cases minus : first = '-' <;> simp_all

namespace Entry

open Numeral (withoutMinus withoutMinus_concat)

section Back

variable {front : Text}

/-- Looking back ends at an operator character that is not the sign of an exponent. -/
theorem openNumeral_reverse_cons (front : Text) (c : Char) :
    openNumeral (c :: front).reverse =
      if Operator.isSymbol c ∧ ¬(endsInExponentLetter front ∧ isSign c) then []
      else openNumeral front.reverse ++ [c] := by
  rw [openNumeral, openNumeral, List.reverse_reverse, List.reverse_reverse, openNumeralReversed]
  cases Operator.isSymbol c <;> cases isSign c <;> cases endsInExponentLetter front <;> simp

/-- An exponent letter belongs to a numeral. -/
theorem numeralAt_ne_nil_of_endsInExponentLetter (mark : endsInExponentLetter front) :
    numeralAt front ≠ [] := by
  cases front with
  | nil => cases mark
  | cons letter front =>
      rw [Scanner.numeralAt_cons (Scanner.role_eq_numeral_iff.2 (.inr (.inl mark)))]
      exact List.append_ne_nil_of_right_ne_nil _ (List.cons_ne_nil _ _)

/-- Looking back from the end of a text finds the numeral there, but for its minus. -/
theorem openNumeral_reverse_eq (legal : ∀ c ∈ front, c ∈ alphabet) :
    openNumeral front.reverse = withoutMinus (numeralAt front) := by
  induction front with
  | nil => rfl
  | cons c front inductionHypothesis =>
      obtain ⟨isLegal, legalFront⟩ := List.forall_mem_cons.1 legal
      have before := inductionHypothesis legalFront
      rw [openNumeral_reverse_cons, before]
      cases found : role front c with
      | foreign => exact absurd isLegal (Scanner.role_eq_foreign_iff.1 found)
      | operator =>
          obtain ⟨symbol, outside⟩ := Scanner.role_eq_operator_iff.1 found
          have noMark : ¬(endsInExponentLetter front ∧ isSign c) := fun mark =>
            outside (Scanner.role_eq_numeral_iff.2 (.inr (.inr (.inl mark))))
          rw [if_pos ⟨symbol, noMark⟩, numeralAt, numeralReversed, if_neg outside]
          rfl
      | numeral =>
          rw [Scanner.numeralAt_cons found]
          by_cases symbol : Operator.isSymbol c
          · rcases Scanner.role_eq_numeral_iff.1 found with digit | letter | mark | ⟨mayStart, rfl⟩
            · simp [Scanner.isNumeralChar_of_isSymbol symbol] at digit
            · simp [isExponentLetter_of_isSymbol symbol] at letter
            · have opened := numeralAt_ne_nil_of_endsInExponentLetter mark.1
              rw [if_neg (fun ends => ends.2 mark), withoutMinus_concat (.inl opened)]
            · -- The minus that opens a numeral ends the look back.
              obtain ⟨-, noMark⟩ := Scanner.numeralReversed_of_operandMayStart mayStart
              rw [if_pos ⟨rfl, by simp [noMark]⟩, Scanner.numeralAt_of_operandMayStart mayStart]
              rfl
          · have noMinus : c ≠ '-' := by
              rintro rfl
              exact symbol rfl
            rw [if_neg (fun ends => symbol ends.1), withoutMinus_concat (.inr noMinus)]

end Back

/-- On a text that can be scanned and does not end in an operator, the last token is the numeral
that is open there. -/
theorem openNumeral_of_ofText {line : Text} {tokens : List Token}
    (scanned : Token.ofText line = .ok tokens) (nonempty : line ≠ [])
    (complete : ¬AwaitsOperand line) :
    ∃ earlier text, tokens = earlier ++ [.numeral text] ∧
      openNumeral line = withoutMinus text := by
  obtain ⟨front, rfl⟩ : ∃ front, line = List.reverse front :=
    ⟨line.reverse, (List.reverse_reverse line).symm⟩
  obtain ⟨scanner, reads⟩ : ∃ scanner, Reads front scanner := by
    rw [← List.append_nil front.reverse] at scanned
    simpa using Scanner.exists_reads_of_tokensFrom .start scanned
  obtain ⟨handedOut, run⟩ := reads.exists_ofText
  have ending := run []
  rw [List.append_nil, scanned] at ending
  cases reads.holds with
  | noNumeral isOpen mayStart =>
      cases front with
      | nil => exact absurd rfl nonempty
      | cons last front =>
          have operator : role front last = .operator := by simpa using mayStart
          refine absurd ⟨last, ?_, (Scanner.role_eq_operator_iff.1 operator).1⟩ complete
          simp
  | numeral goesOn _ =>
      cases onEnd : (Scanner.inNumeral (numeralAt front)
          (endsInExponentLetter front)).tokensFrom [] with
      | error fault =>
          rw [onEnd] at ending
          cases ending
      | ok last =>
          obtain ⟨rfl, -⟩ := Scanner.tokensFrom_nil_eq_ok onEnd
          rw [onEnd] at ending
          cases ending
          exact ⟨handedOut, _, rfl, openNumeral_reverse_eq reads.mem_alphabet⟩

/-- A line in the grammar that does not end in an operator can be scanned. -/
theorem exists_ofText_eq {line : Text} (isLine : IsLine line) (complete : ¬AwaitsOperand line) :
    ∃ tokens, Token.ofText line = .ok tokens := by
  have opened := mt (openNumeral_eq_nil_iff isLine).1 complete
  cases isLine with
  | sign => exact absurd rfl opened
  | operator regular op => exact absurd (openNumeral_of_opens (.operator regular op)) opened
  | operatorSign regular other =>
      exact absurd (openNumeral_of_opens (.operatorSign regular other)) opened
  | @complete chain _ => exact ⟨_, chain.ofText_text⟩

end Entry

namespace Display

/-- On a reachable display that waits for no reset, the numeral that is open on the line is the
last numeral the scanner finds there, without its minus. Behind an operator none is open. -/
theorem Reachable.openNumeral_buffer {display : Display} (reachable : Reachable display)
    (noConversion : display.flags.conversion = false) (noError : display.flags.error = false) :
    (¬Entry.AwaitsOperand display.buffer →
      ∃ earlier text, Token.ofText display.buffer = .ok (earlier ++ [.numeral text]) ∧
        Entry.openNumeral display.buffer = Numeral.withoutMinus text) ∧
    (Entry.AwaitsOperand display.buffer → Entry.openNumeral display.buffer = []) := by
  have noReset : display.flags.needsReset = false := by
    simp [Flags.needsReset, noConversion, noError]
  have isLine := reachable.sound.isLine noReset
  refine ⟨fun complete => ?_, (Entry.openNumeral_eq_nil_iff isLine).2⟩
  obtain ⟨tokens, scanned⟩ := Entry.exists_ofText_eq isLine complete
  obtain ⟨earlier, text, rfl, opened⟩ :=
    Entry.openNumeral_of_ofText scanned isLine.ne_nil complete
  exact ⟨earlier, text, scanned, opened⟩

/-- `-1÷4000000` is shown as `-2.5e-7`. The first minus is the scanner's alone, and the second is
part of the numeral for both. Behind one more operator no numeral is open. -/
theorem openNumeral_buffer_scientific :
    ∃ display next : Display, Reachable display ∧ Reachable next ∧
      display.buffer = "-2.5e-7".toList ∧ next.buffer = "-2.5e-7×".toList ∧
      (∃ earlier text, Token.ofText "-2.5e-7".toList = .ok (earlier ++ [.numeral text]) ∧
        Entry.openNumeral "-2.5e-7".toList = Numeral.withoutMinus text) ∧
      Entry.openNumeral "-2.5e-7".toList = "2.5e-7".toList ∧
      Entry.openNumeral "-2.5e-7×".toList = [] := by
  let keys : List Key := [.operator .sub, .digit 1, .operator .div, .digit 4, .digit 0, .digit 0,
    .digit 0, .digit 0, .digit 0, .digit 0, .evaluate]
  let display : Display := ⟨"-2.5e-7".toList, "-1÷4000000".toList, ⟨true, false, false⟩, false⟩
  let next : Display := ⟨"-2.5e-7×".toList, "-1÷4000000".toList, .none, false⟩
  have pressed : initial.pressAll keys = .ok display := by decide +kernel
  have reachable := Reachable.initial.pressAll pressed
  have pressedNext : display.press (.operator .mul) = .ok (next, none) := rfl
  have numeral := (reachable.openNumeral_buffer rfl rfl).1
  have closed := ((reachable.press pressedNext).openNumeral_buffer rfl rfl).2
  refine ⟨display, next, reachable, reachable.press pressedNext, rfl, rfl, numeral ?_, by decide,
    closed ⟨'×', rfl, rfl⟩⟩
  rintro ⟨_, ⟨⟩, symbol⟩
  cases symbol

end Display

end Keypad
