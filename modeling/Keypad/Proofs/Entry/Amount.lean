import Keypad.Proofs.Display.Typing
import Keypad.Proofs.Entry.Exclusions
import Keypad.Proofs.Expression.Acceptance

/-!
# The amount a line offers

The amount that a conversion starts from is read off the line by a reader of its own: the first
word of the line as a numeral. It agrees with the evaluator. A line in the grammar has no blanks,
so its first word is the whole line, and the line is a numeral exactly when the scanner finds a
single numeral on it; any other line offers nothing.
-/

namespace Keypad

open Numeral (Operand Spelling isDigit)

namespace Entry

/-- The characters of a line in the grammar. -/
def IsWritten (c : Char) : Prop :=
  IsTyped c ∨ c = 'e'

theorem IsWritten.isBlank {c : Char} (written : IsWritten c) : Text.isBlank c = false := by
  rcases written with typed | rfl
  · exact typed.isBlank
  · rfl

/-- A line is written in the displayed form of its operators. -/
theorem IsWritten.displayedChar_eq {c : Char} (written : IsWritten c) :
    Token.displayedChar c = c := by
  rcases written with (digit | rfl | ⟨op, rfl⟩) | rfl
  · have star : c ≠ '*' := Numeral.ne_of_isDigit digit rfl
    have slash : c ≠ '/' := Numeral.ne_of_isDigit digit rfl
    rw [Token.displayedChar_eq, if_neg star, if_neg slash]
  · rfl
  · cases op <;> rfl
  · rfl

theorem isWritten_of_mem_text {operand : Operand} (regular : operand.spelling.Regular) :
    ∀ c ∈ operand.text, IsWritten c := by
  obtain ⟨negative, whole, places, exponent, wholeRun, placesRun, hasDigit⟩ := operand
  let unscaled : Operand := ⟨negative, whole, places, none, wholeRun, placesRun, hasDigit⟩
  have plain : unscaled.Plain := rfl
  have onUnscaled : ∀ c ∈ unscaled.text, IsWritten c := fun c member =>
    .inl (isTyped_of_mem_text plain c member)
  cases exponent with
  | none => exact onUnscaled
  | some exponent =>
      obtain ⟨small, noPlus⟩ := regular.2 exponent rfl
      obtain ⟨letter, sign, digits, isLetter, isSign, nonempty, run⟩ := exponent
      intro c member
      have split : c ∈ unscaled.text ∨ c = letter ∨ c ∈ sign ∨ c ∈ digits := by
        simpa [unscaled, Operand.text, Spelling.text, Spelling.fraction, Numeral.exponentText,
          Numeral.Exponent.text, Numeral.Exponent.mark, or_assoc] using member
      rcases split with before | rfl | signs | digit
      · exact onUnscaled c before
      · exact .inr small
      · rcases isSign with rfl | rfl | rfl
        · cases signs
        · exact absurd rfl noPlus
        · exact .inl (.inr (.inr ⟨.sub, List.mem_singleton.1 signs⟩))
      · exact .inl (.inl (run c digit))

theorem isWritten_symbol (op : Operator) : IsWritten op.symbol :=
  .inl (.inr (.inr ⟨op, rfl⟩))

theorem isWritten_of_mem_line {chain : Chain Operand} (regular : chain.Regular) :
    ∀ c ∈ chain.line, IsWritten c := by
  induction chain using Chain.push_induction with
  | single operand =>
      rw [Chain.line_single]
      exact isWritten_of_mem_text (regular.spelled operand (List.mem_cons_self ..))
  | push chain op operand inductionHypothesis =>
      obtain ⟨earlier, spelled, -⟩ := Chain.regular_push_iff.1 regular
      intro c member
      rw [Chain.line_push, List.mem_append, List.mem_cons] at member
      rcases member with member | rfl | member
      · exact inductionHypothesis earlier c member
      · exact isWritten_symbol op
      · exact isWritten_of_mem_text spelled c member

section Line

variable {line : Text} (isLine : IsLine line)

include isLine

theorem IsLine.isWritten : ∀ c ∈ line, IsWritten c := by
  have minus : IsWritten '-' := isWritten_symbol .sub
  intro c member
  cases isLine with
  | sign => exact List.mem_singleton.1 member ▸ minus
  | complete regular => exact isWritten_of_mem_line regular c member
  | operator regular op =>
      rcases List.mem_append.1 member with member | member
      · exact isWritten_of_mem_line regular c member
      · exact List.mem_singleton.1 member ▸ isWritten_symbol op
  | @operatorSign chain regular op other =>
      rw [List.mem_append, List.mem_cons, List.mem_singleton] at member
      rcases member with member | rfl | rfl
      · exact isWritten_of_mem_line regular c member
      · exact isWritten_symbol op
      · exact minus

/-- The first word of a line is the line. -/
theorem leadingAmount_eq : leadingAmount line = (Numeral.read? line).getD 0 := by
  rw [leadingAmount, Text.firstWord_of_forall fun c member => (isLine.isWritten c member).isBlank]

theorem displayed_eq : Token.displayed line = line := by
  have same : ∀ c ∈ line, Token.displayedChar c = c := fun c member =>
    (isLine.isWritten c member).displayedChar_eq
  exact (List.map_congr_left same).trans (List.map_id _)

/-- A line starts with the digits of an operand, perhaps behind a minus, unless it is a minus. -/
theorem exists_eq_sign_append :
    line = ['-'] ∨ ∃ negative c rest, line = Fixed.sign negative ++ c :: rest ∧
      (isDigit c ∨ c = '.') := by
  have onChain (chain : Chain Operand) (after : Text) : ∃ negative c rest,
      chain.line ++ after = Fixed.sign negative ++ c :: rest ∧ (isDigit c ∨ c = '.') := by
    obtain ⟨later, equal⟩ := exists_line_eq_append chain
    obtain ⟨c, rest, text, starts⟩ := chain.first.spelling.exists_text_eq_cons
    refine ⟨chain.first.negative, c, rest ++ later ++ after, ?_, starts⟩
    simp [equal, Operand.text, text]
  cases isLine with
  | sign => exact .inl rfl
  | @complete chain regular => exact .inr (by simpa only [List.append_nil] using onChain chain [])
  | @operator chain regular op => exact .inr (onChain chain _)
  | @operatorSign chain regular op other => exact .inr (onChain chain _)

/-- A line that is a numeral is scanned as that numeral. -/
theorem ofText_of_read? (reads : (Numeral.read? line).isSome) :
    Token.ofText line = .ok [.numeral line] := by
  have starts := (exists_eq_sign_append isLine).resolve_left fun minus => by
    rw [minus] at reads
    exact absurd reads (by decide)
  obtain ⟨operand, rfl⟩ := (Numeral.isDecimal_iff line).1 ⟨reads, starts⟩
  exact operand.ofText_text

/-- The amount that a line offers is its value if it is scanned as a single numeral, and
nothing otherwise. -/
theorem leadingAmount_of_ofText :
    (∀ text, Token.ofText line = .ok [.numeral text] →
        Expression.evaluate line = .ok (leadingAmount line)) ∧
      ((∀ text, Token.ofText line ≠ .ok [.numeral text]) → leadingAmount line = 0) := by
  rw [leadingAmount_eq isLine]
  constructor
  · intro text scanned
    have whole : text = line := by
      have shown := Scanner.renderAll_of_tokensFrom scanned
      simpa [Scanner.held, Token.render, displayed_eq isLine] using shown
    subst whole
    obtain ⟨value, reads⟩ := Option.isSome_iff_exists.1
      (Expression.isSome_read?_of_ofText scanned (List.mem_singleton_self _))
    have readable : Numeral.read? text = some value := reads
    rw [Expression.evaluate_of_ofText scanned, Postfix.order_numeral,
      Expression.evaluatePostfix_numeral reads, readable, Option.getD_some]
  · intro other
    cases reads : Numeral.read? line with
    | none => rfl
    | some value => exact absurd (ofText_of_read? isLine (by simp [reads])) (other line)

end Line

end Entry

end Keypad
