import Keypad.Proofs.Entry.Editing

/-!
# What the grammar of the entry line excludes

A line in the grammar is never empty, starts with no operator but a minus, and holds two
operators in a row only as an operator and a sign. No numeral on it has two points or
waits for the digits of its exponent. `tidy_of_isLine` collects these facts.
-/

namespace Keypad.Entry

open Numeral (Operand Spelling Exponent isDigit)

/-- Two neighbours that are both operators are an operator and a sign behind it. -/
def Apart (c d : Char) : Prop :=
  Operator.isSymbol c → Operator.isSymbol d → (c = '+' ∨ c = '×' ∨ c = '÷') ∧ d = '-'

theorem apart_of_not_left {c : Char} (other : Operator.isSymbol c = false) (d : Char) :
    Apart c d := by
  intro symbol
  simp [other] at symbol

theorem apart_of_not_right (c : Char) {d : Char} (other : Operator.isSymbol d = false) :
    Apart c d := by
  intro _ symbol
  simp [other] at symbol

theorem apart_symbol_minus {op : Operator} (other : op ≠ .sub) : Apart op.symbol '-' := by
  intro _ _
  cases op with
  | add => exact ⟨.inl rfl, rfl⟩
  | sub => exact absurd rfl other
  | mul => exact ⟨.inr (.inl rfl), rfl⟩
  | div => exact ⟨.inr (.inr rfl), rfl⟩

theorem isChain_of_forall_not {text : Text} (others : ∀ c ∈ text, Operator.isSymbol c = false) :
    text.IsChain Apart :=
  (List.pairwise_of_forall_mem_list fun c member d _ =>
    apart_of_not_left (others c member) d).isChain

/-- An operator belongs to no spelling but as the sign of an exponent. -/
theorem isChain_text (spelling : Spelling) : spelling.text.IsChain Apart := by
  have significand := isSymbol_of_mem_significand spelling
  refine (isChain_of_forall_not significand).append ?_ fun c member d _ =>
    apart_of_not_left (significand c (List.mem_of_mem_getLast? member)) d
  cases spelling.exponent with
  | none => exact .nil
  | some exponent =>
      obtain ⟨letter, sign, digits, isLetter, isSign, digitsNonempty, digitsRun⟩ := exponent
      have run : ∀ c ∈ digits, Operator.isSymbol c = false := fun c member =>
        isSymbol_of_isDigit (digitsRun c member)
      have notSymbol : Operator.isSymbol letter = false := by
        rcases isLetter with rfl | rfl <;> rfl
      have onDigits (c : Char) : (c :: digits).IsChain Apart :=
        (isChain_of_forall_not run).cons fun d member =>
          apart_of_not_right c (run d (List.mem_of_mem_head? member))
      rcases isSign with rfl | rfl | rfl
      · exact onDigits letter
      · exact (onDigits '+').cons fun d _ => apart_of_not_left notSymbol d
      · exact (onDigits '-').cons fun d _ => apart_of_not_left notSymbol d

/-- A spelling starts with no operator. -/
theorem isSymbol_head?_text {spelling : Spelling} {c : Char} (first : c ∈ spelling.text.head?) :
    Operator.isSymbol c = false := by
  obtain ⟨start, rest, equal, ends⟩ := spelling.exists_text_eq_cons
  rw [equal] at first
  cases first
  exact EndsOperand.isSymbol ends

/-- An operand may stand behind any operator, and with a sign behind others than a minus. -/
theorem isChain_symbol_text {op : Operator} {operand : Operand}
    (signed : operand.negative → op ≠ .sub) : (op.symbol :: operand.text).IsChain Apart := by
  obtain ⟨negative, spelling⟩ := operand
  have onSpelling (c : Char) : (c :: spelling.text).IsChain Apart :=
    (isChain_text spelling).cons fun d member => apart_of_not_right c (isSymbol_head?_text member)
  cases negative with
  | false => exact onSpelling op.symbol
  | true =>
      refine (onSpelling '-').cons fun d member => ?_
      cases member
      exact apart_symbol_minus (signed rfl)

/-- An operator behind a chain leaves the operators apart. -/
theorem isChain_line_append {chain : Chain Operand} (regular : chain.Regular)
    (apart : chain.line.IsChain Apart) {after : Text} (later : after.IsChain Apart) :
    (chain.line ++ after).IsChain Apart := by
  obtain ⟨before, last, equal, ends⟩ := exists_line_eq_concat regular
  refine apart.append later fun c member d _ => ?_
  rw [equal, List.getLast?_concat] at member
  cases member
  exact apart_of_not_left ends.isSymbol d

theorem isChain_line {chain : Chain Operand} (regular : chain.Regular) :
    chain.line.IsChain Apart := by
  induction chain using Chain.push_induction with
  | single operand =>
      rw [Chain.line_single]
      have behind : (Operator.add.symbol :: operand.text).IsChain Apart :=
        isChain_symbol_text fun _ => by decide
      exact behind.tail
  | push chain op operand inductionHypothesis =>
      obtain ⟨earlier, -, signed⟩ := Chain.regular_push_iff.1 regular
      rw [Chain.line_push]
      exact isChain_line_append earlier (inductionHypothesis earlier) (isChain_symbol_text signed)

theorem IsLine.isChain {line : Text} (isLine : IsLine line) : line.IsChain Apart := by
  cases isLine with
  | sign => exact .singleton _
  | complete regular => exact isChain_line regular
  | operator regular op =>
      exact isChain_line_append regular (isChain_line regular) (.singleton _)
  | operatorSign regular other =>
      refine isChain_line_append regular (isChain_line regular) ((List.IsChain.singleton _).cons ?_)
      rintro d ⟨⟩
      exact apart_symbol_minus other

/-- A chain starts with its first operand. -/
theorem exists_line_eq_append (chain : Chain Operand) :
    ∃ after, chain.line = chain.first.text ++ after := by
  obtain ⟨first, rest⟩ := chain
  cases rest with
  | nil => exact ⟨[], by simp⟩
  | cons pair rest => exact ⟨_, Chain.text_cons first.text pair.2.text pair.1 _⟩

/-- The only operator a line starts with is a minus. -/
theorem IsLine.eq_minus_of_mem_head? {line : Text} (isLine : IsLine line) {c : Char}
    (first : c ∈ line.head?) (symbol : Operator.isSymbol c) : c = '-' := by
  have onLine {chain : Chain Operand} (after : Text) (first : c ∈ (chain.line ++ after).head?) :
      c = '-' := by
    obtain ⟨later, equal⟩ := exists_line_eq_append chain
    obtain ⟨start, rest, text, ends⟩ := chain.first.spelling.exists_text_eq_cons
    rw [equal, Operand.text, text] at first
    cases negative : chain.first.negative with
    | true =>
        rw [negative] at first
        cases first
        rfl
    | false =>
        rw [negative] at first
        cases first
        rw [EndsOperand.isSymbol ends] at symbol
        cases symbol
  cases isLine with
  | sign => cases first; rfl
  | complete regular => exact onLine [] (by rwa [List.append_nil])
  | operator regular op => exact onLine _ first
  | operatorSign regular other => exact onLine _ first

/-- A spelling has one point at most. -/
theorem count_point_text_le (spelling : Spelling) : spelling.text.count '.' ≤ 1 := by
  obtain ⟨whole, places, exponent, wholeRun, placesRun, hasDigit⟩ := spelling
  have onDigits {digits : Text} (run : ∀ c ∈ digits, isDigit c) : digits.count '.' = 0 :=
    List.count_eq_zero_of_not_mem fun member => absurd (run '.' member) (by decide)
  have onExponent : (Numeral.exponentText exponent).count '.' = 0 := by
    cases exponent with
    | none => rfl
    | some exponent =>
        obtain ⟨letter, sign, digits, isLetter, isSign, digitsNonempty, digitsRun⟩ := exponent
        simp only [Numeral.exponentText, Option.elim_some, Exponent.text, Exponent.mark,
          List.count_append, onDigits digitsRun]
        rcases isLetter with rfl | rfl <;> rcases isSign with rfl | rfl | rfl <;> rfl
  have onFraction : (places.elim [] ('.' :: ·)).count '.' ≤ 1 := by
    cases places with
    | none => exact Nat.zero_le _
    | some run =>
        have onRun : run.count '.' = 0 := onDigits placesRun
        simp [onRun]
  simp only [Spelling.text, Spelling.fraction, List.count_append, onDigits wholeRun, onExponent]
  omega

/-- What the numerals on a line do not hold: a second point, or an end that waits for
the digits of an exponent. -/
def Finished (numeral : Text) : Prop :=
  numeral.count '.' ≤ 1 ∧ ∃ before last, numeral = before ++ [last] ∧ EndsOperand last

theorem finished_text {operand : Operand} (regular : operand.spelling.Regular) :
    Finished operand.text := by
  obtain ⟨negative, spelling⟩ := operand
  obtain ⟨before, last, equal, ends, -⟩ := exists_precedes_of_regular regular
  refine ⟨?_, Fixed.sign negative ++ before, last, ?_, ends⟩
  · have onSign : (Fixed.sign negative).count '.' = 0 := by cases negative <;> rfl
    rw [Operand.text, List.count_append, onSign, Nat.zero_add]
    exact count_point_text_le spelling
  · rw [Operand.text, equal, List.append_assoc]

/-- The numerals of a line are finished. -/
theorem IsLine.finished {line : Text} (isLine : IsLine line) :
    ∃ tokens, Token.ofText (expression line) = .ok tokens ∧
      ∀ numeral, .numeral numeral ∈ tokens → Finished numeral := by
  obtain ⟨chain, regular, equal⟩ := exists_expression_eq isLine
  refine ⟨(chain.map Operand.text).tokens, ?_, fun numeral member => ?_⟩
  · rw [equal]
    exact chain.ofText_text
  · rw [Chain.numeral_mem_tokens_iff, Chain.operands_map] at member
    obtain ⟨operand, isOperand, rfl⟩ := List.mem_map.1 member
    exact finished_text (regular.spelled operand isOperand)

/-- What the grammar excludes. -/
structure Tidy (line : Text) : Prop where
  nonempty : line ≠ []
  start : ∀ c ∈ line.head?, Operator.isSymbol c → c = '-'
  apart : line.IsChain Apart
  finished : ∃ tokens, Token.ofText (expression line) = .ok tokens ∧
    ∀ numeral, .numeral numeral ∈ tokens → Finished numeral

theorem tidy_of_isLine {line : Text} (isLine : IsLine line) : Tidy line where
  nonempty := isLine.ne_nil
  start _ first symbol := isLine.eq_minus_of_mem_head? first symbol
  apart := isLine.isChain
  finished := isLine.finished

end Keypad.Entry
