import Keypad.Entry
import Keypad.Proofs.Expression.Reading

/-!
# The grammar of the entry line

A line is a minus, or a chain of operands with regular spellings that may have an
operator behind it, and a minus behind that. An operand has a sign only at the start or
behind an operator other than a minus, so no two operators follow each other but as an
operator and a sign.

This module relates the ends of a line to its last operand. How keys change a line is
in `Keypad.Proofs.Entry.Editing`.
-/

namespace Keypad

open Numeral (Operand Spelling Exponent isDigit)

namespace Chain

/-- The chains that can be typed: their spellings are regular, and only behind another
operator than a minus does an operand have a sign. -/
structure Regular (chain : Chain Operand) : Prop where
  spelled : ∀ operand ∈ chain.operands, operand.spelling.Regular
  signed : ∀ pair ∈ chain.rest, pair.2.negative → pair.1 ≠ .sub

/-- A chain of operands as it is written. -/
def line (chain : Chain Operand) : Text :=
  (chain.map Operand.text).text

@[simp] theorem line_single (operand : Operand) : line ⟨operand, []⟩ = operand.text :=
  text_single operand.text

@[simp] theorem line_push (chain : Chain Operand) (op : Operator) (operand : Operand) :
    (chain.push op operand).line = chain.line ++ op.symbol :: operand.text := by
  simp [line]

theorem regular_single {operand : Operand} (regular : operand.spelling.Regular) :
    Regular ⟨operand, []⟩ where
  spelled := by simpa [operands] using regular
  signed := by simp

theorem regular_push_iff {chain : Chain Operand} {op : Operator} {operand : Operand} :
    (chain.push op operand).Regular ↔
      chain.Regular ∧ operand.spelling.Regular ∧ (operand.negative → op ≠ .sub) := by
  have split : (chain.push op operand).operands = chain.operands ++ [operand] := by
    simp [operands, push]
  constructor
  · rintro ⟨spelled, signed⟩
    rw [split] at spelled
    refine ⟨⟨fun other member => ?_, fun pair member => ?_⟩, ?_, ?_⟩
    · exact spelled other (List.mem_append_left _ member)
    · exact signed pair (List.mem_append_left _ member)
    · exact spelled operand (by simp)
    · exact signed (op, operand) (List.mem_append_right _ (List.mem_singleton_self _))
  · rintro ⟨⟨spelled, signed⟩, regular, sign⟩
    refine ⟨fun other member => ?_, fun pair member => ?_⟩
    · rw [split, List.mem_append, List.mem_singleton] at member
      rcases member with member | rfl
      · exact spelled other member
      · exact regular
    · rcases List.mem_append.1 member with member | member
      · exact signed pair member
      · cases List.mem_singleton.1 member
        exact sign

end Chain

namespace Entry

/-- The grammar of the entry line. -/
inductive IsLine : Text → Prop where
  | sign : IsLine ['-']
  | complete {chain : Chain Operand} (regular : chain.Regular) : IsLine chain.line
  | operator {chain : Chain Operand} (regular : chain.Regular) (op : Operator) :
      IsLine (chain.line ++ [op.symbol])
  | operatorSign {chain : Chain Operand} (regular : chain.Regular) {op : Operator}
      (other : op ≠ .sub) : IsLine (chain.line ++ [op.symbol, '-'])

/-- What stands in front of the digits of an operand. -/
inductive Opens : Text → Prop where
  | nothing : Opens []
  | sign : Opens ['-']
  | operator {chain : Chain Operand} (regular : chain.Regular) (op : Operator) :
      Opens (chain.line ++ [op.symbol])
  | operatorSign {chain : Chain Operand} (regular : chain.Regular) {op : Operator}
      (other : op ≠ .sub) : Opens (chain.line ++ [op.symbol, '-'])

theorem Opens.eq_nil_or_isLine {before : Text} (opens : Opens before) :
    before = [] ∨ IsLine before := by
  cases opens with
  | nothing => exact .inl rfl
  | sign => exact .inr .sign
  | operator regular op => exact .inr (.operator regular op)
  | operatorSign regular other => exact .inr (.operatorSign regular other)

/-- Digits where an operand may start complete a chain. -/
theorem Opens.exists_line_eq {before : Text} (opens : Opens before) {spelling : Spelling}
    (regular : spelling.Regular) :
    ∃ chain : Chain Operand, chain.Regular ∧ chain.line = before ++ spelling.text := by
  cases opens with
  | nothing =>
      exact ⟨⟨⟨false, spelling⟩, []⟩, Chain.regular_single regular,
        by simp [Operand.text, Fixed.sign]⟩
  | sign =>
      exact ⟨⟨⟨true, spelling⟩, []⟩, Chain.regular_single regular,
        by simp [Operand.text, Fixed.sign]⟩
  | @operator chain earlier op =>
      refine ⟨chain.push op ⟨false, spelling⟩, Chain.regular_push_iff.2 ⟨earlier, regular, ?_⟩, ?_⟩
      · intro negative
        cases negative
      · simp [Operand.text, Fixed.sign]
  | @operatorSign chain earlier op other =>
      refine ⟨chain.push op ⟨true, spelling⟩,
        Chain.regular_push_iff.2 ⟨earlier, regular, fun _ => other⟩, ?_⟩
      simp [Operand.text, Fixed.sign]

theorem Opens.isLine_append {before : Text} (opens : Opens before) {spelling : Spelling}
    (regular : spelling.Regular) : IsLine (before ++ spelling.text) := by
  obtain ⟨chain, chainRegular, equal⟩ := opens.exists_line_eq regular
  exact equal ▸ .complete chainRegular

/-- A chain ends in the digits of its last operand. -/
theorem exists_opens_of_regular {chain : Chain Operand} (regular : chain.Regular) :
    ∃ before spelling, Opens before ∧ spelling.Regular ∧
      chain.line = before ++ Spelling.text spelling := by
  rcases chain.eq_single_or_push with ⟨⟨negative, spelling⟩, rfl⟩ |
    ⟨shorter, op, ⟨negative, spelling⟩, rfl⟩
  · have spelled := regular.spelled _ (List.mem_cons_self ..)
    cases negative with
    | false => exact ⟨[], spelling, .nothing, spelled, by simp [Operand.text, Fixed.sign]⟩
    | true => exact ⟨['-'], spelling, .sign, spelled, by simp [Operand.text, Fixed.sign]⟩
  · obtain ⟨earlier, spelled, sign⟩ := Chain.regular_push_iff.1 regular
    cases negative with
    | false =>
        exact ⟨_, spelling, .operator earlier op, spelled, by simp [Operand.text, Fixed.sign]⟩
    | true =>
        exact ⟨_, spelling, .operatorSign earlier (sign rfl), spelled,
          by simp [Operand.text, Fixed.sign]⟩

/-- The characters a complete operand ends in. -/
def EndsOperand (c : Char) : Prop :=
  isDigit c ∨ c = '.'

theorem EndsOperand.isSymbol {c : Char} (ends : EndsOperand c) : Operator.isSymbol c = false := by
  rcases ends with digit | rfl
  · rw [Bool.eq_false_iff]
    intro symbol
    rcases (Operator.isSymbol_iff c).1 symbol with rfl | rfl | rfl | rfl | rfl | rfl <;>
      exact absurd digit (by decide)
  · rfl

theorem EndsOperand.isExponentLetter {c : Char} (ends : EndsOperand c) :
    Scanner.isExponentLetter c = false := by
  rcases ends with digit | rfl
  · have small : c ≠ 'e' := Numeral.ne_of_isDigit digit rfl
    have capital : c ≠ 'E' := Numeral.ne_of_isDigit digit rfl
    simp [Scanner.isExponentLetter, small, capital]
  · rfl

theorem EndsOperand.isSign {c : Char} (ends : EndsOperand c) : isSign c = false := by
  rcases ends with digit | rfl
  · have plus : c ≠ '+' := Numeral.ne_of_isDigit digit rfl
    have minus : c ≠ '-' := Numeral.ne_of_isDigit digit rfl
    simp [Entry.isSign, plus, minus]
  · rfl

theorem isExponentLetter_of_isSymbol {c : Char} (symbol : Operator.isSymbol c) :
    Scanner.isExponentLetter c = false := by
  rcases (Operator.isSymbol_iff c).1 symbol with rfl | rfl | rfl | rfl | rfl | rfl <;> rfl

/-- What the last character of a spelling was typed behind: nothing, a shorter spelling,
or a shorter spelling with the mark of an exponent. -/
inductive Precedes : Text → Prop where
  | nothing : Precedes []
  | spelling {shorter : Spelling} (regular : shorter.Regular) : Precedes shorter.text
  | mark {shorter : Spelling} (regular : shorter.Regular) : Precedes (shorter.text ++ ['e'])
  | signedMark {shorter : Spelling} (regular : shorter.Regular) :
      Precedes (shorter.text ++ ['e', '-'])

/-- A run of digits ends in a digit behind the rest of the run. -/
theorem exists_eq_concat_of_run {digits : Text} (nonempty : digits ≠ [])
    (run : ∀ c ∈ digits, isDigit c) :
    ∃ before last, digits = before ++ [last] ∧ (∀ c ∈ before, isDigit c) ∧ isDigit last := by
  obtain ⟨before, last, rfl⟩ := (List.eq_nil_or_concat digits).resolve_left nonempty
  rw [List.concat_eq_append] at *
  exact ⟨before, last, rfl, fun c member => run c (List.mem_append_left _ member),
    run last (List.mem_append_right _ (List.mem_singleton_self _))⟩

theorem Precedes.digits {whole : Text} (nonempty : whole ≠ [])
    (wholeRun : ∀ c ∈ whole, isDigit c) : Precedes whole := by
  let spelling : Spelling := .unscaled whole none nonempty wholeRun Numeral.isDigit_of_mem_nil
  have regular : spelling.Regular := Spelling.regular_unscaled _ _ _
  have text : spelling.text = whole := by simp [spelling]
  exact text ▸ .spelling regular

theorem Precedes.point {whole places : Text} (nonempty : whole ≠ [])
    (wholeRun : ∀ c ∈ whole, isDigit c) (placesRun : ∀ c ∈ places, isDigit c) :
    Precedes (whole ++ '.' :: places) := by
  let spelling : Spelling := .unscaled whole (some places) nonempty wholeRun placesRun
  have regular : spelling.Regular := Spelling.regular_unscaled _ _ _
  have text : spelling.text = whole ++ '.' :: places := by simp [spelling]
  exact text ▸ .spelling regular

/-- The last character of a numeral without an exponent. -/
theorem exists_precedes_unscaled {whole : Text} {places : Option Text} (nonempty : whole ≠ [])
    (wholeRun : ∀ c ∈ whole, isDigit c) (placesRun : ∀ c ∈ places.getD [], isDigit c) :
    ∃ before last, whole ++ places.elim [] ('.' :: ·) = before ++ [last] ∧ EndsOperand last ∧
      Precedes before := by
  cases places with
  | some places =>
      by_cases noPlaces : places = []
      · exact ⟨whole, '.', by simp [noPlaces], .inr rfl, .digits nonempty wholeRun⟩
      · obtain ⟨before, last, rfl, run, digit⟩ := exists_eq_concat_of_run noPlaces placesRun
        exact ⟨whole ++ '.' :: before, last, by simp, .inl digit, .point nonempty wholeRun run⟩
  | none =>
      obtain ⟨before, last, rfl, run, digit⟩ := exists_eq_concat_of_run nonempty wholeRun
      refine ⟨before, last, by simp, .inl digit, ?_⟩
      by_cases single : before = []
      · rw [single]
        exact .nothing
      · exact .digits single run

/-- A regular spelling without its last character. -/
theorem exists_precedes_of_regular {spelling : Spelling} (regular : spelling.Regular) :
    ∃ before last, spelling.text = before ++ [last] ∧ EndsOperand last ∧ Precedes before := by
  obtain ⟨whole, places, exponent, wholeRun, placesRun, hasDigit⟩ := spelling
  obtain ⟨nonempty, onExponent⟩ := regular
  cases exponent with
  | none =>
      have text : Spelling.text ⟨whole, places, none, wholeRun, placesRun, hasDigit⟩ =
          whole ++ places.elim [] ('.' :: ·) :=
        Spelling.text_unscaled nonempty wholeRun placesRun
      rw [text]
      exact exists_precedes_unscaled nonempty wholeRun placesRun
  | some exponent =>
      obtain ⟨letter, sign, digits, isLetter, isSign, digitsNonempty, digitsRun⟩ := exponent
      obtain ⟨rfl, noPlus⟩ : letter = 'e' ∧ sign ≠ ['+'] := onExponent _ rfl
      obtain ⟨before, last, rfl, run, digit⟩ := exists_eq_concat_of_run digitsNonempty digitsRun
      let mantissa : Spelling := .unscaled whole places nonempty wholeRun placesRun
      have mantissaRegular : mantissa.Regular := Spelling.regular_unscaled _ _ _
      refine ⟨mantissa.text ++ 'e' :: sign ++ before, last, ?_, .inl digit, ?_⟩
      · simp [mantissa, Spelling.text, Spelling.unscaled, Spelling.fraction,
          Numeral.exponentText, Exponent.text, Exponent.mark]
      · by_cases single : before = []
        · rw [single, List.append_nil]
          rcases isSign with rfl | rfl | rfl
          · exact .mark mantissaRegular
          · exact absurd rfl noPlus
          · exact .signedMark mantissaRegular
        · let shorter : Spelling := ⟨whole, places,
            some ⟨'e', sign, before, isLetter, isSign, single, run⟩, wholeRun, placesRun, hasDigit⟩
          have shorterRegular : shorter.Regular :=
            ⟨nonempty, by rintro exponent ⟨⟩; exact ⟨rfl, noPlus⟩⟩
          have text : mantissa.text ++ 'e' :: sign ++ before = shorter.text := by
            simp [mantissa, shorter, Spelling.text, Spelling.unscaled, Spelling.fraction,
              Numeral.exponentText, Exponent.text, Exponent.mark]
          rw [text]
          exact .spelling shorterRegular

/-- A chain ends in the last character of an operand. -/
theorem exists_line_eq_concat {chain : Chain Operand} (regular : chain.Regular) :
    ∃ before last, chain.line = before ++ [last] ∧ EndsOperand last := by
  obtain ⟨opening, spelling, -, spelled, equal⟩ := exists_opens_of_regular regular
  obtain ⟨before, last, text, ends, -⟩ := exists_precedes_of_regular spelled
  exact ⟨opening ++ before, last, by rw [equal, text, List.append_assoc], ends⟩

theorem line_ne_nil {chain : Chain Operand} (regular : chain.Regular) : chain.line ≠ [] := by
  obtain ⟨before, last, equal, -⟩ := exists_line_eq_concat regular
  simp [equal]

/-- The line is never empty. -/
theorem IsLine.ne_nil {line : Text} (isLine : IsLine line) : line ≠ [] := by
  cases isLine with
  | sign => decide
  | complete regular => exact line_ne_nil regular
  | operator regular op => simp
  | operatorSign regular other => simp

end Entry

end Keypad
