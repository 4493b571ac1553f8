import Keypad.Proofs.Entry.Grammar
import Keypad.Proofs.Expression.Scanning

/-!
# What a character of an expression is

A plus or a minus is an operator, the sign of an operand or the sign of an exponent. Which of
these it is depends only on the characters in front of it, and `role` says so without a scanner:
it looks back over a run of signs to the character in front of them, and no further.

The scanner decides the same as it goes along. `Holds` ties what it holds to the text it has
read, and `Reads.holds` is the invariant: inside a numeral it holds the whole numeral in which
that text ends, and a sign is allowed exactly behind an exponent letter.

The text in front of a place is given in reverse throughout, latest character first.
-/

namespace Keypad.Scanner

open Entry (isSign endsInExponentLetter isExponentLetter_of_isSymbol)

/-- What a character of an expression is. -/
inductive Role where
  /-- Part of a numeral, as a sign of the numeral or of its exponent may be. -/
  | numeral
  /-- A binary operator. -/
  | operator
  /-- No character of an expression. -/
  | foreign
deriving DecidableEq, Repr

/-- What a character is, given whether an operand may start there and whether it stands directly
behind an exponent letter. -/
def roleWhere (mayStart behindLetter : Bool) (c : Char) : Role :=
  if isNumeralChar c || isExponentLetter c || (behindLetter && isSign c) ||
      (mayStart && c == '-') then .numeral
  else if Operator.isSymbol c then .operator
  else .foreign

/-- An operand may start where nothing stands in front, and directly behind a binary operator. -/
def operandMayStart : Text → Bool
  | [] => true
  | last :: front =>
      roleWhere (operandMayStart front) (endsInExponentLetter front) last == .operator

/-- What a character is behind the text in front of it. -/
def role (front : Text) (c : Char) : Role :=
  roleWhere (operandMayStart front) (endsInExponentLetter front) c

/-- The longest run of characters of a numeral at the end of a text, in reverse like the
text. -/
def numeralReversed : Text → Text
  | [] => []
  | c :: front => if role front c = .numeral then c :: numeralReversed front else []

/-- The numeral that stands at the end of a text, empty if there is none. -/
def numeralAt (front : Text) : Text :=
  (numeralReversed front).reverse

/-- The characters of expressions. -/
def alphabet : Text :=
  "0123456789.eE+-*×/÷".toList

theorem isDigit_iff_mem (c : Char) : Numeral.isDigit c ↔ c ∈ "0123456789".toList := by
  constructor
  · intro digit
    obtain ⟨low, high⟩ := (Numeral.isDigit_iff c).1 digit
    have all : ∀ value < 10, Char.ofNat (value + 48) ∈ "0123456789".toList := by decide
    have bounds : 48 ≤ c.toNat ∧ c.toNat ≤ 57 := ⟨low, high⟩
    have member := all (c.toNat - 48) (by omega)
    rwa [Nat.sub_add_cancel bounds.1, Char.ofNat_toNat] at member
  · exact List.all_eq_true.1 rfl c

theorem mem_alphabet_iff (c : Char) :
    c ∈ alphabet ↔ isNumeralChar c ∨ isExponentLetter c ∨ Operator.isSymbol c := by
  have parts : alphabet = "0123456789".toList ++ ".eE+-*×/÷".toList := rfl
  simp only [parts, List.mem_append, ← isDigit_iff_mem, Operator.isSymbol_iff, isNumeralChar,
    isExponentLetter, Bool.or_eq_true, beq_iff_eq]
  simp only [String.reduceToList, List.mem_cons, List.not_mem_nil, or_false, or_assoc]

section Roles

variable {front : Text} {c : Char}

@[simp] theorem operandMayStart_cons (front : Text) (last : Char) :
    operandMayStart (last :: front) = (role front last == .operator) := rfl

theorem role_eq_numeral_iff :
    role front c = .numeral ↔ isNumeralChar c ∨ isExponentLetter c ∨
      (endsInExponentLetter front ∧ isSign c) ∨ (operandMayStart front ∧ c = '-') := by
  unfold role roleWhere
  split
  · rename_i inside
    simpa [or_assoc] using inside
  · rename_i outside
    split <;> simpa [or_assoc] using outside

/-- Every other character that writes an operator is one. -/
theorem role_eq_operator_iff :
    role front c = .operator ↔ Operator.isSymbol c ∧ role front c ≠ .numeral := by
  unfold role roleWhere
  split
  · simp
  · split <;> simp_all

theorem isSymbol_of_isSign (sign : isSign c) : Operator.isSymbol c := by
  simp only [isSign, Bool.or_eq_true, beq_iff_eq] at sign
  rcases sign with rfl | rfl <;> rfl

theorem isNumeralChar_of_isSymbol (symbol : Operator.isSymbol c) : isNumeralChar c = false := by
  rcases (Operator.isSymbol_iff c).1 symbol with rfl | rfl | rfl | rfl | rfl | rfl <;> rfl

theorem isNumeralChar_of_isExponentLetter (letter : isExponentLetter c) :
    isNumeralChar c = false := by
  simp only [isExponentLetter, Bool.or_eq_true, beq_iff_eq] at letter
  rcases letter with rfl | rfl <;> rfl

/-- Where a character stands does not matter for whether it belongs to expressions. -/
theorem role_eq_foreign_iff : role front c = .foreign ↔ c ∉ alphabet := by
  have minus : Operator.isSymbol '-' := rfl
  rw [mem_alphabet_iff]
  constructor
  · intro foreign member
    have outside : role front c ≠ .numeral := by simp [foreign]
    rcases member with inside | letter | symbol
    · exact outside (role_eq_numeral_iff.2 (.inl inside))
    · exact outside (role_eq_numeral_iff.2 (.inr (.inl letter)))
    · have operator := role_eq_operator_iff.2 ⟨symbol, outside⟩
      simp [foreign] at operator
  · intro absent
    cases found : role front c with
    | foreign => rfl
    | operator => exact absurd (.inr (.inr (role_eq_operator_iff.1 found).1)) absent
    | numeral =>
        rcases role_eq_numeral_iff.1 found with inside | letter | ⟨-, sign⟩ | ⟨-, rfl⟩
        · exact absurd (.inl inside) absent
        · exact absurd (.inr (.inl letter)) absent
        · exact absurd (.inr (.inr (isSymbol_of_isSign sign))) absent
        · exact absurd (.inr (.inr minus)) absent

/-- Where an operand may start there is no numeral yet, and no exponent letter. -/
theorem numeralReversed_of_operandMayStart (mayStart : operandMayStart front) :
    numeralReversed front = [] ∧ endsInExponentLetter front = false := by
  cases front with
  | nil => exact ⟨rfl, rfl⟩
  | cons last front =>
      have operator : role front last = .operator := by simpa using mayStart
      obtain ⟨symbol, outside⟩ := role_eq_operator_iff.1 operator
      exact ⟨if_neg outside, isExponentLetter_of_isSymbol symbol⟩

theorem numeralAt_of_operandMayStart (mayStart : operandMayStart front) : numeralAt front = [] := by
  rw [numeralAt, (numeralReversed_of_operandMayStart mayStart).1, List.reverse_nil]

theorem numeralAt_cons (inside : role front c = .numeral) :
    numeralAt (c :: front) = numeralAt front ++ [c] := by
  simp [numeralAt, numeralReversed, inside]

end Roles

section Steps

variable {front : Text} {c : Char}

theorem readOperator_of_operator (operator : role front c = .operator) :
    ∃ op, readOperator c = .ok op := by
  obtain ⟨op, writes⟩ := Option.isSome_iff_exists.1 (role_eq_operator_iff.1 operator).1
  exact ⟨op, by rw [readOperator, writes]⟩

theorem readOperator_of_foreign (foreign : c ∉ alphabet) :
    readOperator c = .error (.unexpectedCharacter c) := by
  have none : Operator.ofChar? c = none := by
    have other : ¬Operator.isSymbol c := fun symbol =>
      foreign ((mem_alphabet_iff c).2 (.inr (.inr symbol)))
    simpa [Operator.isSymbol] using other
  rw [readOperator, none]

theorem beginOperand_of_letter (letter : isExponentLetter c) :
    beginOperand c = .error .misplacedExponent := by
  have noMinus : c ≠ '-' := by
    rintro rfl
    cases letter
  simp [beginOperand, isNumeralChar_of_isExponentLetter letter, noMinus, letter]

theorem beginOperand_of_numeral (mayStart : operandMayStart front) (inside : role front c = .numeral)
    (noLetter : isExponentLetter c = false) : beginOperand c = .ok (.inNumeral [c] false) := by
  obtain ⟨-, noMark⟩ := numeralReversed_of_operandMayStart mayStart
  have opens : isNumeralChar c ∨ c = '-' := by
    simpa [noLetter, noMark, mayStart] using role_eq_numeral_iff.1 inside
  simp [beginOperand, opens]

theorem beginOperand_of_operator (mayStart : operandMayStart front)
    (operator : role front c = .operator) : ∃ op, beginOperand c = .ok (.afterOperator op) := by
  obtain ⟨symbol, outside⟩ := role_eq_operator_iff.1 operator
  obtain ⟨op, reads⟩ := readOperator_of_operator operator
  have noMinus : c ≠ '-' := fun minus =>
    outside (role_eq_numeral_iff.2 (.inr (.inr (.inr ⟨mayStart, minus⟩))))
  refine ⟨op, ?_⟩
  simp [beginOperand, isNumeralChar_of_isSymbol symbol, isExponentLetter_of_isSymbol symbol, noMinus,
    reads, bind, Except.bind, pure, Except.pure]

theorem beginOperand_of_foreign (foreign : c ∉ alphabet) :
    beginOperand c = .error (.unexpectedCharacter c) := by
  have outside := foreign
  rw [mem_alphabet_iff, not_or, not_or] at outside
  have noMinus : c ≠ '-' := by
    rintro rfl
    exact absurd foreign (by decide)
  simp [beginOperand, outside, noMinus, readOperator_of_foreign foreign, bind, Except.bind]

/-- Inside a numeral, its characters go on with it. -/
theorem step_inNumeral_of_numeral (inside : role front c = .numeral)
    (goesOn : operandMayStart front = false) (text : Text) :
    (inNumeral text (endsInExponentLetter front)).step c =
      .ok (inNumeral (text ++ [c]) (isExponentLetter c), none) := by
  rcases role_eq_numeral_iff.1 inside with numeral | letter | ⟨mark, sign⟩ | ⟨mayStart, -⟩
  · have noLetter : isExponentLetter c = false := by
      rw [Bool.eq_false_iff]
      intro letter
      simp [isNumeralChar_of_isExponentLetter letter] at numeral
    simp [step, numeral, noLetter]
  · have noSign : isSign c = false := by
      rw [Bool.eq_false_iff]
      intro sign
      simp [isExponentLetter_of_isSymbol (isSymbol_of_isSign sign)] at letter
    simp only [isSign] at noSign
    simp [step, isNumeralChar_of_isExponentLetter letter, letter, noSign]
  · have noLetter := isExponentLetter_of_isSymbol (isSymbol_of_isSign sign)
    simp only [isSign] at sign
    simp [step, mark, sign, noLetter]
  · simp [goesOn] at mayStart

/-- Any other character is looked up as an operator, and then the numeral is finished. -/
theorem step_inNumeral_of_not_numeral (outside : role front c ≠ .numeral) (text : Text) :
    (inNumeral text (endsInExponentLetter front)).step c = do
      let op ← readOperator c
      let token ← finishNumeral text
      return (.afterOperator op, some token) := by
  have parts := mt role_eq_numeral_iff.2 outside
  simp only [not_or, not_and] at parts
  obtain ⟨noNumeral, noLetter, noSign, -⟩ := parts
  simp only [isSign] at noSign
  simp only [step]
  rw [if_neg (by simpa [noNumeral] using noSign), if_neg noLetter]

/-- An operator finishes the numeral, if that can be read. -/
theorem step_inNumeral_of_operator (operator : role front c = .operator) (text : Text) :
    ∃ op, (inNumeral text (endsInExponentLetter front)).step c =
      (finishNumeral text).map fun token => (.afterOperator op, some token) := by
  have outside : role front c ≠ .numeral := by simp [operator]
  obtain ⟨op, reads⟩ := readOperator_of_operator operator
  refine ⟨op, ?_⟩
  rw [step_inNumeral_of_not_numeral outside, reads]
  cases finishNumeral text <;> rfl

end Steps

/-- What a scanner holds behind a text: no numeral where an operand may start, and anywhere else
the numeral in which the text ends. -/
inductive Holds (front : Text) : Scanner → Prop where
  | noNumeral {scanner : Scanner} (isOpen : scanner.IsOpen) (mayStart : operandMayStart front) :
      Holds front scanner
  | numeral (goesOn : operandMayStart front = false) (nonempty : numeralAt front ≠ []) :
      Holds front (.inNumeral (numeralAt front) (endsInExponentLetter front))

/-- The scanner that a text leads to, if nothing in the text is a fault. -/
inductive Reads : Text → Scanner → Prop where
  | start : Reads [] .start
  | step {front : Text} {scanner next : Scanner} {c : Char} {token : Option Token}
      (reads : Reads front scanner) (steps : scanner.step c = .ok (next, token)) :
      Reads (c :: front) next

section Holding

variable {front : Text} {scanner next : Scanner} {c : Char} {token : Option Token}

/-- A character outside the alphabet is refused wherever it stands. -/
theorem Holds.step_of_foreign (holds : Holds front scanner) (foreign : c ∉ alphabet) :
    scanner.step c = .error (.unexpectedCharacter c) := by
  cases holds with
  | noNumeral isOpen mayStart =>
      rw [step_of_isOpen isOpen, beginOperand_of_foreign foreign]
      rfl
  | numeral goesOn nonempty =>
      have outside : role front c ≠ .numeral := by simp [role_eq_foreign_iff.2 foreign]
      rw [step_inNumeral_of_not_numeral outside, readOperator_of_foreign foreign]
      rfl

theorem holds_afterOperator (found : role front c = .operator) (op : Operator) :
    Holds (c :: front) (.afterOperator op) :=
  .noNumeral trivial (by simp [found])

theorem holds_inNumeral (found : role front c = .numeral) :
    Holds (c :: front) (.inNumeral (numeralAt front ++ [c]) (isExponentLetter c)) := by
  rw [← numeralAt_cons found]
  exact .numeral (by simp [found]) (by simp [numeralAt_cons found])

/-- One step: what the scanner holds follows what the character is. -/
theorem Holds.step (holds : Holds front scanner) (steps : scanner.step c = .ok (next, token)) :
    Holds (c :: front) next := by
  have legal : role front c ≠ .foreign := by
    intro foreign
    rw [holds.step_of_foreign (role_eq_foreign_iff.1 foreign)] at steps
    cases steps
  cases holds with
  | noNumeral isOpen mayStart =>
      rw [step_of_isOpen isOpen] at steps
      cases found : role front c with
      | foreign => exact absurd found legal
      | operator =>
          obtain ⟨op, begins⟩ := beginOperand_of_operator mayStart found
          rw [begins] at steps
          cases steps
          exact holds_afterOperator found op
      | numeral =>
          cases letter : isExponentLetter c with
          | true =>
              rw [beginOperand_of_letter letter] at steps
              cases steps
          | false =>
              rw [beginOperand_of_numeral mayStart found letter] at steps
              cases steps
              simpa [numeralAt_of_operandMayStart mayStart, letter] using holds_inNumeral found
  | numeral goesOn nonempty =>
      cases found : role front c with
      | foreign => exact absurd found legal
      | numeral =>
          rw [step_inNumeral_of_numeral found goesOn] at steps
          cases steps
          exact holds_inNumeral found
      | operator =>
          obtain ⟨op, finishes⟩ := step_inNumeral_of_operator found (numeralAt front)
          rw [finishes] at steps
          cases finished : finishNumeral (numeralAt front) with
          | error fault =>
              rw [finished] at steps
              cases steps
          | ok numeral =>
              rw [finished] at steps
              cases steps
              exact holds_afterOperator found op

/-- Any text: the scanner holds what stands at its end. -/
theorem Reads.holds (reads : Reads front scanner) : Holds front scanner := by
  induction reads with
  | start => exact .noNumeral trivial rfl
  | step _ steps inductionHypothesis => exact inductionHypothesis.step steps

/-- A text that is read without a fault is made of the characters of expressions. -/
theorem Reads.mem_alphabet (reads : Reads front scanner) : ∀ c ∈ front, c ∈ alphabet := by
  induction reads with
  | start => exact List.forall_mem_nil _
  | step reads steps inductionHypothesis =>
      refine List.forall_mem_cons.2 ⟨?_, inductionHypothesis⟩
      by_contra foreign
      rw [reads.holds.step_of_foreign foreign] at steps
      cases steps

/-- What is handed out in front of a place comes in front of what is handed out from there. -/
theorem Reads.exists_ofText (reads : Reads front scanner) :
    ∃ handedOut, ∀ rest, Token.ofText (front.reverse ++ rest) =
      (handedOut ++ ·) <$> scanner.tokensFrom rest := by
  induction reads with
  | start => exact ⟨[], fun rest => by simp [Token.ofText]⟩
  | @step front scanner next c token _ steps inductionHypothesis =>
      obtain ⟨handedOut, run⟩ := inductionHypothesis
      refine ⟨handedOut ++ token.toList, fun rest => ?_⟩
      rw [List.reverse_cons, List.append_assoc, run, List.singleton_append,
        tokensFrom_of_step steps, ← comp_map]
      congr 1
      funext later
      simp

/-- A text that can be scanned can be read up to any place. -/
theorem exists_reads_of_tokensFrom (reads : Reads front scanner) {between rest : Text}
    {tokens : List Token} (scanned : scanner.tokensFrom (between ++ rest) = .ok tokens) :
    ∃ last, Reads (between.reverse ++ front) last := by
  induction between generalizing front scanner tokens with
  | nil => exact ⟨scanner, reads⟩
  | cons c between inductionHypothesis =>
      obtain ⟨next, token, later, steps, onRest, -⟩ := exists_of_tokensFrom_cons scanned
      obtain ⟨last, readsOn⟩ := inductionHypothesis (reads.step steps) onRest
      exact ⟨last, by simpa using readsOn⟩

end Holding

end Keypad.Scanner
