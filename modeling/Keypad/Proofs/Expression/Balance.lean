import Keypad.Expression.Evaluation
import Keypad.Proofs.Expression.Scanning

/-!
# Which token lists have a value

A postfix token list is evaluated without a fault as long as its numerals can be read and
each operator finds two values on the stack. The height of the stack is a matter of counting:
numerals raise it by one, operators lower it by one. So whether a list has a value, and why it
has none, can be told from its numerals and from counts, without evaluating anything.

The first token that cannot be taken decides the fault. The token lists here are arbitrary,
also such as no expression leads to.
-/

namespace Keypad

namespace Token

/-- The number of numerals in a token list. -/
def numerals (tokens : List Token) : Nat :=
  tokens.countP isNumeral

/-- The number of operators in a token list. -/
def operators (tokens : List Token) : Nat :=
  tokens.countP (!isNumeral ·)

section Counts

variable (text : Text) (op : Operator) (tokens : List Token)

@[simp] theorem numerals_nil : numerals [] = 0 := rfl

@[simp] theorem operators_nil : operators [] = 0 := rfl

@[simp] theorem numerals_cons_numeral : numerals (.numeral text :: tokens) = numerals tokens + 1 :=
  List.countP_cons_of_pos rfl

@[simp] theorem numerals_cons_operator : numerals (.operator op :: tokens) = numerals tokens :=
  List.countP_cons_of_neg (by simp [isNumeral])

@[simp] theorem operators_cons_numeral : operators (.numeral text :: tokens) = operators tokens :=
  List.countP_cons_of_neg (by simp [isNumeral])

@[simp] theorem operators_cons_operator :
    operators (.operator op :: tokens) = operators tokens + 1 :=
  List.countP_cons_of_pos rfl

@[simp] theorem numerals_append (later : List Token) :
    numerals (tokens ++ later) = numerals tokens + numerals later :=
  List.countP_append

@[simp] theorem operators_append (later : List Token) :
    operators (tokens ++ later) = operators tokens + operators later :=
  List.countP_append

end Counts

end Token

namespace Expression

open Token (numerals operators)

variable {α : Type} (arithmetic : Arithmetic α)

/-- A token that cannot be taken behind the tokens in front of it, and the fault that this is:
a numeral that cannot be read, or an operator behind too few numerals for the operators that
are there already. -/
inductive Stops (before : List Token) : Token → Fault → Prop where
  | unreadable {text : Text} (unread : arithmetic.read? text = none) :
      Stops before (.numeral text) (.malformed (.invalidNumeral text))
  | unsupplied {op : Operator} (few : numerals before < operators before + 2) :
      Stops before (.operator op) .stackUnderflow

/-- A token list all of whose tokens can be taken: its numerals can be read, and every operator
stands behind at least two more numerals than operators. -/
structure Proceeds (tokens : List Token) : Prop where
  readable : ∀ text, .numeral text ∈ tokens → (arithmetic.read? text).isSome
  supplied : ∀ before op after, tokens = before ++ .operator op :: after →
    operators before + 2 ≤ numerals before

/-- The first token that cannot be taken, behind others that can, makes a token list fail with
its fault. -/
def StopsFirst (tokens : List Token) (fault : Fault) : Prop :=
  ∃ before token after, tokens = before ++ token :: after ∧ Proceeds arithmetic before ∧
    Stops arithmetic before token fault

variable {arithmetic}

theorem proceeds_nil : Proceeds arithmetic [] := by
  constructor
  · intro text member
    cases member
  · intro before op after equal
    cases before <;> cases equal

/-- A token list goes on with a token if nothing stops there. -/
theorem Proceeds.concat {tokens : List Token} (proceeds : Proceeds arithmetic tokens)
    {token : Token} (taken : ∀ fault, ¬Stops arithmetic tokens token fault) :
    Proceeds arithmetic (tokens ++ [token]) := by
  constructor
  · intro text member
    rcases List.mem_append.1 member with earlier | last
    · exact proceeds.readable text earlier
    · cases List.mem_singleton.1 last
      rw [Option.isSome_iff_ne_none]
      exact fun unread => taken _ (.unreadable unread)
  · intro before op after equal
    rcases List.eq_nil_or_concat after with rfl | ⟨middle, last, rfl⟩
    · obtain ⟨rfl, lastEqual⟩ := List.append_inj' equal rfl
      cases lastEqual
      exact Nat.le_of_not_lt fun few => taken _ (.unsupplied few)
    · rw [List.concat_eq_append, ← List.cons_append, ← List.append_assoc] at equal
      exact proceeds.supplied before op middle (List.append_inj' equal rfl).1

/-- The front of a token list that proceeds proceeds. -/
theorem Proceeds.front {tokens later : List Token}
    (proceeds : Proceeds arithmetic (tokens ++ later)) : Proceeds arithmetic tokens := by
  constructor
  · intro text member
    exact proceeds.readable text (List.mem_append_left later member)
  · rintro before op after rfl
    exact proceeds.supplied before op (after ++ later) (by simp)

/-- Every token list proceeds to its end or to a first token that cannot be taken. -/
theorem proceeds_or_stopsFirst (tokens : List Token) :
    Proceeds arithmetic tokens ∨ ∃ fault, StopsFirst arithmetic tokens fault := by
  induction tokens using List.reverseRecOn with
  | nil => exact .inl proceeds_nil
  | append_singleton tokens token inductionHypothesis =>
      rcases inductionHypothesis with proceeds | ⟨fault, before, first, after, rfl, behind, stops⟩
      · by_cases stopped : ∃ fault, Stops arithmetic tokens token fault
        · obtain ⟨fault, stops⟩ := stopped
          exact .inr ⟨fault, tokens, token, [], rfl, proceeds, stops⟩
        · exact .inl (proceeds.concat (not_exists.1 stopped))
      · exact .inr ⟨fault, before, first, after ++ [token], by simp, behind, stops⟩

/-- The stack behind tokens that can be taken has one value for each numeral that no operator
has used up. -/
theorem Proceeds.exists_stack {tokens : List Token} (proceeds : Proceeds arithmetic tokens) :
    ∃ stack : List α, stack.length + operators tokens = numerals tokens ∧
      ∀ later, evaluatePostfix arithmetic (tokens ++ later) =
        evaluatePostfixFrom arithmetic stack later := by
  induction tokens using List.reverseRecOn with
  | nil => exact ⟨[], rfl, fun later => rfl⟩
  | append_singleton tokens token inductionHypothesis =>
      obtain ⟨stack, height, run⟩ := inductionHypothesis proceeds.front
      cases token with
      | numeral text =>
          obtain ⟨value, reads⟩ := Option.isSome_iff_exists.1 (proceeds.readable text (by simp))
          refine ⟨value :: stack, ?_, fun later => ?_⟩
          · simp only [List.length_cons, Token.numerals_append, Token.operators_append,
              Token.numerals_cons_numeral, Token.operators_cons_numeral, Token.numerals_nil,
              Token.operators_nil]
            omega
          · rw [List.append_assoc, run, List.singleton_append, evaluatePostfixFrom]
            simp only [reads]
      | operator op =>
          have supplied := proceeds.supplied tokens op [] rfl
          -- The counts leave at least two values for the operator.
          rcases stack with _ | ⟨right, _ | ⟨left, below⟩⟩
          · rw [List.length_nil] at height
            omega
          · rw [List.length_singleton] at height
            omega
          · refine ⟨arithmetic.apply op left right :: below, ?_, fun later => ?_⟩
            · simp only [List.length_cons, Token.numerals_append, Token.operators_append,
                Token.numerals_cons_operator, Token.operators_cons_operator,
                Token.numerals_nil, Token.operators_nil] at height ⊢
              omega
            · rw [List.append_assoc, run, List.singleton_append, evaluatePostfixFrom]

/-- The first token that cannot be taken decides the fault, whatever follows it. -/
theorem StopsFirst.evaluatePostfix_eq {tokens : List Token} {fault : Fault}
    (stopsFirst : StopsFirst arithmetic tokens fault) :
    evaluatePostfix arithmetic tokens = .error fault := by
  obtain ⟨before, token, after, rfl, behind, stops⟩ := stopsFirst
  obtain ⟨stack, height, run⟩ := behind.exists_stack
  rw [run]
  cases stops with
  | unreadable unread =>
      rw [evaluatePostfixFrom]
      simp only [unread]
  | unsupplied few =>
      rcases stack with _ | ⟨right, _ | ⟨left, below⟩⟩
      · rfl
      · rfl
      · rw [List.length_cons, List.length_cons] at height
        omega

/-- At the end of a token list that proceeds, there is a value if the stack holds exactly
one. -/
theorem Proceeds.evaluatePostfix_cases {tokens : List Token}
    (proceeds : Proceeds arithmetic tokens) :
    (numerals tokens = operators tokens + 1 ∧
        ∃ value, evaluatePostfix arithmetic tokens = .ok value) ∨
      (numerals tokens ≠ operators tokens + 1 ∧
        evaluatePostfix arithmetic tokens = .error .stackUnderflow) := by
  obtain ⟨stack, height, run⟩ := proceeds.exists_stack
  have atEnd := run []
  rw [List.append_nil] at atEnd
  rw [atEnd]
  rcases stack with _ | ⟨value, _ | ⟨other, more⟩⟩
  · refine .inr ⟨?_, rfl⟩
    rw [List.length_nil] at height
    omega
  · refine .inl ⟨?_, value, rfl⟩
    rw [List.length_singleton] at height
    omega
  · refine .inr ⟨?_, rfl⟩
    rw [List.length_cons, List.length_cons] at height
    omega

/-- A postfix token list has a value exactly when its numerals can be read, every operator
stands behind at least two more numerals than operators, and there is one more numeral than
operators in all. Otherwise the first token that cannot be taken decides the fault, and if
every token can be taken, the stack does not end with exactly one value. -/
theorem evaluatePostfix_outcome (arithmetic : Arithmetic α) (tokens : List Token) :
    ((∃ value, evaluatePostfix arithmetic tokens = .ok value) ↔
        Proceeds arithmetic tokens ∧ numerals tokens = operators tokens + 1) ∧
      ∀ fault, evaluatePostfix arithmetic tokens = .error fault ↔
        StopsFirst arithmetic tokens fault ∨
          Proceeds arithmetic tokens ∧ numerals tokens ≠ operators tokens + 1 ∧
            fault = .stackUnderflow := by
  constructor
  · constructor
    · rintro ⟨value, evaluates⟩
      rcases proceeds_or_stopsFirst tokens with proceeds | ⟨fault, stopsFirst⟩
      · rcases proceeds.evaluatePostfix_cases with ⟨balanced, -⟩ | ⟨-, fails⟩
        · exact ⟨proceeds, balanced⟩
        · cases evaluates.symm.trans fails
      · cases evaluates.symm.trans stopsFirst.evaluatePostfix_eq
    · rintro ⟨proceeds, balanced⟩
      rcases proceeds.evaluatePostfix_cases with ⟨-, evaluates⟩ | ⟨unbalanced, -⟩
      · exact evaluates
      · exact absurd balanced unbalanced
  · intro fault
    constructor
    · intro fails
      rcases proceeds_or_stopsFirst tokens with proceeds | ⟨other, stopsFirst⟩
      · rcases proceeds.evaluatePostfix_cases with ⟨-, value, evaluates⟩ | ⟨unbalanced, underflow⟩
        · cases evaluates.symm.trans fails
        · cases underflow.symm.trans fails
          exact .inr ⟨proceeds, unbalanced, rfl⟩
      · cases stopsFirst.evaluatePostfix_eq.symm.trans fails
        exact .inl stopsFirst
    · rintro (stopsFirst | ⟨proceeds, unbalanced, rfl⟩)
      · exact stopsFirst.evaluatePostfix_eq
      · rcases proceeds.evaluatePostfix_cases with ⟨balanced, -⟩ | ⟨-, underflow⟩
        · exact absurd balanced unbalanced
        · exact underflow

/-- The operator comes first, so the text that is no numeral does not matter. -/
example : evaluatePostfix .double [.numeral ['1'], .operator .add, .numeral ['x']] =
    .error .stackUnderflow := rfl

end Expression

end Keypad
