import Keypad.Proofs.Expression.Acceptance

/-!
# Operators that wait

The postfix order of a token list comes about in a loop that looks at one token after another, and
may look at an operator several times until all that has to go out in front of it has gone out.
`Move` is one turn of that loop, and `Passes` are the points it comes to. The order that is built
is the same from every such point (`Passes.order_eq`), so these are the points of `order`.

Waiting operators bind tighter and tighter, the latest of them tightest. As there are two
priorities, no more than two operators ever wait. All of this holds of any tokens, whether or not
they are an expression.
-/

namespace Keypad.Postfix

/-- A point of the loop: what has gone out, the waiting operators, latest first, and the tokens to
come. -/
structure Point where
  output : List Token
  waiting : List Operator
  rest : List Token

/-- One turn of the loop. -/
inductive Move : Point → Point → Prop where
  | numeral {output : List Token} {waiting : List Operator} {text : Text} {rest : List Token} :
      Move ⟨output, waiting, .numeral text :: rest⟩ ⟨output ++ [.numeral text], waiting, rest⟩
  /-- The latest waiting operator goes out in front of one that does not bind tighter. -/
  | leave {output : List Token} {latest op : Operator} {waiting : List Operator}
      {rest : List Token} (loose : op.priority ≤ latest.priority) :
      Move ⟨output, latest :: waiting, .operator op :: rest⟩
        ⟨output ++ [.operator latest], waiting, .operator op :: rest⟩
  /-- An operator waits if it binds tighter than the latest that waits. -/
  | wait {output : List Token} {op : Operator} {waiting : List Operator} {rest : List Token}
      (tight : ∀ latest ∈ waiting.head?, latest.priority < op.priority) :
      Move ⟨output, waiting, .operator op :: rest⟩ ⟨output, op :: waiting, rest⟩

/-- The points that the loop over a token list comes to. -/
inductive Passes (tokens : List Token) : Point → Prop where
  | start : Passes tokens ⟨[], [], tokens⟩
  | move {point next : Point} (passes : Passes tokens point) (move : Move point next) :
      Passes tokens next

/-- The waiting operators bind tighter and tighter. -/
def Tightening (waiting : List Operator) : Prop :=
  waiting.Pairwise fun later earlier => earlier.priority < later.priority

section Moves

variable {tokens : List Token} {point next : Point}

/-- One turn: what has gone out and what will go out make up the same order. -/
theorem Move.output_append (move : Move point next) :
    point.output ++ orderFrom point.waiting point.rest =
      next.output ++ orderFrom next.waiting next.rest := by
  cases move with
  | numeral => simp [orderFrom]
  | leave loose => simp [orderFrom, yields, loose]
  | @wait output op waiting rest tight =>
      cases waiting with
      | nil => simp [orderFrom]
      | cons latest earlier =>
          have stays : ¬op.priority ≤ latest.priority := Nat.not_le.2 (tight latest rfl)
          simp [orderFrom, yields, stays]

/-- All turns: at every point, what has gone out is the start of the order. -/
theorem Passes.order_eq (passes : Passes tokens point) :
    order tokens = point.output ++ orderFrom point.waiting point.rest := by
  induction passes with
  | start => rfl
  | move _ move inductionHypothesis => exact inductionHypothesis.trans move.output_append

/-- One turn: an operator only waits over operators that bind less. -/
theorem Move.tightening (move : Move point next) (before : Tightening point.waiting) :
    Tightening next.waiting := by
  cases move with
  | numeral => exact before
  | leave loose => exact (List.pairwise_cons.1 before).2
  | @wait output op waiting rest tight =>
      refine List.pairwise_cons.2 ⟨fun earlier member => ?_, before⟩
      cases waiting with
      | nil => cases member
      | cons latest others =>
          have first := tight latest rfl
          rcases List.mem_cons.1 member with rfl | later
          · exact first
          · exact Nat.lt_trans ((List.pairwise_cons.1 before).1 earlier later) first

theorem Passes.tightening (passes : Passes tokens point) : Tightening point.waiting := by
  induction passes with
  | start => exact List.Pairwise.nil
  | move _ move inductionHypothesis => exact move.tightening inductionHypothesis

/-- There are as many priorities as operators can wait. -/
theorem Tightening.length_le {waiting : List Operator} (tightening : Tightening waiting) :
    waiting.length ≤ 2 := by
  have bounds (op : Operator) : 1 ≤ op.priority ∧ op.priority ≤ 2 := by cases op <;> decide
  rcases waiting with _ | ⟨third, _ | ⟨second, _ | ⟨first, others⟩⟩⟩
  · exact Nat.zero_le 2
  · exact Nat.le_succ 1
  · exact Nat.le_refl 2
  · obtain ⟨behindThird, behindSecond⟩ := List.pairwise_cons.1 tightening
    have upper := behindThird second (List.mem_cons_self ..)
    have lower := (List.pairwise_cons.1 behindSecond).1 first (List.mem_cons_self ..)
    have top := bounds third
    have bottom := bounds first
    omega

/-- Operators go out in front of another until it can wait. -/
theorem Passes.exists_wait {output : List Token} {waiting : List Operator} {op : Operator}
    {rest : List Token} (passes : Passes tokens ⟨output, waiting, .operator op :: rest⟩) :
    ∃ outputThen waitingThen, Passes tokens ⟨outputThen, waitingThen, rest⟩ := by
  induction waiting generalizing output with
  | nil => exact ⟨_, _, passes.move (.wait nofun)⟩
  | cons latest waiting inductionHypothesis =>
      rcases Nat.lt_or_ge latest.priority op.priority with tight | loose
      · refine ⟨_, _, passes.move (.wait ?_)⟩
        rintro _ ⟨⟩
        exact tight
      · exact inductionHypothesis (passes.move (.leave loose))

/-- The loop comes to the end of the tokens. -/
theorem Passes.exists_end {output : List Token} {waiting : List Operator} {rest : List Token}
    (passes : Passes tokens ⟨output, waiting, rest⟩) :
    ∃ outputThen waitingThen, Passes tokens ⟨outputThen, waitingThen, []⟩ := by
  induction rest generalizing output waiting with
  | nil => exact ⟨output, waiting, passes⟩
  | cons token rest inductionHypothesis =>
      cases token with
      | numeral text => exact inductionHypothesis (passes.move .numeral)
      | operator op =>
          obtain ⟨_, _, later⟩ := passes.exists_wait
          exact inductionHypothesis later

end Moves

theorem filter_isNumeral_operators (operators : List Operator) :
    (operators.map Token.operator).filter Token.isNumeral = [] := by
  simp [List.filter_eq_nil_iff, Token.isNumeral]

/-- Numerals do not wait. -/
theorem filter_isNumeral_orderFrom (waiting : List Operator) (tokens : List Token) :
    (orderFrom waiting tokens).filter Token.isNumeral = tokens.filter Token.isNumeral := by
  induction tokens generalizing waiting with
  | nil => exact filter_isNumeral_operators waiting
  | cons token rest inductionHypothesis =>
      cases token with
      | numeral text =>
          rw [orderFrom, List.filter_cons_of_pos rfl, List.filter_cons_of_pos rfl,
            inductionHypothesis]
      | operator op =>
          rw [orderFrom, List.filter_append, filter_isNumeral_operators, inductionHypothesis,
            List.filter_cons_of_neg Bool.false_ne_true, List.nil_append]

/-- The postfix order of any tokens has the same numerals in the same order and the same operators.
The loop that builds it comes to its end, and wherever it is, the waiting operators bind tighter
from each to the next, so at most two of them wait. -/
theorem order_conserves (tokens : List Token) :
    (order tokens).filter Token.isNumeral = tokens.filter Token.isNumeral ∧
      ((order tokens).filter (!·.isNumeral)).Perm (tokens.filter (!·.isNumeral)) ∧
      (∃ output waiting, Passes tokens ⟨output, waiting, []⟩ ∧
        order tokens = output ++ waiting.map .operator) ∧
      ∀ point, Passes tokens point →
        order tokens = point.output ++ orderFrom point.waiting point.rest ∧
          (point.waiting.reverse.map Operator.priority).Pairwise (· < ·) ∧
          point.waiting.length ≤ 2 := by
  refine ⟨filter_isNumeral_orderFrom [] tokens, (order_perm tokens).filter _, ?_, ?_⟩
  · obtain ⟨output, waiting, passes⟩ := (Passes.start : Passes tokens _).exists_end
    exact ⟨output, waiting, passes, passes.order_eq⟩
  · intro point passes
    refine ⟨passes.order_eq, ?_, passes.tightening.length_le⟩
    rw [List.pairwise_map, List.pairwise_reverse]
    exact passes.tightening

/-- In `1+2×3-4` the product waits over the sum when the difference comes. -/
theorem order_conserves_nested :
    let tokens : List Token := [.numeral ['1'], .operator .add, .numeral ['2'], .operator .mul,
      .numeral ['3'], .operator .sub, .numeral ['4']]
    let point : Point := ⟨[.numeral ['1'], .numeral ['2'], .numeral ['3']], [.mul, .add],
      [.operator .sub, .numeral ['4']]⟩
    Passes tokens point ∧
      order tokens = point.output ++ orderFrom point.waiting point.rest ∧
      (point.waiting.reverse.map Operator.priority).Pairwise (· < ·) ∧
      point.waiting.length ≤ 2 := by
  intro tokens point
  have sum : Passes tokens ⟨[.numeral ['1'], .numeral ['2']], [.add], _⟩ :=
    ((Passes.start.move .numeral).move (.wait nofun)).move .numeral
  have tighter : ∀ latest ∈ [Operator.add].head?, latest.priority < Operator.mul.priority := by
    decide
  have passes : Passes tokens point := (sum.move (.wait tighter)).move .numeral
  obtain ⟨-, -, -, everywhere⟩ := order_conserves tokens
  exact ⟨passes, everywhere point passes⟩

end Keypad.Postfix
