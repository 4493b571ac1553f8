import Keypad.Expression.Operator
import Keypad.Proofs.Expression.Chain
import Keypad.Proofs.Number.Sign

/-!
# Zeros at the start of a chain

A zero that starts a chain of doubles can be left out, together with an addition behind
it, and its minus can be given to the next operand: the value of the chain changes in
the sign of zero at most. The sign goes to the next operand alone, although the minus
takes a whole term away, since opposite signs pass through multiplications and divisions.
-/

namespace Keypad.Chain

open Binary (Alike Opposite IsZero)

/-- The first operand of a chain is that of its first term, and nothing else depends on
it. -/
theorem exists_terms_eq {α : Type} (rest : List (Operator × α)) :
    ∃ factors later, ∀ first, terms ⟨first, rest⟩ = ⟨⟨first, factors⟩, later⟩ := by
  cases rest with
  | nil => exact ⟨[], [], fun _ => rfl⟩
  | cons pair rest =>
      obtain ⟨op, next⟩ := pair
      cases additive : op.isAdditive with
      | true =>
          refine ⟨[], (prepend ⟨next, []⟩ op (termsFrom next rest)).rest, fun first => ?_⟩
          simp [terms, termsFrom, additive, prepend]
      | false =>
          refine ⟨(prepend next op (termsFrom next rest).first).rest, (termsFrom next rest).rest,
            fun first => ?_⟩
          simp [terms, termsFrom, additive, prepend]

/-- An addition or subtraction at the start of a chain acts on the value of its first
term. -/
theorem value_prepend {α : Type} (apply : Operator → α → α → α) (first : α) {op : Operator}
    (additive : op.isAdditive) (chain : Chain α) :
    value apply (prepend first op chain) =
      fold apply ⟨apply op first (fold apply chain.terms.first),
        (chain.terms.map (fold apply)).rest⟩ := by
  simp [value, terms, prepend, termsFrom, additive, fold, map]

/-- Additions and subtractions keep doubles alike. -/
theorem alike_fold {x y : Float} (alike : Alike x y) {rest : List (Operator × Float)}
    (additive : ∀ pair ∈ rest, pair.1.isAdditive) :
    Alike (fold Operator.apply ⟨x, rest⟩) (fold Operator.apply ⟨y, rest⟩) := by
  induction rest generalizing x y with
  | nil => exact alike
  | cons pair rest inductionHypothesis =>
      obtain ⟨op, z⟩ := pair
      have isAdditive := additive _ (List.mem_cons_self ..)
      have later := fun pair member => additive pair (List.mem_cons_of_mem _ member)
      cases op with
      | add => exact inductionHypothesis (alike.add z) later
      | sub => exact inductionHypothesis (alike.sub z) later
      | mul => cases isAdditive
      | div => cases isAdditive

/-- Multiplications and divisions keep doubles opposite. -/
theorem opposite_fold {x y : Float} (opposite : Opposite x y) {rest : List (Operator × Float)}
    (others : ∀ pair ∈ rest, pair.1.isAdditive = false) :
    Opposite (fold Operator.apply ⟨x, rest⟩) (fold Operator.apply ⟨y, rest⟩) := by
  induction rest generalizing x y with
  | nil => exact opposite
  | cons pair rest inductionHypothesis =>
      obtain ⟨op, z⟩ := pair
      have notAdditive := others _ (List.mem_cons_self ..)
      have later := fun pair member => others pair (List.mem_cons_of_mem _ member)
      cases op with
      | add => cases notAdditive
      | sub => cases notAdditive
      | mul => exact inductionHypothesis (opposite.mul z) later
      | div => exact inductionHypothesis (opposite.div z) later

theorem isAdditive_of_mem_values {α β : Type} {f : Chain α → β} {chain : Chain α}
    {pair : Operator × β} (member : pair ∈ (chain.terms.map f).rest) : pair.1.isAdditive := by
  obtain ⟨original, isTerm, rfl⟩ := List.mem_map.1 member
  exact isAdditive_of_mem_terms isTerm

/-- A chain that starts with zero and an addition has the value of what follows. -/
theorem alike_value_zero_add {zero : Float} (isZero : IsZero zero) (chain : Chain Float) :
    Alike (value Operator.apply (prepend zero .add chain)) (value Operator.apply chain) := by
  rw [value_prepend _ _ rfl]
  exact alike_fold (Binary.alike_zero_add isZero _) fun _ => isAdditive_of_mem_values

/-- A chain that starts with zero and a subtraction has the value of what follows with
its first operand negated. -/
theorem alike_value_zero_sub {zero x y : Float} (isZero : IsZero zero)
    (opposite : Opposite y x) (rest : List (Operator × Float)) :
    Alike (value Operator.apply (prepend zero .sub ⟨x, rest⟩))
      (value Operator.apply ⟨y, rest⟩) := by
  obtain ⟨factors, later, terms⟩ := exists_terms_eq rest
  have isTerm : ⟨x, factors⟩ ∈ (Chain.terms ⟨x, rest⟩).operands := by
    rw [terms]
    exact List.mem_cons_self ..
  have term : Opposite (fold Operator.apply ⟨y, factors⟩) (fold Operator.apply ⟨x, factors⟩) :=
    opposite_fold opposite fun pair member => not_isAdditive_of_mem_term isTerm member
  have sum : Alike (zero - fold Operator.apply ⟨x, factors⟩)
      (fold Operator.apply ⟨y, factors⟩) := by
    rw [term.eq_neg]
    exact Binary.alike_zero_sub isZero _
  have additive : ∀ pair ∈ ((Chain.terms ⟨x, rest⟩).map (fold Operator.apply)).rest,
      pair.1.isAdditive := fun _ => isAdditive_of_mem_values
  rw [terms] at additive
  rw [value_prepend _ _ rfl, value, terms, terms]
  exact alike_fold sum additive

end Keypad.Chain
