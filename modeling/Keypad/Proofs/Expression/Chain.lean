import Keypad.Expression.Token
import Mathlib

/-!
# Chains

An expression without parentheses is a chain: operands with an operator between each
two neighbours. A chain does not say how its operators group; `Chain.value` does, for
any meaning of the operators.

The reference value takes no stack. It splits the chain at its additions and
subtractions into terms, folds each term from the left, and folds the results from
the left.
-/

namespace Keypad

/-- Operands with an operator between each two neighbours. -/
structure Chain (α : Type) where
  first : α
  rest : List (Operator × α)
deriving DecidableEq, Repr

/-- Additions and subtractions stand between terms, the other operators in them. -/
def Operator.isAdditive : Operator → Bool
  | .add | .sub => true
  | .mul | .div => false

namespace Chain

variable {α β : Type}

/-- The chain of the images of the operands. -/
def map (f : α → β) (chain : Chain α) : Chain β :=
  ⟨f chain.first, chain.rest.map fun pair => (pair.1, f pair.2)⟩

/-- All operands, in order. -/
def operands (chain : Chain α) : List α :=
  chain.first :: chain.rest.map Prod.snd

/-- A chain with one more operator and operand at its end. -/
def push (chain : Chain α) (op : Operator) (operand : α) : Chain α :=
  ⟨chain.first, chain.rest ++ [(op, operand)]⟩

/-- A chain with one more operand and operator in front. -/
def prepend (operand : α) (op : Operator) (chain : Chain α) : Chain α :=
  ⟨operand, (op, chain.first) :: chain.rest⟩

/-- The operands combined from the left, without regard to what binds tighter. -/
def fold (apply : Operator → α → α → α) (chain : Chain α) : α :=
  chain.rest.foldl (fun value pair => apply pair.1 value pair.2) chain.first

/-- The terms of a chain given by its first operand and the rest. -/
def termsFrom (first : α) : List (Operator × α) → Chain (Chain α)
  | [] => ⟨⟨first, []⟩, []⟩
  | (op, next) :: rest =>
      let later := termsFrom next rest
      if op.isAdditive then later.prepend ⟨first, []⟩ op
      else ⟨later.first.prepend first op, later.rest⟩

/-- A chain split at its additions and subtractions. -/
def terms (chain : Chain α) : Chain (Chain α) :=
  termsFrom chain.first chain.rest

/-- A chain of chains written out as one chain. -/
def join (chain : Chain (Chain α)) : Chain α :=
  ⟨chain.first.first, chain.first.rest ++
    chain.rest.flatMap fun pair => (pair.1, pair.2.first) :: pair.2.rest⟩

/-- The value of a chain: its terms folded from the left, and their values folded from
the left. -/
def value (apply : Operator → α → α → α) (chain : Chain α) : α :=
  (chain.terms.map (fold apply)).fold apply

/-- The tokens of a chain of numeral texts. -/
def tokens (chain : Chain Text) : List Token :=
  .numeral chain.first :: chain.rest.flatMap fun pair => [.operator pair.1, .numeral pair.2]

/-- The displayed form of a chain of numeral texts. -/
def text (chain : Chain Text) : Text :=
  Token.renderAll chain.tokens

@[simp] theorem first_map (f : α → β) (chain : Chain α) :
    (chain.map f).first = f chain.first := rfl

@[simp] theorem rest_map (f : α → β) (chain : Chain α) :
    (chain.map f).rest = chain.rest.map fun pair => (pair.1, f pair.2) := rfl

@[simp] theorem map_map {γ : Type} (f : α → β) (g : β → γ) (chain : Chain α) :
    (chain.map f).map g = chain.map (g ∘ f) := by
  simp [map]

@[simp] theorem map_push (f : α → β) (chain : Chain α) (op : Operator) (operand : α) :
    (chain.push op operand).map f = (chain.map f).push op (f operand) := by
  simp [map, push]

/-- A chain is a single operand or ends in an operator and an operand. -/
theorem eq_single_or_push (chain : Chain α) :
    (∃ operand, chain = ⟨operand, []⟩) ∨
      ∃ shorter op operand, chain = push shorter op operand := by
  obtain ⟨first, rest⟩ := chain
  rcases List.eq_nil_or_concat rest with rfl | ⟨before, ⟨op, operand⟩, rfl⟩
  · exact .inl ⟨first, rfl⟩
  · exact .inr ⟨⟨first, before⟩, op, operand, by simp [push]⟩

/-- Chains are built by their last operators. -/
@[elab_as_elim] theorem push_induction {motive : Chain α → Prop}
    (single : ∀ operand, motive ⟨operand, []⟩)
    (push : ∀ chain op operand, motive chain → motive (chain.push op operand))
    (chain : Chain α) : motive chain := by
  obtain ⟨first, rest⟩ := chain
  induction rest using List.reverseRecOn with
  | nil => exact single first
  | append_singleton before pair inductionHypothesis =>
      exact push ⟨first, before⟩ pair.1 pair.2 inductionHypothesis

@[simp] theorem tokens_push (chain : Chain Text) (op : Operator) (text : Text) :
    (chain.push op text).tokens = chain.tokens ++ [.operator op, .numeral text] := by
  simp [tokens, push]

@[simp] theorem text_single (text : Text) : Chain.text ⟨text, []⟩ = text := by
  simp [Chain.text, tokens, Token.render]

@[simp] theorem text_push (chain : Chain Text) (op : Operator) (text : Text) :
    (chain.push op text).text = chain.text ++ op.symbol :: text := by
  simp [Chain.text, Token.render]

theorem text_cons (first next : Text) (op : Operator) (rest : List (Operator × Text)) :
    Chain.text ⟨first, (op, next) :: rest⟩ = first ++ op.symbol :: Chain.text ⟨next, rest⟩ := by
  simp [Chain.text, tokens, Token.render]

/-- The operands of the images are the images of the operands. -/
theorem operands_map (f : α → β) (chain : Chain α) :
    (chain.map f).operands = chain.operands.map f := by
  simp [operands, map]

@[simp] theorem operands_push (chain : Chain α) (op : Operator) (operand : α) :
    (chain.push op operand).operands = chain.operands ++ [operand] := by
  simp [operands, push]

/-- The numerals among the tokens are the operands. -/
theorem numeral_mem_tokens_iff {chain : Chain Text} {text : Text} :
    .numeral text ∈ chain.tokens ↔ text ∈ chain.operands := by
  simp [tokens, operands]

/-- Splitting into terms loses and reorders nothing. -/
@[simp] theorem join_terms (chain : Chain α) : chain.terms.join = chain := by
  obtain ⟨first, rest⟩ := chain
  change (termsFrom first rest).join = _
  induction rest generalizing first with
  | nil => rfl
  | cons pair rest inductionHypothesis =>
      obtain ⟨op, next⟩ := pair
      have later := inductionHypothesis next
      simp only [join, Chain.mk.injEq] at later
      by_cases additive : op.isAdditive
      · simp [termsFrom, additive, join, prepend, later]
      · simp [termsFrom, additive, join, prepend, later]

/-- Between terms stand additions and subtractions only. -/
theorem isAdditive_of_mem_terms {chain : Chain α} {pair : Operator × Chain α}
    (member : pair ∈ chain.terms.rest) : pair.1.isAdditive := by
  obtain ⟨first, rest⟩ := chain
  change pair ∈ (termsFrom first rest).rest at member
  induction rest generalizing first with
  | nil => cases member
  | cons head rest inductionHypothesis =>
      obtain ⟨op, next⟩ := head
      by_cases additive : op.isAdditive
      · simp only [termsFrom, additive, if_true, prepend, List.mem_cons] at member
        rcases member with rfl | member
        · exact additive
        · exact inductionHypothesis next member
      · simp only [termsFrom, additive, Bool.false_eq_true, if_false] at member
        exact inductionHypothesis next member

/-- In a term stand multiplications and divisions only. -/
theorem not_isAdditive_of_mem_term {chain term : Chain α} {pair : Operator × α}
    (isTerm : term ∈ chain.terms.operands) (member : pair ∈ term.rest) :
    pair.1.isAdditive = false := by
  obtain ⟨first, rest⟩ := chain
  change term ∈ (termsFrom first rest).operands at isTerm
  induction rest generalizing first term with
  | nil =>
      rw [List.mem_singleton.1 isTerm] at member
      cases member
  | cons head rest inductionHypothesis =>
      obtain ⟨op, next⟩ := head
      by_cases additive : op.isAdditive
      · simp only [termsFrom, additive, if_true, prepend, operands, List.map_cons,
          List.mem_cons] at isTerm
        rcases isTerm with rfl | isTerm
        · cases member
        · exact inductionHypothesis member next (List.mem_cons.2 isTerm)
      · simp only [termsFrom, additive, Bool.false_eq_true, if_false, operands,
          List.mem_cons] at isTerm
        rcases isTerm with rfl | isTerm
        · rcases List.mem_cons.1 member with rfl | member
          · simpa using additive
          · exact inductionHypothesis member next (List.mem_cons_self ..)
        · exact inductionHypothesis member next (List.mem_cons_of_mem _ isTerm)

/-- The operands of the terms are the operands of the chain. -/
theorem mem_operands_of_mem_term {chain term : Chain α} {operand : α}
    (isTerm : term ∈ chain.terms.operands) (member : operand ∈ term.operands) :
    operand ∈ chain.operands := by
  rw [← join_terms chain]
  rcases List.mem_cons.1 isTerm with rfl | isTerm
  · rcases List.mem_cons.1 member with rfl | member
    · exact List.mem_cons_self ..
    · refine List.mem_cons_of_mem _ ?_
      simp only [join, List.map_append]
      exact List.mem_append_left _ member
  · obtain ⟨pair, isPair, rfl⟩ := List.mem_map.1 isTerm
    refine List.mem_cons_of_mem _ ?_
    simp only [join, List.map_append, List.map_flatMap, List.mem_append, List.mem_flatMap]
    exact .inr ⟨pair, isPair, member⟩

/-- Terms are split off by the operators alone. -/
theorem terms_map (f : α → β) (chain : Chain α) :
    (chain.map f).terms = chain.terms.map (map f) := by
  obtain ⟨first, rest⟩ := chain
  change termsFrom (f first) (rest.map _) = (termsFrom first rest).map (map f)
  induction rest generalizing first with
  | nil => rfl
  | cons pair rest inductionHypothesis =>
      obtain ⟨op, next⟩ := pair
      have later := inductionHypothesis next
      by_cases additive : op.isAdditive
      · simp [termsFrom, additive, later, prepend, map]
      · simp [termsFrom, additive, later, prepend, map]

section Homomorphism

variable {apply : Operator → α → α → α} {apply' : Operator → β → β → β} {f : α → β}
  (respects : ∀ op left right, f (apply op left right) = apply' op (f left) (f right))

include respects

/-- A function that respects the operators respects folds. -/
theorem fold_map (chain : Chain α) : (chain.map f).fold apply' = f (chain.fold apply) := by
  obtain ⟨first, rest⟩ := chain
  change (rest.map _).foldl _ (f first) = f (rest.foldl _ first)
  induction rest generalizing first with
  | nil => rfl
  | cons pair rest inductionHypothesis =>
      rw [List.map_cons, List.foldl_cons, List.foldl_cons, ← respects]
      exact inductionHypothesis _

/-- A function that respects the operators respects the values of chains. -/
theorem value_map (chain : Chain α) : (chain.map f).value apply' = f (chain.value apply) := by
  have onTerms : fold apply' ∘ map f = f ∘ fold apply := funext (fold_map respects)
  rw [value, terms_map, map_map, onTerms, ← map_map, fold_map respects]
  rfl

end Homomorphism

end Chain

end Keypad
