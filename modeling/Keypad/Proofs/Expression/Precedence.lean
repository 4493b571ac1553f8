import Keypad.Expression.Evaluation
import Keypad.Proofs.Expression.Chain

/-!
# Precedence

How the operators of an expression group, as a tree. A tree is `Grouped` when its
operators bind to the left and the tighter ones below the looser ones. Every chain has
exactly one grouped tree; the postfix order of the chain is the postorder of that tree,
and evaluating it gives the value of the chain.

Nothing here depends on the meaning of numerals and operators.
-/

namespace Keypad

/-- An expression with its grouping. -/
inductive Tree where
  | operand (text : Text)
  | operation (op : Operator) (left right : Tree)
deriving DecidableEq, Repr

namespace Tree

/-- The tokens as they are written, left operand first and operator between. -/
def inorder : Tree → List Token
  | operand text => [.numeral text]
  | operation op left right => left.inorder ++ .operator op :: right.inorder

/-- The tokens with every operator behind its operands. -/
def postorder : Tree → List Token
  | operand text => [.numeral text]
  | operation op left right => left.postorder ++ right.postorder ++ [.operator op]

/-- How tightly a tree holds together: its root's priority, and for an operand more than
any operator has. -/
def rank : Tree → Nat
  | operand _ => 3
  | operation op _ _ => op.priority

/-- Operators associate to the left and the tighter ones stay below the looser ones: a
left operand may hold together as tightly as the operator over it, a right operand
holds together more tightly. -/
def Grouped : Tree → Prop
  | operand _ => True
  | operation op left right =>
      op.priority ≤ left.rank ∧ op.priority < right.rank ∧ left.Grouped ∧ right.Grouped

/-- The value of a tree, if all of its numerals can be read. -/
def value? {α : Type} (arithmetic : Arithmetic α) : Tree → Option α
  | operand text => arithmetic.read? text
  | operation op left right => do
      return arithmetic.apply op (← left.value? arithmetic) (← right.value? arithmetic)

/-- The arithmetic that builds trees. -/
def arithmetic : Arithmetic Tree where
  read? text := some (operand text)
  apply := operation

@[simp] theorem value?_arithmetic (tree : Tree) : tree.value? arithmetic = some tree := by
  induction tree with
  | operand text => rfl
  | operation op left right leftHypothesis rightHypothesis =>
      simp only [value?, leftHypothesis, rightHypothesis]
      rfl

end Tree

namespace Expression

/-- The postorder of a tree leaves the value of the tree on the stack, whatever is on the
stack and whatever follows. -/
theorem evaluatePostfixFrom_postorder {α : Type} {arithmetic : Arithmetic α} {tree : Tree}
    {value : α} (reads : tree.value? arithmetic = some value) (stack : List α)
    (rest : List Token) :
    evaluatePostfixFrom arithmetic stack (tree.postorder ++ rest) =
      evaluatePostfixFrom arithmetic (value :: stack) rest := by
  induction tree generalizing value stack rest with
  | operand text =>
      rw [Tree.value?] at reads
      simp [Tree.postorder, evaluatePostfixFrom, reads]
  | operation op left right leftHypothesis rightHypothesis =>
      simp only [Tree.value?, Option.bind_eq_bind, Option.bind_eq_some_iff] at reads
      obtain ⟨leftValue, leftReads, rightValue, rightReads, equal⟩ := reads
      cases equal
      simp only [Tree.postorder, List.append_assoc]
      rw [leftHypothesis leftReads, rightHypothesis rightReads]
      rfl

theorem evaluatePostfix_postorder {α : Type} {arithmetic : Arithmetic α} {tree : Tree}
    {value : α} (reads : tree.value? arithmetic = some value) :
    evaluatePostfix arithmetic tree.postorder = .ok value := by
  have run := evaluatePostfixFrom_postorder reads [] []
  rw [List.append_nil] at run
  rw [evaluatePostfix, run]
  rfl

end Expression

/-- Trees with the same postorder are equal, since the postorder can be evaluated to the
tree itself. -/
theorem Tree.postorder_injective : Function.Injective Tree.postorder := by
  intro left right equal
  have leftValue := Expression.evaluatePostfix_postorder left.value?_arithmetic
  have rightValue := Expression.evaluatePostfix_postorder right.value?_arithmetic
  rw [equal, rightValue] at leftValue
  exact (Except.ok.inj leftValue).symm

namespace Postfix

/-- Reading a grouped tree with operators waiting puts out the postorder of the tree, if
the tree holds together more tightly than the latest waiting operator, and at least as
tightly as the operator that follows. The waiting operators are as before. -/
theorem orderFrom_inorder {tree : Tree} (grouped : tree.Grouped) (waiting : List Operator)
    (rest : List Token) (above : ∀ op ∈ waiting.head?, op.priority < tree.rank)
    (below : rest = [] ∨ ∃ op later, rest = .operator op :: later ∧ op.priority ≤ tree.rank) :
    orderFrom waiting (tree.inorder ++ rest) = tree.postorder ++ orderFrom waiting rest := by
  induction tree generalizing waiting rest with
  | operand text => rfl
  | operation op left right leftHypothesis rightHypothesis =>
      obtain ⟨leftRank, rightRank, leftGrouped, rightGrouped⟩ := grouped
      simp only [Tree.rank] at above below
      have onLeft := leftHypothesis leftGrouped waiting
        (.operator op :: (right.inorder ++ rest))
        (fun other member => Nat.lt_of_lt_of_le (above other member) leftRank)
        (.inr ⟨op, _, rfl, leftRank⟩)
      have onRight := rightHypothesis rightGrouped (op :: waiting) rest
        (by simpa using rightRank)
        (below.imp id fun ⟨next, later, equal, low⟩ =>
          ⟨next, later, equal, Nat.le_of_lt (Nat.lt_of_le_of_lt low rightRank)⟩)
      -- The operator itself sends nothing out, since the latest one waiting binds less.
      have stays : waiting.takeWhile (yields op) = [] ∧
          waiting.dropWhile (yields op) = waiting := by
        cases waiting with
        | nil => exact ⟨rfl, rfl⟩
        | cons latest earlier =>
            have looser : ¬op.priority ≤ latest.priority := Nat.not_le.2 (above latest rfl)
            simp [yields, looser]
      -- What follows sends the operator out before anything that waited under it.
      have leaves : orderFrom (op :: waiting) rest = .operator op :: orderFrom waiting rest := by
        rcases below with rfl | ⟨next, later, rfl, low⟩
        · rfl
        · simp [orderFrom, yields, low]
      simp only [Tree.inorder, Tree.postorder, List.append_assoc, List.cons_append]
      rw [onLeft, orderFrom, stays.1, stays.2, List.map_nil, List.nil_append, onRight, leaves]
      rfl

/-- The postfix order of a grouped tree is its postorder. -/
theorem order_inorder {tree : Tree} (grouped : tree.Grouped) :
    order tree.inorder = tree.postorder := by
  have run := orderFrom_inorder grouped [] [] (by simp) (.inl rfl)
  simpa [order, orderFrom] using run

end Postfix

theorem Operator.priority_eq_ite (op : Operator) :
    op.priority = if op.isAdditive then 1 else 2 := by
  cases op <;> rfl

namespace Chain

/-- The tree of a chain: the chain evaluated to a tree. -/
def tree (chain : Chain Text) : Tree :=
  (chain.map Tree.operand).value Tree.operation

/-- The tokens of a chain of trees. -/
def inorder (chain : Chain Tree) : List Token :=
  chain.first.inorder ++ chain.rest.flatMap fun pair => .operator pair.1 :: pair.2.inorder

theorem inorder_fold (chain : Chain Tree) :
    (chain.fold Tree.operation).inorder = chain.inorder := by
  obtain ⟨first, rest⟩ := chain
  simp only [fold, inorder]
  induction rest generalizing first with
  | nil => simp
  | cons pair rest inductionHypothesis => simp [inductionHypothesis, Tree.inorder]

/-- Grouping writes the same tokens in the same order. -/
theorem inorder_tree (chain : Chain Text) : chain.tree.inorder = chain.tokens := by
  have joined : ∀ terms : Chain (Chain Tree),
      (terms.map (fold Tree.operation)).inorder = terms.join.inorder := by
    intro terms
    simp [inorder, join, inorder_fold, List.flatMap_map, List.flatMap_assoc]
  rw [tree, value, inorder_fold, joined, join_terms]
  simp [inorder, tokens, Tree.inorder, List.flatMap_map]

/-- A fold over operators of one priority is grouped if its operands are, and hold
together tightly enough for their places. -/
theorem grouped_fold (priority : Nat) {chain : Chain Tree}
    (same : ∀ pair ∈ chain.rest, pair.1.priority = priority)
    (first : chain.first.Grouped ∧ priority ≤ chain.first.rank)
    (rest : ∀ pair ∈ chain.rest, pair.2.Grouped ∧ priority < pair.2.rank) :
    (chain.fold Tree.operation).Grouped ∧ priority ≤ (chain.fold Tree.operation).rank := by
  obtain ⟨start, pairs⟩ := chain
  simp only [fold] at *
  induction pairs generalizing start with
  | nil => exact first
  | cons pair pairs inductionHypothesis =>
      have head := rest pair (List.mem_cons_self ..)
      have priorityEq := same pair (List.mem_cons_self ..)
      refine inductionHypothesis _ (fun later member => same later (List.mem_cons_of_mem _ member))
        ⟨⟨?_, ?_, first.1, head.1⟩, ?_⟩
        (fun later member => rest later (List.mem_cons_of_mem _ member))
      · rw [priorityEq]; exact first.2
      · rw [priorityEq]; exact head.2
      · exact Nat.le_of_eq priorityEq.symm

/-- The tree of a chain is grouped. -/
theorem grouped_tree (chain : Chain Text) : chain.tree.Grouped := by
  have leaf : ∀ tree ∈ (chain.map Tree.operand).operands, tree.Grouped ∧ tree.rank = 3 := by
    intro tree member
    simp only [operands, map, List.map_map, List.mem_cons, List.mem_map] at member
    rcases member with rfl | ⟨pair, -, rfl⟩ <;> exact ⟨trivial, rfl⟩
  have term : ∀ term ∈ (chain.map Tree.operand).terms.operands,
      (term.fold Tree.operation).Grouped ∧ 2 ≤ (term.fold Tree.operation).rank := by
    intro term isTerm
    have isLeaf : ∀ tree ∈ term.operands, tree.Grouped ∧ tree.rank = 3 := fun tree member =>
      leaf tree (mem_operands_of_mem_term isTerm member)
    have firstLeaf := isLeaf _ (List.mem_cons_self ..)
    refine grouped_fold 2 (fun pair member => ?_) ⟨firstLeaf.1, by omega⟩ (fun pair member => ?_)
    · rw [Operator.priority_eq_ite, not_isAdditive_of_mem_term isTerm member]
      rfl
    · have restLeaf := isLeaf _ (List.mem_cons_of_mem _ (List.mem_map_of_mem member))
      exact ⟨restLeaf.1, by omega⟩
  have firstTerm := term _ (List.mem_cons_self ..)
  refine (grouped_fold 1 (fun pair member => ?_) ⟨firstTerm.1, ?_⟩
    (fun pair member => ?_)).1
  · obtain ⟨inner, isInner, rfl⟩ := List.mem_map.1 member
    rw [Operator.priority_eq_ite, isAdditive_of_mem_terms isInner]
    rfl
  · exact Nat.le_trans (by decide) firstTerm.2
  · obtain ⟨inner, isInner, rfl⟩ := List.mem_map.1 member
    have restTerm := term _ (List.mem_cons_of_mem _ (List.mem_map_of_mem isInner))
    exact ⟨restTerm.1, restTerm.2⟩

/-- The tree of a chain has the value of the chain. -/
theorem value?_tree {α : Type} {arithmetic : Arithmetic α} {chain : Chain Text}
    {values : Chain α} (reads : chain.map arithmetic.read? = values.map some) :
    chain.tree.value? arithmetic = some (values.value arithmetic.apply) := by
  let lifted : Operator → Option α → Option α → Option α := fun op left right => do
    return arithmetic.apply op (← left) (← right)
  have onTrees : ((chain.map Tree.operand).map (Tree.value? arithmetic)).value lifted =
      ((chain.map Tree.operand).value Tree.operation).value? arithmetic :=
    value_map (fun op left right => rfl) (chain.map Tree.operand)
  have onValues : (values.map some).value lifted = some (values.value arithmetic.apply) :=
    value_map (fun op left right => rfl) values
  calc chain.tree.value? arithmetic
      = (chain.map arithmetic.read?).value lifted := by
        rw [tree, ← onTrees, map_map]
        rfl
    _ = some (values.value arithmetic.apply) := by rw [reads, onValues]

/-- The postfix order of a chain is the postorder of its tree. -/
theorem order_tokens (chain : Chain Text) :
    Postfix.order chain.tokens = chain.tree.postorder := by
  rw [← inorder_tree, Postfix.order_inorder (grouped_tree chain)]

/-- A grouped tree is determined by its tokens. -/
theorem eq_tree {chain : Chain Text} {tree : Tree} (written : tree.inorder = chain.tokens)
    (grouped : tree.Grouped) : tree = chain.tree := by
  apply Tree.postorder_injective
  rw [← Postfix.order_inorder grouped, written, order_tokens]

end Chain

namespace Postfix

/-- Evaluating the postfix order of a chain gives the value of the chain, for any reading
of numerals and any four operations. The chain has exactly one grouped tree, and its
postfix order is the postorder of that tree. -/
theorem evaluatePostfix_order_tokens {α : Type} (arithmetic : Arithmetic α)
    (chain : Chain Text) (values : Chain α)
    (reads : chain.map arithmetic.read? = values.map some) :
    Expression.evaluatePostfix arithmetic (order chain.tokens) =
        .ok (values.value arithmetic.apply) ∧
      (∃! tree : Tree, tree.inorder = chain.tokens ∧ tree.Grouped) ∧
      ∀ tree : Tree, tree.inorder = chain.tokens → tree.Grouped →
        order chain.tokens = tree.postorder := by
  refine ⟨?_, ⟨chain.tree, ⟨chain.inorder_tree, chain.grouped_tree⟩, ?_⟩, ?_⟩
  · rw [Chain.order_tokens]
    exact Expression.evaluatePostfix_postorder (Chain.value?_tree reads)
  · rintro tree ⟨written, grouped⟩
    exact Chain.eq_tree written grouped
  · intro tree written grouped
    rw [← written, order_inorder grouped]

/-- The doubles of `10-2×3` meet the condition, and the product is taken first. -/
theorem evaluatePostfix_order_tokens_mixed :
    let chain : Chain Text := ⟨['1', '0'], [(.sub, ['2']), (.mul, ['3'])]⟩
    let values : Chain Float := ⟨10, [(.sub, 2), (.mul, 3)]⟩
    chain.map Arithmetic.double.read? = values.map some ∧
      values.value Operator.apply = 4 ∧
      Expression.evaluatePostfix .double (order chain.tokens) =
        .ok (values.value Operator.apply) ∧
      ∃! tree : Tree, tree.inorder = chain.tokens ∧ tree.Grouped := by
  intro chain values
  have reads : chain.map Arithmetic.double.read? = values.map some := by decide +kernel
  have general := evaluatePostfix_order_tokens .double chain values reads
  exact ⟨reads, by decide +kernel, general.1, general.2.1⟩

end Postfix

end Keypad
