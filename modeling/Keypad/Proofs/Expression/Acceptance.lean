import Keypad.Proofs.Expression.Balance

/-!
# Which texts have a value

A text has a value exactly when it can be scanned and its tokens are those of a chain. The
scanner does not see to that: it hands out operators without operands, and the postfix order
exists for any tokens. Two facts close the gap. The postfix order only moves tokens, so it has
as many numerals and operators as the tokens have; and the scanner never puts a numeral behind
a numeral, so tokens with one more numeral than operators have to take turns.
-/

namespace Keypad

namespace Postfix

/-- Tokens are moved, and none is lost or added. -/
theorem orderFrom_perm (waiting : List Operator) (tokens : List Token) :
    (orderFrom waiting tokens).Perm (waiting.map .operator ++ tokens) := by
  induction tokens generalizing waiting with
  | nil => simp [orderFrom]
  | cons token rest inductionHypothesis =>
      cases token with
      | numeral text =>
          exact ((inductionHypothesis waiting).cons _).trans List.perm_middle.symm
      | operator op =>
          have later := inductionHypothesis (op :: waiting.dropWhile (yields op))
          have together : waiting.map Token.operator =
              (waiting.takeWhile (yields op)).map .operator ++
                (waiting.dropWhile (yields op)).map .operator := by
            rw [← List.map_append, List.takeWhile_append_dropWhile]
          rw [orderFrom, together, List.append_assoc]
          exact (later.trans List.perm_middle.symm).append_left _

theorem order_perm (tokens : List Token) : (order tokens).Perm tokens :=
  orderFrom_perm [] tokens

end Postfix

namespace Token

/-- Behind a numeral there are at most as many numerals as operators, and where an operand may
start at most one more. If there are that many, operators and numerals take turns. -/
theorem CanonicalAfter.numerals_le (tokens : List Token) :
    (CanonicalAfter true tokens → numerals tokens ≤ operators tokens ∧
        (numerals tokens = operators tokens →
          ∃ rest : List (Operator × Text),
            tokens = rest.flatMap fun pair => [.operator pair.1, .numeral pair.2])) ∧
      (CanonicalAfter false tokens → numerals tokens ≤ operators tokens + 1 ∧
        (numerals tokens = operators tokens + 1 → ∃ chain : Chain Text, tokens = chain.tokens)) := by
  induction tokens with
  | nil =>
      constructor
      · exact fun _ => ⟨Nat.le_refl _, fun _ => ⟨[], rfl⟩⟩
      · exact fun _ => ⟨Nat.zero_le _, nofun⟩
  | cons token rest inductionHypothesis =>
      obtain ⟨behind, open'⟩ := inductionHypothesis
      cases token with
      | numeral text =>
          constructor
          · intro canonical
            cases canonical.1
          · rintro ⟨-, -, canonical⟩
            obtain ⟨few, turns⟩ := behind canonical
            rw [numerals_cons_numeral, operators_cons_numeral]
            refine ⟨Nat.succ_le_succ few, fun equal => ?_⟩
            obtain ⟨pairs, rfl⟩ := turns (Nat.succ.inj equal)
            exact ⟨⟨text, pairs⟩, rfl⟩
      | operator op =>
          rw [numerals_cons_operator, operators_cons_operator]
          constructor
          · rintro ⟨-, canonical⟩
            obtain ⟨few, turns⟩ := open' canonical
            refine ⟨few, fun equal => ?_⟩
            obtain ⟨chain, rfl⟩ := turns equal
            exact ⟨(op, chain.first) :: chain.rest, rfl⟩
          · rintro ⟨-, canonical⟩
            obtain ⟨few, -⟩ := open' canonical
            exact ⟨by omega, fun equal => by omega⟩

end Token

namespace Chain

/-- If every operand has an image, the images are a chain. -/
theorem exists_map_some {α β : Type} {f : α → Option β} (chain : Chain α)
    (all : ∀ operand ∈ chain.operands, (f operand).isSome) :
    ∃ images : Chain β, chain.map f = images.map some := by
  induction chain using push_induction with
  | single operand =>
      obtain ⟨image, found⟩ := Option.isSome_iff_exists.1 (all operand (by simp [operands]))
      exact ⟨⟨image, []⟩, by simp [map, found]⟩
  | push chain op operand inductionHypothesis =>
      obtain ⟨images, equal⟩ := inductionHypothesis fun other member =>
        all other (by simp [member])
      obtain ⟨image, found⟩ := Option.isSome_iff_exists.1 (all operand (by simp))
      exact ⟨images.push op image, by rw [map_push, map_push, equal, found]⟩

end Chain

namespace Expression

open Token (Canonical numerals operators)

variable {expression : Text} {tokens : List Token}

theorem canonical_of_ofText (scanned : Token.ofText expression = .ok tokens) :
    Token.CanonicalAfter false tokens := by
  have wellFormed : Scanner.start.WellFormed := trivial
  exact Scanner.gives_of_tokensFrom wellFormed scanned

/-- The numerals of a text can be read. -/
theorem isSome_read?_of_ofText (scanned : Token.ofText expression = .ok tokens) {text : Text}
    (member : .numeral text ∈ tokens) : (Arithmetic.double.read? text).isSome :=
  (((Token.canonical_iff tokens).2 (canonical_of_ofText scanned)).isDecimal text member).readable

theorem evaluate_of_ofText (scanned : Token.ofText expression = .ok tokens) :
    evaluate expression = evaluatePostfix .double (Postfix.order tokens) := by
  rw [evaluate, scanned]

/-- A text whose tokens are those of a chain has a value. -/
theorem exists_evaluate_eq_of_chain {chain : Chain Text}
    (scanned : Token.ofText expression = .ok chain.tokens) :
    ∃ value, evaluate expression = .ok value := by
  obtain ⟨values, reads⟩ := chain.exists_map_some fun text member =>
    isSome_read?_of_ofText scanned (Chain.numeral_mem_tokens_iff.2 member)
  refine ⟨values.value Operator.apply, ?_⟩
  rw [evaluate_of_ofText scanned, Chain.order_tokens]
  exact evaluatePostfix_postorder (Chain.value?_tree reads)

/-- A text with any other tokens lacks an operand somewhere. -/
theorem evaluate_of_not_chain (scanned : Token.ofText expression = .ok tokens)
    (noChain : ∀ chain : Chain Text, tokens ≠ chain.tokens) :
    evaluate expression = .error .stackUnderflow := by
  have moved := Postfix.order_perm tokens
  have progress : Proceeds .double (Postfix.order tokens) ∨
      ∃ fault, StopsFirst .double (Postfix.order tokens) fault :=
    proceeds_or_stopsFirst _
  rw [evaluate_of_ofText scanned]
  rcases progress with proceeds | ⟨fault, stopsFirst⟩
  · rcases proceeds.evaluatePostfix_cases with ⟨balanced, -⟩ | ⟨-, underflow⟩
    · have balanced : numerals tokens = operators tokens + 1 := by
        rwa [numerals, operators, moved.countP_eq, moved.countP_eq] at balanced
      obtain ⟨chain, isChain⟩ :=
        ((Token.CanonicalAfter.numerals_le tokens).2 (canonical_of_ofText scanned)).2 balanced
      exact absurd isChain (noChain chain)
    · exact underflow
  · have fails := stopsFirst.evaluatePostfix_eq
    obtain ⟨before, token, after, split, -, stops⟩ := stopsFirst
    cases stops with
    | unsupplied few => exact fails
    | @unreadable text unread =>
        have member : .numeral text ∈ tokens := moved.mem_iff.1 (by simp [split])
        have readable := isSome_read?_of_ofText scanned member
        rw [unread] at readable
        cases readable

/-- A text has a value exactly when its tokens are those of a chain. Evaluating lacks an operand
exactly when the text can be scanned and its tokens are those of no chain, and fails with a
fault of the scanner exactly when scanning does. -/
theorem evaluate_outcome (expression : Text) :
    ((∃ value, evaluate expression = .ok value) ↔
        ∃ chain : Chain Text, Token.ofText expression = .ok chain.tokens) ∧
      (evaluate expression = .error .stackUnderflow ↔
        ∃ tokens, Token.ofText expression = .ok tokens ∧
          ∀ chain : Chain Text, tokens ≠ chain.tokens) ∧
      ∀ fault, evaluate expression = .error (.malformed fault) ↔
        Token.ofText expression = .error fault := by
  cases scanned : Token.ofText expression with
  | error fault =>
      have fails : evaluate expression = .error (.malformed fault) := by
        rw [evaluate, scanned]
      simp [fails]
  | ok tokens =>
      by_cases isChain : ∃ chain : Chain Text, tokens = chain.tokens
      · obtain ⟨chain, rfl⟩ := isChain
        obtain ⟨value, evaluates⟩ := exists_evaluate_eq_of_chain scanned
        simp [evaluates]
      · have noChain := not_exists.1 isChain
        have fails := evaluate_of_not_chain scanned noChain
        simp [fails, noChain]

end Expression

end Keypad
