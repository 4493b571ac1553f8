import Keypad.Proofs.Display.Soundness
import Keypad.Proofs.Entry.Typing
import Keypad.Proofs.Expression.LeadingZero

/-!
# What is typed is what is computed

Typing a chain on a new display and evaluating it shows the value of the chain, except
where a bare zero would have to be multiplied or divided at the start: on an empty line
those operators are not accepted, and the zero is lost together with its operator. The
other rewritings of the line lose nothing but the sign of a zero, which no readout shows.
-/

namespace Keypad

open Numeral (Operand Spelling isDigit)
open Binary (Alike Opposite IsZero)

namespace Numeral.Operand

/-- An operand of nothing but zeros is zero. -/
theorem isZero_value {operand : Operand} (zero : operand.isBareZero) : IsZero operand.value := by
  obtain ⟨negative, whole, places, exponent, wholeRun, placesRun, hasDigit⟩ := operand
  simp only [isBareZero, Bool.and_eq_true, Bool.not_eq_true', Option.isNone_iff_eq_none] at zero
  obtain ⟨⟨rfl, rfl⟩, zeros⟩ := zero
  have noDigits : digitsValue (whole ++ []) = 0 := by
    rw [← Entry.digitsValue_significant_append, Entry.significant_of_forall_zero zeros]
    rfl
  refine ⟨.positive, ?_⟩
  simp only [value, numeral, Spelling.size, Numeral.value, Option.getD_none, noDigits,
    Binary.ofDecimal, Binary.nearestDecimal_zero]
  rfl

/-- A sign gives an operand the opposite value. -/
theorem opposite_value (spelling : Spelling) :
    Opposite (value ⟨true, spelling⟩) (value ⟨false, spelling⟩) := by
  refine Binary.opposite_ofMagnitude (Nat.lt_of_le_of_lt (Binary.nearestDecimal_le _ _) ?_)
  decide

end Numeral.Operand

namespace Chain

/-- The value of a chain of operands. -/
def amount (chain : Chain Operand) : Float :=
  (chain.map Operand.value).value Operator.apply

/-- Whether a chain given by its first operand and the rest starts with a bare zero that
is multiplied or divided, perhaps behind bare zeros that are added. -/
def losesZeroFrom (first : Operand) : List (Operator × Operand) → Bool
  | [] => false
  | (op, next) :: rest =>
      first.isBareZero && (op == .mul || op == .div || (op == .add && losesZeroFrom next rest))

/-- Whether a zero and its operator get lost when a chain is typed. -/
def losesZero (chain : Chain Operand) : Bool :=
  losesZeroFrom chain.first chain.rest

theorem amount_eq (first : Operand) (rest : List (Operator × Operand)) :
    amount ⟨first, rest⟩ =
      value Operator.apply ⟨first.value, rest.map fun pair => (pair.1, pair.2.value)⟩ := rfl

theorem amount_cons (first next : Operand) (op : Operator) (rest : List (Operator × Operand)) :
    amount ⟨first, (op, next) :: rest⟩ = value Operator.apply (prepend first.value op
      ⟨next.value, rest.map fun pair => (pair.1, pair.2.value)⟩) := rfl

/-- Digits in front of points change no value. -/
theorem amount_padded (first : Operand) (rest : List (Operator × Operand)) :
    amount ⟨first, rest.map fun pair => (pair.1, pair.2.padded)⟩ = amount ⟨first, rest⟩ := by
  simp [amount_eq, Function.comp_def]

/-- The value of a chain depends on the value of its first operand alone. -/
theorem amount_leading (first : Operand) (rest : List (Operator × Operand)) :
    amount ⟨first.leading, rest⟩ = amount ⟨first, rest⟩ := by
  simp [amount_eq]

/-- The chain on the line has the value of the chain that was typed, up to the sign of
zero. -/
theorem alike_amount_entered {chain : Chain Operand} (typable : chain.Typable)
    (keeps : chain.losesZero = false) : Alike chain.amount chain.entered.amount := by
  obtain ⟨first, rest⟩ := chain
  obtain ⟨-, typable⟩ := typable
  change losesZeroFrom first rest = false at keeps
  change Alike _ (enteredFrom first rest).amount
  induction rest generalizing first with
  | nil =>
      rw [enteredFrom, amount_leading]
      exact .refl _
  | cons pair rest inductionHypothesis =>
      obtain ⟨op, next⟩ := pair
      have nextTypable : Entry.Typable (op, next) := typable _ (List.mem_cons_self ..)
      have later := fun pair member => typable pair (List.mem_cons_of_mem _ member)
      unfold enteredFrom
      by_cases zero : first.isBareZero
      · have isZero := Operand.isZero_value zero
        rw [if_pos zero]
        cases op with
        | sub =>
            have unsigned : next.negative = false := nextTypable.negative_eq_false
            have opposite : Opposite (Operand.value { next.padded with negative := true })
                next.value := by
              rw [← Operand.value_padded next]
              have sign := Operand.opposite_value next.padded.spelling
              rwa [← unsigned] at sign
            rw [if_pos rfl, amount_padded, amount_cons, amount_eq]
            exact alike_value_zero_sub isZero opposite _
        | add =>
            have keepsLater : losesZeroFrom next rest = false := by
              simpa [losesZeroFrom, zero] using keeps
            rw [if_neg (by decide), amount_cons]
            refine (alike_value_zero_add isZero _).trans ?_
            rw [← amount_eq]
            exact inductionHypothesis next later keepsLater
        | mul => simp [losesZeroFrom, zero] at keeps
        | div => simp [losesZeroFrom, zero] at keeps
      · rw [if_neg zero, amount_padded, amount_leading]
        exact .refl _

end Chain

namespace Entry

/-- The characters a chain without exponents is written with. -/
def IsTyped (c : Char) : Prop :=
  isDigit c ∨ c = '.' ∨ ∃ op : Operator, c = op.symbol

theorem IsTyped.ofChar?_eq {c : Char} (typed : IsTyped c) :
    Key.ofChar? c = some (Key.forChar c) := by
  rcases typed with digit | rfl | ⟨op, rfl⟩
  · obtain ⟨value, key, -⟩ := Key.exists_forChar_digit digit
    simp [Key.forChar, key]
  · rfl
  · cases op <;> rfl

/-- The key of such a character writes on the line. -/
theorem IsTyped.writes {c : Char} (typed : IsTyped c) :
    (Key.forChar c).isLiteral ∨ (Key.forChar c).isOperator := by
  rcases typed with digit | rfl | ⟨op, rfl⟩
  · obtain ⟨value, key, -⟩ := Key.exists_forChar_digit digit
    simp [Key.forChar, key, Key.isLiteral]
  · exact .inl rfl
  · rw [Key.forChar_symbol]
    exact .inr rfl

theorem IsTyped.isBlank {c : Char} (typed : IsTyped c) : Text.isBlank c = false := by
  rcases typed with digit | rfl | ⟨op, rfl⟩
  · obtain ⟨low, high⟩ := (Numeral.isDigit_iff c).1 digit
    have bounds : 48 ≤ c.toNat ∧ c.toNat ≤ 57 := ⟨low, high⟩
    simp only [Text.isBlank, Bool.or_eq_false_iff, Bool.and_eq_false_iff, decide_eq_false_iff_not,
      beq_eq_false_iff_ne]
    omega
  · rfl
  · cases op <;> rfl

theorem isTyped_of_mem_text {operand : Operand} (plain : operand.Plain) :
    ∀ c ∈ operand.text, IsTyped c := by
  obtain ⟨negative, whole, places, exponent, wholeRun, placesRun, hasDigit⟩ := operand
  have plain : exponent = none := plain
  subst plain
  intro c member
  simp only [Operand.text, Spelling.text, Spelling.fraction, Numeral.exponentText,
    Option.elim_none, List.append_nil, List.mem_append] at member
  rcases member with sign | digit | place
  · cases negative with
    | true => exact .inr (.inr ⟨.sub, List.mem_singleton.1 sign⟩)
    | false => cases sign
  · exact .inl (wholeRun c digit)
  · cases places with
    | none => cases place
    | some run =>
        rcases List.mem_cons.1 place with rfl | digit
        · exact .inr (.inl rfl)
        · exact .inl (placesRun c digit)

theorem isTyped_of_mem_line {chain : Chain Operand} (typable : chain.Typable) :
    ∀ c ∈ chain.line, IsTyped c := by
  intro c member
  rw [line_eq_append_tail, List.mem_append] at member
  rcases member with first | later
  · exact isTyped_of_mem_text typable.plain c first
  · obtain ⟨pair, isPair, member⟩ := List.mem_flatMap.1 later
    rcases List.mem_cons.1 member with rfl | member
    · exact .inr (.inr ⟨pair.1, rfl⟩)
    · exact isTyped_of_mem_text (typable.rest pair isPair).1 c member

/-- The keys of a text are those of its characters. -/
theorem sequence_eq {text : Text} (typed : ∀ c ∈ text, IsTyped c) :
    Key.sequence text = .ok (text.map Key.forChar) := by
  have solid : text.filter (!Text.isBlank ·) = text :=
    List.filter_eq_self.2 fun c member => by simp [(typed c member).isBlank]
  rw [Key.sequence, solid]
  induction text with
  | nil => rfl
  | cons c text inductionHypothesis =>
      have key := (typed c (List.mem_cons_self ..)).ofChar?_eq
      have typedLater := fun other member => typed other (List.mem_cons_of_mem c member)
      have later := inductionHypothesis typedLater
        (List.filter_eq_self.2 fun other member => by simp [(typedLater other member).isBlank])
      rw [List.mapM_cons, Key.ofChar, key, later]
      rfl

end Entry

namespace Display

/-- A new display with something typed on its line. -/
def typed (line : Text) : Display :=
  { initial with buffer := line }

theorem withLine?_typed (line : Text) (line? : Option Text) :
    (typed line).withLine? line? = typed (line?.getD line) := by
  cases line? <;> rfl

/-- A key that writes on a new display acts on the line alone. -/
theorem press_typed (line : Text) {key : Key} (writes : key.isLiteral ∨ key.isOperator) :
    (typed line).press key = .ok (typed (Entry.type line key), none) := by
  have pressed : (typed line).press key = .ok ((typed line).type key, none) := by
    cases key with
    | digit value => rfl
    | point => rfl
    | operator op => rfl
    | _ => rcases writes with literal | operator <;> contradiction
  have onLine : (typed line).type key = typed (Entry.type line key) := by
    cases key with
    | digit value => exact withLine?_typed line (Entry.pushLiteral? line (.digit value))
    | point => exact withLine?_typed line (Entry.pushLiteral? line .point)
    | operator op =>
        cases op with
        | sub => rfl
        | add => exact withLine?_typed line (Entry.pushOperator? line .add)
        | mul => exact withLine?_typed line (Entry.pushOperator? line .mul)
        | div => exact withLine?_typed line (Entry.pushOperator? line .div)
    | _ => rcases writes with literal | operator <;> contradiction
  rw [pressed, onLine]

/-- Keys for characters type them on the line. -/
theorem pressAll_typed (line : Text) {text : Text} (isTyped : ∀ c ∈ text, Entry.IsTyped c)
    (keys : List Key) :
    (typed line).pressAll (text.map Key.forChar ++ keys) =
      (typed (Entry.typeAll line text)).pressAll keys := by
  induction text generalizing line with
  | nil => rfl
  | cons c text inductionHypothesis =>
      have pressed := press_typed line (isTyped c (List.mem_cons_self ..)).writes
      rw [List.map_cons, List.cons_append, pressAll_cons pressed, Entry.typeAll_cons]
      exact inductionHypothesis _ fun other member => isTyped other (List.mem_cons_of_mem _ member)

/-- Typing a chain on a new display and evaluating it shows the value of the chain,
unless a zero at its start gets lost with the multiplication or division behind it. Then
the value of what is left is shown. -/
theorem pressAll_evaluate {chain : Chain Operand} (typable : chain.Typable) :
    ∃ keys display, Key.sequence chain.line = .ok keys ∧
      initial.pressAll (keys ++ [.evaluate]) = .ok display ∧
      Expression.evaluate chain.line = .ok chain.amount ∧
      (chain.losesZero = false → display.buffer = Readout.result chain.amount) ∧
      display.buffer = Readout.result chain.entered.amount := by
  have isTyped := Entry.isTyped_of_mem_line typable
  have regular := Chain.regular_entered typable
  have valued : Expression.evaluate (Entry.expression (typed chain.entered.line).buffer) =
      .ok chain.entered.amount := by
    change Expression.evaluate (Entry.expression chain.entered.line) = _
    rw [Entry.expression_line regular]
    exact chain.entered.evaluate_text
  have evaluated : (typed chain.entered.line).press .evaluate =
      .ok ((typed chain.entered.line).showResult chain.entered.amount, none) :=
    press_evaluate rfl valued
  refine ⟨chain.line.map Key.forChar, (typed chain.entered.line).showResult chain.entered.amount,
    Entry.sequence_eq isTyped, ?_, chain.evaluate_text, fun keeps => ?_, rfl⟩
  · change (typed Entry.empty).pressAll _ = _
    rw [pressAll_typed _ isTyped, Entry.typeAll_line typable, pressAll_cons evaluated]
    rfl
  · exact (Chain.alike_amount_entered typable keeps).result_eq.symm

section Samples

/-- The operand `5`. -/
def five : Operand :=
  ⟨false, ⟨['5'], none, none, List.all_eq_true.1 rfl, Numeral.isDigit_of_mem_nil, by decide⟩⟩

/-- The operand `.5`. -/
def half : Operand :=
  ⟨false, ⟨[], some ['5'], none, Numeral.isDigit_of_mem_nil, List.all_eq_true.1 rfl, by decide⟩⟩

/-- The operand `007`. -/
def seven : Operand :=
  ⟨false, ⟨['0', '0', '7'], none, none, List.all_eq_true.1 rfl, Numeral.isDigit_of_mem_nil,
    by decide⟩⟩

/-- `0-5×.5+007` starts with a zero that leaves no trace, and is `4.5` all the same. -/
theorem pressAll_evaluate_zero_sub :
    ∃ keys display, Key.sequence "0-5×.5+007".toList = .ok keys ∧
      initial.pressAll (keys ++ [.evaluate]) = .ok display ∧ display.buffer = ['4', '.', '5'] := by
  let chain : Chain Operand := ⟨.zero, [(.sub, five), (.mul, half), (.add, seven)]⟩
  have typable : chain.Typable := by
    refine ⟨rfl, fun pair member => ?_⟩
    simp only [chain, List.mem_cons, List.not_mem_nil, or_false] at member
    rcases member with rfl | rfl | rfl <;> exact ⟨rfl, by decide⟩
  obtain ⟨keys, display, sequence, pressed, -, shows, -⟩ := pressAll_evaluate typable
  have written : chain.line = "0-5×.5+007".toList := by decide
  refine ⟨keys, display, written ▸ sequence, pressed, (shows rfl).trans ?_⟩
  decide +kernel

/-- `0×5` shows `5`, since the line takes no multiplication behind a single zero. -/
theorem not_forall_pressAll_evaluate :
    ¬∀ chain : Chain Operand, chain.Typable → ∃ keys display value,
      Key.sequence chain.line = .ok keys ∧
      initial.pressAll (keys ++ [.evaluate]) = .ok display ∧
      Expression.evaluate chain.line = .ok value ∧ display.buffer = Readout.result value := by
  intro computes
  let chain : Chain Operand := ⟨.zero, [(.mul, five)]⟩
  have typable : chain.Typable := by
    refine ⟨rfl, fun pair member => ?_⟩
    cases List.mem_singleton.1 member
    exact ⟨rfl, by decide⟩
  obtain ⟨keys, display, value, sequence, pressed, valued, shows⟩ := computes chain typable
  have keysEq : Key.sequence chain.line = .ok [.digit 0, .operator .mul, .digit 5] := by
    decide +kernel
  cases keysEq.symm.trans sequence
  have shown : initial.pressAll [.digit 0, .operator .mul, .digit 5, .evaluate] =
      .ok ⟨['5'], ['5'], ⟨true, false, false⟩, false⟩ := by decide +kernel
  cases shown.symm.trans pressed
  have product : Expression.evaluate chain.line = .ok 0 := by decide +kernel
  cases product.symm.trans valued
  exact absurd shows (by decide +kernel)

end Samples

end Display

end Keypad
