import Keypad.Proofs.Expression.Precedence
import Keypad.Proofs.Numeral.Spelling

/-!
# Reading expressions

The scanner reads the displayed form of a canonical token list back as that list. A list
is canonical when its numerals are operands, no two of them are neighbours, and a minus
stands only behind a numeral: anywhere else the scanner would take it for a sign.

A chain of operands is canonical, so its displayed form evaluates to its value.
-/

namespace Keypad

/-- Whether a token list can be told apart in its displayed form, given whether a numeral
stands right in front of it. -/
def Token.CanonicalAfter : Bool → List Token → Prop
  | _, [] => True
  | afterNumeral, .numeral text :: rest =>
      afterNumeral = false ∧ (∃ operand : Numeral.Operand, operand.text = text) ∧
        CanonicalAfter true rest
  | afterNumeral, .operator op :: rest =>
      (op = .sub → afterNumeral = true) ∧ CanonicalAfter false rest

namespace Scanner

/-- Whether an operand may start. -/
def IsOpen : Scanner → Prop
  | .start | .afterOperator _ => True
  | .inNumeral .. => False

/-- The tokens read but not handed out. -/
def held : Scanner → List Token
  | .start => []
  | .inNumeral text _ => [.numeral text]
  | .afterOperator op => [.operator op]

theorem isNumeralChar_of_isDigit {c : Char} (digit : Numeral.isDigit c) : isNumeralChar c := by
  simp [isNumeralChar, digit]

theorem isNumeralChar_symbol (op : Operator) : isNumeralChar op.symbol = false := by
  cases op <;> rfl

theorem isExponentLetter_symbol (op : Operator) : isExponentLetter op.symbol = false := by
  cases op <;> rfl

@[simp] theorem readOperator_symbol (op : Operator) : readOperator op.symbol = .ok op := by
  simp [readOperator]

/-- A step hands out its token before the tokens of the rest. -/
theorem tokensFrom_of_step {scanner next : Scanner} {c : Char} {token : Option Token}
    (steps : scanner.step c = .ok (next, token)) (rest : Text) :
    scanner.tokensFrom (c :: rest) = (token.toList ++ ·) <$> next.tokensFrom rest := by
  rw [tokensFrom, steps]
  change (do return token.toList ++ (← next.tokensFrom rest)) = _
  cases next.tokensFrom rest <;> rfl

/-- A step without a token only moves on. -/
theorem tokensFrom_of_silent_step {scanner next : Scanner} {c : Char}
    (steps : scanner.step c = .ok (next, none)) (rest : Text) :
    scanner.tokensFrom (c :: rest) = next.tokensFrom rest := by
  rw [tokensFrom_of_step steps]
  cases next.tokensFrom rest <;> rfl

theorem tokensFrom_inNumeral_cons {c : Char} (numeral : isNumeralChar c) (text : Text)
    (signAllowed : Bool) (rest : Text) :
    (inNumeral text signAllowed).tokensFrom (c :: rest) =
      (inNumeral (text ++ [c]) false).tokensFrom rest := by
  apply tokensFrom_of_silent_step
  simp [step, numeral]

/-- Digits and points go on with a numeral. -/
theorem tokensFrom_inNumeral_append {block : Text} (numeral : ∀ c ∈ block, isNumeralChar c)
    (text rest : Text) :
    (inNumeral text false).tokensFrom (block ++ rest) =
      (inNumeral (text ++ block) false).tokensFrom rest := by
  induction block generalizing text with
  | nil => simp
  | cons c block inductionHypothesis =>
      have later := inductionHypothesis
        (fun other member => numeral other (List.mem_cons_of_mem _ member)) (text ++ [c])
      rw [List.cons_append, tokensFrom_inNumeral_cons (numeral c (List.mem_cons_self ..)), later]
      simp

/-- An exponent goes on with a numeral, and so does its sign. -/
theorem tokensFrom_inNumeral_exponentText (exponent : Option Numeral.Exponent)
    (text rest : Text) :
    (inNumeral text false).tokensFrom (Numeral.exponentText exponent ++ rest) =
      (inNumeral (text ++ Numeral.exponentText exponent) false).tokensFrom rest := by
  cases exponent with
  | none => simp [Numeral.exponentText]
  | some exponent =>
      obtain ⟨letter, sign, digits, isLetter, isSign, nonempty, run⟩ := exponent
      obtain ⟨d, later, rfl⟩ := List.exists_cons_of_ne_nil nonempty
      have digit := isNumeralChar_of_isDigit (run d (List.mem_cons_self ..))
      have more : ∀ c ∈ later, isNumeralChar c := fun c member =>
        isNumeralChar_of_isDigit (run c (List.mem_cons_of_mem _ member))
      have onLetter : ∀ after, (inNumeral text false).tokensFrom (letter :: after) =
          (inNumeral (text ++ [letter]) true).tokensFrom after := by
        intro after
        apply tokensFrom_of_silent_step
        rcases isLetter with rfl | rfl <;> rfl
      have onSign : ∀ after, (inNumeral (text ++ [letter]) true).tokensFrom
          (sign ++ d :: after) =
            (inNumeral (text ++ letter :: sign ++ [d]) false).tokensFrom after := by
        intro after
        have signed : ∀ c, c = '+' ∨ c = '-' →
            (inNumeral (text ++ [letter]) true).step c =
              .ok (inNumeral (text ++ [letter] ++ [c]) false, none) := by
          rintro c (rfl | rfl) <;> rfl
        rcases isSign with rfl | rfl | rfl
        · simpa using tokensFrom_inNumeral_cons digit (text ++ [letter]) true after
        · rw [List.singleton_append, tokensFrom_of_silent_step (signed '+' (.inl rfl)),
            tokensFrom_inNumeral_cons digit]
          simp
        · rw [List.singleton_append, tokensFrom_of_silent_step (signed '-' (.inr rfl)),
            tokensFrom_inNumeral_cons digit]
          simp
      simp only [Numeral.exponentText, Option.elim_some, Numeral.Exponent.text,
        Numeral.Exponent.mark, List.cons_append, List.append_assoc]
      rw [onLetter, onSign, tokensFrom_inNumeral_append more]
      simp

/-- A whole spelling goes on with a numeral. -/
theorem tokensFrom_inNumeral_spelling (spelling : Numeral.Spelling) (text rest : Text) :
    (inNumeral text false).tokensFrom (spelling.text ++ rest) =
      (inNumeral (text ++ spelling.text) false).tokensFrom rest := by
  have whole : ∀ c ∈ spelling.whole, isNumeralChar c := fun c member =>
    isNumeralChar_of_isDigit (spelling.isDigit_of_mem_whole c member)
  have fraction : ∀ c ∈ spelling.fraction, isNumeralChar c := by
    obtain ⟨_, places, _, _, run, _⟩ := spelling
    cases places with
    | none => simp [Numeral.Spelling.fraction]
    | some places =>
        intro c member
        rcases List.mem_cons.1 member with rfl | member
        · rfl
        · exact isNumeralChar_of_isDigit (run c member)
  simp only [Numeral.Spelling.text, List.append_assoc]
  rw [tokensFrom_inNumeral_append whole, tokensFrom_inNumeral_append fraction,
    tokensFrom_inNumeral_exponentText]
  simp

@[simp] theorem toList_head?_held (scanner : Scanner) :
    scanner.held.head?.toList = scanner.held := by
  cases scanner <;> rfl

/-- Where an operand may start, a step hands out what is held and depends only on what the
character begins. -/
theorem step_of_isOpen {scanner : Scanner} (isOpen : scanner.IsOpen) (c : Char) :
    scanner.step c = (beginOperand c).map fun next => (next, scanner.held.head?) := by
  cases scanner with
  | inNumeral text signAllowed => exact isOpen.elim
  | start =>
      rw [step]
      cases beginOperand c <;> rfl
  | afterOperator op =>
      rw [step]
      cases beginOperand c <;> rfl

/-- What an operand starts with opens a numeral, and the operator held is handed out. -/
theorem tokensFrom_of_beginOperand {scanner : Scanner} (isOpen : scanner.IsOpen) {c : Char}
    {next : Scanner} (begins : beginOperand c = .ok next) (rest : Text) :
    scanner.tokensFrom (c :: rest) = (scanner.held ++ ·) <$> next.tokensFrom rest := by
  have steps : scanner.step c = .ok (next, scanner.held.head?) := by
    rw [step_of_isOpen isOpen, begins]
    rfl
  rw [tokensFrom_of_step steps, toList_head?_held]

/-- An operand is read as one numeral wherever an operand may start. -/
theorem tokensFrom_operand {scanner : Scanner} (isOpen : scanner.IsOpen)
    (operand : Numeral.Operand) (rest : Text) :
    scanner.tokensFrom (operand.text ++ rest) =
      (scanner.held ++ ·) <$> (inNumeral operand.text false).tokensFrom rest := by
  obtain ⟨negative, spelling⟩ := operand
  cases negative with
  | true =>
      have begins : beginOperand '-' = .ok (inNumeral ['-'] false) := rfl
      change scanner.tokensFrom ('-' :: (spelling.text ++ rest)) = _
      rw [tokensFrom_of_beginOperand isOpen begins, tokensFrom_inNumeral_spelling]
      rfl
  | false =>
      obtain ⟨c, later, equal, starts⟩ := spelling.exists_text_eq_cons
      have numeral : isNumeralChar c := by
        rcases starts with digit | rfl
        · exact isNumeralChar_of_isDigit digit
        · rfl
      have begins : beginOperand c = .ok (inNumeral [c] false) := by
        simp [beginOperand, numeral]
      -- The first character opens the numeral that the rest of the spelling goes on with.
      have whole := tokensFrom_inNumeral_spelling spelling [] rest
      rw [equal, List.cons_append, tokensFrom_inNumeral_cons numeral] at whole
      change scanner.tokensFrom (spelling.text ++ rest) = _
      rw [equal, List.cons_append, tokensFrom_of_beginOperand isOpen begins]
      simpa [Numeral.Operand.text, Fixed.sign, equal] using
        congrArg ((scanner.held ++ ·) <$> ·) whole

/-- An operator other than a minus is read as one wherever an operand may start. -/
theorem tokensFrom_symbol {scanner : Scanner} (isOpen : scanner.IsOpen) {op : Operator}
    (other : op ≠ .sub) (rest : Text) :
    scanner.tokensFrom (op.symbol :: rest) =
      (scanner.held ++ ·) <$> (afterOperator op).tokensFrom rest := by
  apply tokensFrom_of_beginOperand isOpen
  cases op with
  | sub => exact absurd rfl other
  | add => rfl
  | mul => rfl
  | div => rfl

/-- Any operator is read as one behind an operand, which it finishes. -/
theorem tokensFrom_operand_symbol (operand : Numeral.Operand) (op : Operator) (rest : Text) :
    (inNumeral operand.text false).tokensFrom (op.symbol :: rest) =
      ([.numeral operand.text] ++ ·) <$> (afterOperator op).tokensFrom rest := by
  have finishes : step (inNumeral operand.text false) op.symbol =
      .ok (afterOperator op, some (.numeral operand.text)) := by
    simp [step, isNumeralChar_symbol, isExponentLetter_symbol, finishNumeral, bind, Except.bind,
      pure, Except.pure]
  exact tokensFrom_of_step finishes rest

/-- A canonical token list is read back from its displayed form, both where an operand may
start and behind an operand. -/
theorem tokensFrom_renderAll (tokens : List Token) :
    (∀ scanner : Scanner, scanner.IsOpen → Token.CanonicalAfter false tokens →
        scanner.tokensFrom (Token.renderAll tokens) = .ok (scanner.held ++ tokens)) ∧
      ∀ operand : Numeral.Operand, Token.CanonicalAfter true tokens →
        (inNumeral operand.text false).tokensFrom (Token.renderAll tokens) =
          .ok (.numeral operand.text :: tokens) := by
  induction tokens with
  | nil =>
      refine ⟨fun scanner isOpen _ => ?_, fun operand _ => ?_⟩
      · cases scanner with
        | inNumeral text signAllowed => exact isOpen.elim
        | start => rfl
        | afterOperator op => rfl
      · simp [tokensFrom, finish, finishNumeral, bind, Except.bind, pure, Except.pure]
  | cons token tokens inductionHypothesis =>
      obtain ⟨onOpen, onNumeral⟩ := inductionHypothesis
      cases token with
      | numeral text =>
          refine ⟨fun scanner isOpen canonical => ?_, fun operand canonical => ?_⟩
          · obtain ⟨-, ⟨operand, rfl⟩, canonical⟩ := canonical
            rw [Token.renderAll_cons, Token.render, tokensFrom_operand isOpen,
              onNumeral operand canonical]
            rfl
          · cases canonical.1
      | operator op =>
          refine ⟨fun scanner isOpen canonical => ?_, fun operand canonical => ?_⟩
          · have other : op ≠ .sub := fun equal => Bool.false_ne_true (canonical.1 equal)
            rw [Token.renderAll_cons, Token.render, List.singleton_append,
              tokensFrom_symbol isOpen other, onOpen (.afterOperator op) trivial canonical.2]
            rfl
          · rw [Token.renderAll_cons, Token.render, List.singleton_append,
              tokensFrom_operand_symbol, onOpen (.afterOperator op) trivial canonical.2]
            rfl

end Scanner

/-- A canonical token list is read back from its displayed form. -/
theorem Token.ofText_renderAll {tokens : List Token} (canonical : CanonicalAfter false tokens) :
    ofText (renderAll tokens) = .ok tokens :=
  (Scanner.tokensFrom_renderAll tokens).1 .start trivial canonical

namespace Chain

open Numeral (Operand)

/-- The tokens of a chain of operands are canonical. -/
theorem canonicalAfter_tokens (chain : Chain Operand) :
    Token.CanonicalAfter false (chain.map Operand.text).tokens := by
  obtain ⟨first, rest⟩ := chain
  refine ⟨rfl, ⟨first, rfl⟩, ?_⟩
  change Token.CanonicalAfter true
    ((rest.map fun pair => (pair.1, pair.2.text)).flatMap fun pair =>
      [.operator pair.1, .numeral pair.2])
  induction rest with
  | nil => trivial
  | cons pair rest inductionHypothesis =>
      exact ⟨fun _ => rfl, rfl, ⟨pair.2, rfl⟩, inductionHypothesis⟩

/-- A chain of operands is read back from its displayed form. -/
theorem ofText_text (chain : Chain Operand) :
    Token.ofText (chain.map Operand.text).text = .ok (chain.map Operand.text).tokens :=
  Token.ofText_renderAll chain.canonicalAfter_tokens

/-- The displayed form of a chain of operands evaluates to the value of the chain. -/
theorem evaluate_text (chain : Chain Operand) :
    Expression.evaluate (chain.map Operand.text).text =
      .ok ((chain.map Operand.value).value Operator.apply) := by
  have reads : (chain.map Operand.text).map Arithmetic.double.read? =
      (chain.map Operand.value).map some := by
    rw [map_map, map_map]
    exact congrArg chain.map (funext Numeral.Operand.read?_text)
  rw [Expression.evaluate, ofText_text]
  change Expression.evaluatePostfix .double _ = _
  rw [order_tokens]
  exact Expression.evaluatePostfix_postorder (value?_tree reads)

end Chain

namespace Numeral.Operand

/-- An operand alone is a single numeral. -/
theorem ofText_text (operand : Operand) :
    Token.ofText operand.text = .ok [.numeral operand.text] := by
  simpa [Chain.map, Chain.tokens] using Chain.ofText_text ⟨operand, []⟩

/-- An operand alone evaluates to itself. -/
theorem evaluate_text (operand : Operand) :
    Expression.evaluate operand.text = .ok operand.value := by
  rw [← Chain.text_single operand.text]
  exact Chain.evaluate_text ⟨operand, []⟩

end Numeral.Operand

end Keypad
