import Keypad.Proofs.Expression.Reading
import Keypad.Proofs.Numeral.Literal

/-!
# What the scanner accepts

The converse of reading: a text that is scanned without a fault is the displayed form of
the tokens it gives, up to the form of its operators, and these tokens are canonical. With
`Token.ofText_renderAll` this makes scanning and displaying inverse to each other.

`Token.CanonicalAfter` follows the recursion of the scanner. `Token.Canonical` says the
same of a whole token list, by what stands right in front of each token.
-/

namespace Keypad

namespace Token

/-- Whether a token list ends in a numeral. -/
def EndsInNumeral (tokens : List Token) : Prop :=
  ∃ earlier text, tokens = earlier ++ [.numeral text]

/-- A token list whose numerals are decimal literals, with no numeral right behind a
numeral and no minus but right behind a numeral. -/
structure Canonical (tokens : List Token) : Prop where
  isDecimal : ∀ text, .numeral text ∈ tokens → Numeral.IsDecimal text
  apart : ∀ before text after, tokens = before ++ .numeral text :: after → ¬EndsInNumeral before
  minus : ∀ before after, tokens = before ++ .operator .sub :: after → EndsInNumeral before

def isNumeral : Token → Bool
  | .numeral _ => true
  | .operator _ => false

/-- Whether a token may stand where it does, given whether a numeral stands right in front
of it. -/
def MayStand (afterNumeral : Bool) : Token → Prop
  | .numeral text => afterNumeral = false ∧ Numeral.IsDecimal text
  | .operator op => op = .sub → afterNumeral = true

theorem canonicalAfter_cons_iff (afterNumeral : Bool) (token : Token) (rest : List Token) :
    CanonicalAfter afterNumeral (token :: rest) ↔
      token.MayStand afterNumeral ∧ CanonicalAfter token.isNumeral rest := by
  cases token with
  | numeral text => simp [CanonicalAfter, MayStand, isNumeral, Numeral.isDecimal_iff, and_assoc]
  | operator op => simp [CanonicalAfter, MayStand, isNumeral]

/-- Whether a numeral stands at the end of a token list, or in front of it if it is empty. -/
def numeralBehind (afterNumeral : Bool) (tokens : List Token) : Bool :=
  tokens.foldl (fun _ token => token.isNumeral) afterNumeral

theorem numeralBehind_false_iff (tokens : List Token) :
    numeralBehind false tokens = true ↔ EndsInNumeral tokens := by
  rcases List.eq_nil_or_concat tokens with rfl | ⟨earlier, last, rfl⟩
  · simp [numeralBehind, EndsInNumeral]
  · rw [List.concat_eq_append]
    cases last <;> simp [numeralBehind, EndsInNumeral, isNumeral]

/-- Canonical token lists are those whose every token may stand behind what is in front of
it. -/
theorem canonicalAfter_iff (afterNumeral : Bool) (tokens : List Token) :
    CanonicalAfter afterNumeral tokens ↔
      ∀ before token after, tokens = before ++ token :: after →
        token.MayStand (numeralBehind afterNumeral before) := by
  induction tokens generalizing afterNumeral with
  | nil => simp [CanonicalAfter]
  | cons head rest inductionHypothesis =>
      rw [canonicalAfter_cons_iff, inductionHypothesis]
      constructor
      · rintro ⟨mayStand, later⟩ before token after equal
        cases before with
        | nil =>
            cases equal
            exact mayStand
        | cons first before =>
            cases equal
            exact later before token after rfl
      · intro all
        refine ⟨all [] head rest rfl, fun before token after equal => ?_⟩
        exact all (head :: before) token after (congrArg (head :: ·) equal)

theorem canonical_iff (tokens : List Token) : Canonical tokens ↔ CanonicalAfter false tokens := by
  rw [canonicalAfter_iff]
  constructor
  · rintro ⟨isDecimal, apart, minus⟩ before token after equal
    cases token with
    | numeral text =>
        have member : .numeral text ∈ tokens := by simp [equal]
        refine ⟨?_, isDecimal text member⟩
        rw [Bool.eq_false_iff, ne_eq, numeralBehind_false_iff]
        exact apart before text after equal
    | operator op =>
        rintro rfl
        exact (numeralBehind_false_iff before).2 (minus before after equal)
  · intro mayStand
    constructor
    · intro text member
      obtain ⟨before, after, equal⟩ := List.append_of_mem member
      exact (mayStand before _ after equal).2
    · intro before text after equal
      rw [← numeralBehind_false_iff, ← ne_eq, ← Bool.eq_false_iff]
      exact (mayStand before _ after equal).1
    · intro before after equal
      exact (numeralBehind_false_iff before).1 (mayStand before _ after equal rfl)

/-- Multiplication and division have a displayed form of their own. Every other character
is its own displayed form. -/
theorem displayedChar_eq (c : Char) :
    displayedChar c = if c = '*' then '×' else if c = '/' then '÷' else c := by
  unfold displayedChar Operator.ofChar?
  split
  · rename_i op equal
    split at equal <;> cases equal <;> rfl
  · rename_i none
    split at none <;> simp_all

end Token

theorem Operator.eq_minus_of_ofChar? {c : Char} (writes : ofChar? c = some .sub) : c = '-' := by
  unfold ofChar? at writes
  split at writes <;> first | rfl | cases writes

namespace Scanner

/-- An operator does the same in either form. -/
theorem step_displayedChar (scanner : Scanner) (c : Char) :
    scanner.step (Token.displayedChar c) = scanner.step c := by
  -- Inside a numeral the step reduces only once it is known whether a sign may stand.
  have times : scanner.step '×' = scanner.step '*' := by
    cases scanner with
    | inNumeral text signAllowed => cases signAllowed <;> rfl
    | start => rfl
    | afterOperator op => rfl
  have divide : scanner.step '÷' = scanner.step '/' := by
    cases scanner with
    | inNumeral text signAllowed => cases signAllowed <;> rfl
    | start => rfl
    | afterOperator op => rfl
  rw [Token.displayedChar_eq]
  split
  · rename_i plain
    rw [plain, times]
  · split
    · rename_i plain
      rw [plain, divide]
    · rfl

theorem tokensFrom_displayed (scanner : Scanner) (expression : Text) :
    scanner.tokensFrom (Token.displayed expression) = scanner.tokensFrom expression := by
  induction expression generalizing scanner with
  | nil => rfl
  | cons c rest inductionHypothesis =>
      change scanner.tokensFrom (Token.displayedChar c :: Token.displayed rest) = _
      rw [tokensFrom, tokensFrom, step_displayedChar]
      cases scanner.step c with
      | error fault => rfl
      | ok result =>
          obtain ⟨next, token⟩ := result
          simp only [bind, Except.bind, inductionHypothesis next]

/-- What a text gives is what its first character finishes, and then what the rest gives. -/
theorem exists_of_tokensFrom_cons {scanner : Scanner} {c : Char} {rest : Text}
    {tokens : List Token} (scanned : scanner.tokensFrom (c :: rest) = .ok tokens) :
    ∃ next token later, scanner.step c = .ok (next, token) ∧ next.tokensFrom rest = .ok later ∧
      tokens = token.toList ++ later := by
  cases steps : scanner.step c with
  | error fault =>
      rw [tokensFrom, steps] at scanned
      cases scanned
  | ok result =>
      obtain ⟨next, token⟩ := result
      rw [tokensFrom_of_step steps] at scanned
      cases onRest : next.tokensFrom rest with
      | error fault =>
          rw [onRest] at scanned
          cases scanned
      | ok later =>
          rw [onRest] at scanned
          cases scanned
          exact ⟨next, token, later, rfl, onRest, rfl⟩

theorem readOperator_eq_ok {c : Char} {op : Operator} (reads : readOperator c = .ok op) :
    Operator.ofChar? c = some op := by
  unfold readOperator at reads
  split at reads
  · rename_i found
    cases reads
    exact found
  · cases reads

theorem finishNumeral_eq_ok {text : Text} {token : Token} (finished : finishNumeral text = .ok token) :
    token = .numeral text ∧ (Numeral.read? text).isSome := by
  unfold finishNumeral at finished
  split at finished
  · rename_i readable
    cases finished
    exact ⟨rfl, readable⟩
  · cases finished

/-- A character that opens a numeral where an operand may start. -/
def OpensNumeral (c : Char) : Prop :=
  isNumeralChar c ∨ c = '-'

/-- A character that can go on with a numeral. -/
def ContinuesNumeral (c : Char) : Prop :=
  isNumeralChar c ∨ isExponentLetter c ∨ c = '+' ∨ c = '-'

/-- Where an operand may start, a character opens a numeral, or it is an operator other than
a minus. -/
theorem beginOperand_eq_ok {c : Char} {next : Scanner} (begins : beginOperand c = .ok next) :
    (OpensNumeral c ∧ next = .inNumeral [c] false) ∨
      ∃ op, Operator.ofChar? c = some op ∧ op ≠ .sub ∧ next = .afterOperator op := by
  unfold beginOperand at begins
  split at begins
  · rename_i opens
    cases begins
    exact .inl ⟨by simpa [OpensNumeral] using opens, rfl⟩
  · rename_i closed
    split at begins
    · cases begins
    · cases reads : readOperator c with
      | error fault =>
          rw [reads] at begins
          cases begins
      | ok op =>
          rw [reads] at begins
          cases begins
          have found := readOperator_eq_ok reads
          refine .inr ⟨op, found, ?_, rfl⟩
          rintro rfl
          exact closed (by simp [Operator.eq_minus_of_ofChar? found])

/-- Where an operand may start, a step hands out what is held. -/
theorem step_eq_ok_of_isOpen {scanner next : Scanner} {c : Char} {token : Option Token}
    (isOpen : scanner.IsOpen) (steps : scanner.step c = .ok (next, token)) :
    beginOperand c = .ok next ∧ token.toList = scanner.held := by
  rw [step_of_isOpen isOpen] at steps
  cases begins : beginOperand c with
  | error fault =>
      rw [begins] at steps
      cases steps
  | ok opened =>
      rw [begins] at steps
      cases steps
      exact ⟨rfl, toList_head?_held scanner⟩

/-- Inside a numeral, a character goes on with it, or it is an operator that finishes it. -/
theorem step_inNumeral_eq_ok {text : Text} {signAllowed : Bool} {next : Scanner} {c : Char}
    {token : Option Token} (steps : (inNumeral text signAllowed).step c = .ok (next, token)) :
    (ContinuesNumeral c ∧ token = none ∧ ∃ allowed, next = .inNumeral (text ++ [c]) allowed) ∨
      ∃ op, Operator.ofChar? c = some op ∧ next = .afterOperator op ∧
        token = some (.numeral text) ∧ (Numeral.read? text).isSome := by
  rw [step] at steps
  split at steps
  · rename_i continues
    cases steps
    refine .inl ⟨?_, rfl, false, rfl⟩
    simp only [Bool.or_eq_true, Bool.and_eq_true, beq_iff_eq] at continues
    rcases continues with numeral | ⟨-, plus | minus⟩
    · exact .inl numeral
    · exact .inr (.inr (.inl plus))
    · exact .inr (.inr (.inr minus))
  · split at steps
    · rename_i letter
      cases steps
      exact .inl ⟨.inr (.inl letter), rfl, true, rfl⟩
    · cases reads : readOperator c with
      | error fault =>
          rw [reads] at steps
          cases steps
      | ok op =>
          cases finished : finishNumeral text with
          | error fault =>
              rw [reads, finished] at steps
              cases steps
          | ok numeral =>
              rw [reads, finished] at steps
              cases steps
              obtain ⟨rfl, readable⟩ := finishNumeral_eq_ok finished
              exact .inr ⟨op, readOperator_eq_ok reads, rfl, rfl, readable⟩

/-- At the end of a text, what is held is handed out, if it can be read. -/
theorem tokensFrom_nil_eq_ok {scanner : Scanner} {tokens : List Token}
    (scanned : scanner.tokensFrom [] = .ok tokens) :
    tokens = scanner.held ∧
      ∀ text signAllowed, scanner = .inNumeral text signAllowed → (Numeral.read? text).isSome := by
  cases scanner with
  | start =>
      cases scanned
      exact ⟨rfl, nofun⟩
  | afterOperator op =>
      cases scanned
      exact ⟨rfl, nofun⟩
  | inNumeral text signAllowed =>
      cases finished : finishNumeral text with
      | error fault =>
          rw [tokensFrom, finish, finished] at scanned
          cases scanned
      | ok token =>
          rw [tokensFrom, finish, finished] at scanned
          cases scanned
          obtain ⟨rfl, readable⟩ := finishNumeral_eq_ok finished
          exact ⟨rfl, fun _ _ equal => by cases equal; exact readable⟩

theorem displayedChar_of_continuesNumeral {c : Char} (continues : ContinuesNumeral c) :
    Token.displayedChar c = c := by
  have notTimes : c ≠ '*' := by
    rintro rfl
    revert continues
    unfold ContinuesNumeral
    decide
  have notOver : c ≠ '/' := by
    rintro rfl
    revert continues
    unfold ContinuesNumeral
    decide
  rw [Token.displayedChar_eq, if_neg notTimes, if_neg notOver]

theorem OpensNumeral.continues {c : Char} (opens : OpensNumeral c) : ContinuesNumeral c := by
  rcases opens with numeral | minus
  · exact .inl numeral
  · exact .inr (.inr (.inr minus))

/-- One step: the displayed form of what is held grows by the character. -/
theorem renderAll_step {scanner next : Scanner} {c : Char} {token : Option Token}
    (steps : scanner.step c = .ok (next, token)) :
    Token.renderAll token.toList ++ Token.renderAll next.held =
      Token.renderAll scanner.held ++ [Token.displayedChar c] := by
  have ofOperator {op : Operator} (writes : Operator.ofChar? c = some op) :
      Token.renderAll (afterOperator op).held = [Token.displayedChar c] := by
    simp [held, Token.displayedChar, Token.render, writes]
  have onOpen (isOpen : scanner.IsOpen) :
      Token.renderAll token.toList ++ Token.renderAll next.held =
        Token.renderAll scanner.held ++ [Token.displayedChar c] := by
    obtain ⟨begins, handedOut⟩ := step_eq_ok_of_isOpen isOpen steps
    rcases beginOperand_eq_ok begins with ⟨opens, rfl⟩ | ⟨op, writes, -, rfl⟩
    · rw [handedOut, displayedChar_of_continuesNumeral opens.continues]
      simp [held, Token.render]
    · rw [handedOut, ofOperator writes]
  cases scanner with
  | start => exact onOpen trivial
  | afterOperator op => exact onOpen trivial
  | inNumeral text signAllowed =>
      rcases step_inNumeral_eq_ok steps with ⟨continues, rfl, allowed, rfl⟩ | ⟨op, writes, rfl, rfl, -⟩
      · rw [displayedChar_of_continuesNumeral continues]
        simp [held, Token.render]
      · rw [ofOperator writes]
        simp [held, Token.render]

/-- Nothing of a text is lost, added or moved: the tokens are displayed as what was held and
the text. -/
theorem renderAll_of_tokensFrom {scanner : Scanner} {expression : Text} {tokens : List Token}
    (scanned : scanner.tokensFrom expression = .ok tokens) :
    Token.renderAll tokens = Token.renderAll scanner.held ++ Token.displayed expression := by
  induction expression generalizing scanner tokens with
  | nil =>
      obtain ⟨rfl, -⟩ := tokensFrom_nil_eq_ok scanned
      simp [Token.displayed]
  | cons c rest inductionHypothesis =>
      obtain ⟨next, token, later, steps, onRest, rfl⟩ := exists_of_tokensFrom_cons scanned
      rw [Token.renderAll_append, inductionHypothesis onRest, ← List.append_assoc,
        renderAll_step steps]
      simp [Token.displayed]

/-- A numeral being scanned is made of the characters of decimal literals. -/
def WellFormed : Scanner → Prop
  | .inNumeral text _ =>
      ∃ c rest, text = c :: rest ∧ OpensNumeral c ∧ ∀ d ∈ rest, ContinuesNumeral d
  | _ => True

theorem wellFormed_step {scanner next : Scanner} {c : Char} {token : Option Token}
    (wellFormed : scanner.WellFormed) (steps : scanner.step c = .ok (next, token)) :
    next.WellFormed := by
  have onOpen (isOpen : scanner.IsOpen) : next.WellFormed := by
    obtain ⟨begins, -⟩ := step_eq_ok_of_isOpen isOpen steps
    rcases beginOperand_eq_ok begins with ⟨opens, rfl⟩ | ⟨op, -, -, rfl⟩
    · exact ⟨c, [], rfl, opens, List.forall_mem_nil _⟩
    · trivial
  cases scanner with
  | start => exact onOpen trivial
  | afterOperator op => exact onOpen trivial
  | inNumeral text signAllowed =>
      obtain ⟨first, rest, rfl, opens, later⟩ := wellFormed
      rcases step_inNumeral_eq_ok steps with ⟨continues, -, allowed, rfl⟩ | ⟨op, -, rfl, -, -⟩
      · refine ⟨first, rest ++ [c], rfl, opens, fun d member => ?_⟩
        rcases List.mem_append.1 member with earlier | last
        · exact later d earlier
        · rw [List.mem_singleton.1 last]
          exact continues
      · trivial

theorem isDigit_or_point_of_isNumeralChar {c : Char} (numeral : isNumeralChar c) :
    Numeral.isDigit c ∨ c = '.' := by
  simpa [isNumeralChar] using numeral

/-- Nothing is read behind a minus that starts with an exponent letter or another sign. -/
theorem read?_minus_cons {c : Char} (mark : isExponentLetter c ∨ c = '+' ∨ c = '-') (rest : Text) :
    Numeral.read? ('-' :: c :: rest) = none := by
  have noNumber (notInfinite : c.toLower ≠ 'i') (notNaN : c.toLower ≠ 'n')
      (notDigit : Numeral.isDigit c = false) (notPoint : c ≠ '.') :
      Numeral.read? ('-' :: c :: rest) = none := by
    simp [Numeral.read?, Numeral.parse?, Numeral.splitSign,
      Numeral.readWord?_cons_of_ne notInfinite notNaN,
      Numeral.readDecimal?_cons_of_not notDigit notPoint]
  rcases mark with letter | rfl | rfl
  · simp only [isExponentLetter, Bool.or_eq_true, beq_iff_eq] at letter
    rcases letter with rfl | rfl
    · exact noNumber (by decide) (by decide) rfl (by decide)
    · exact noNumber (by decide) (by decide) rfl (by decide)
  · exact noNumber (by decide) (by decide) rfl (by decide)
  · exact noNumber (by decide) (by decide) rfl (by decide)

/-- A numeral of these characters is a decimal literal: what is read behind a minus is no
word, so it starts with a digit or a point. -/
theorem isDecimal_of_wellFormed {text : Text} {signAllowed : Bool}
    (wellFormed : (inNumeral text signAllowed).WellFormed)
    (readable : (Numeral.read? text).isSome) : Numeral.IsDecimal text := by
  refine ⟨readable, ?_⟩
  obtain ⟨first, rest, rfl, numeral | rfl, continues⟩ := wellFormed
  · exact ⟨false, first, rest, rfl, isDigit_or_point_of_isNumeralChar numeral⟩
  · cases rest with
    | nil => cases readable
    | cons second rest =>
        rcases continues second (List.mem_cons_self ..) with numeral | mark
        · exact ⟨true, second, rest, rfl, isDigit_or_point_of_isNumeralChar numeral⟩
        · rw [read?_minus_cons mark] at readable
          cases readable

/-- What a scanner gives: the operator it holds comes first, and the numeral it holds comes
first or starts the first numeral. -/
def Gives : Scanner → List Token → Prop
  | .start, tokens => Token.CanonicalAfter false tokens
  | .afterOperator op, tokens =>
      ∃ rest, tokens = .operator op :: rest ∧ Token.CanonicalAfter false rest
  | .inNumeral .., tokens =>
      ∃ text rest, tokens = .numeral text :: rest ∧ Numeral.IsDecimal text ∧
        Token.CanonicalAfter true rest

/-- What comes behind a numeral may start with any operator. -/
theorem Gives.canonicalAfter_true {op : Operator} {tokens : List Token}
    (gives : (afterOperator op).Gives tokens) : Token.CanonicalAfter true tokens := by
  obtain ⟨rest, rfl, canonical⟩ := gives
  exact ⟨fun _ => rfl, canonical⟩

/-- What comes where an operand may start: a numeral, or an operator other than a minus. -/
theorem Gives.canonicalAfter_false {c : Char} {next : Scanner} {tokens : List Token}
    (begins : beginOperand c = .ok next) (gives : next.Gives tokens) :
    Token.CanonicalAfter false tokens := by
  rcases beginOperand_eq_ok begins with ⟨-, rfl⟩ | ⟨op, -, other, rfl⟩
  · obtain ⟨text, rest, rfl, isDecimal, canonical⟩ := gives
    exact ⟨rfl, (Numeral.isDecimal_iff text).1 isDecimal, canonical⟩
  · obtain ⟨rest, rfl, canonical⟩ := gives
    exact ⟨fun minus => absurd minus other, canonical⟩

/-- The tokens of a text are canonical. -/
theorem gives_of_tokensFrom {scanner : Scanner} (wellFormed : scanner.WellFormed)
    {expression : Text} {tokens : List Token}
    (scanned : scanner.tokensFrom expression = .ok tokens) : scanner.Gives tokens := by
  induction expression generalizing scanner tokens with
  | nil =>
      obtain ⟨rfl, readable⟩ := tokensFrom_nil_eq_ok scanned
      cases scanner with
      | start => trivial
      | afterOperator op => exact ⟨[], rfl, trivial⟩
      | inNumeral text signAllowed =>
          exact ⟨text, [], rfl, isDecimal_of_wellFormed wellFormed (readable _ _ rfl), trivial⟩
  | cons c rest inductionHypothesis =>
      obtain ⟨next, token, later, steps, onRest, rfl⟩ := exists_of_tokensFrom_cons scanned
      have gives := inductionHypothesis (wellFormed_step wellFormed steps) onRest
      cases scanner with
      | start =>
          have isOpen : start.IsOpen := trivial
          obtain ⟨begins, handedOut⟩ := step_eq_ok_of_isOpen isOpen steps
          rw [handedOut]
          exact gives.canonicalAfter_false begins
      | afterOperator op =>
          have isOpen : (afterOperator op).IsOpen := trivial
          obtain ⟨begins, handedOut⟩ := step_eq_ok_of_isOpen isOpen steps
          rw [handedOut]
          exact ⟨later, rfl, gives.canonicalAfter_false begins⟩
      | inNumeral text signAllowed =>
          rcases step_inNumeral_eq_ok steps with
            ⟨-, rfl, allowed, rfl⟩ | ⟨op, -, rfl, rfl, readable⟩
          · exact gives
          · exact ⟨text, later, rfl, isDecimal_of_wellFormed wellFormed readable,
              gives.canonicalAfter_true⟩

end Scanner

/-- Exactly the texts that are canonical token lists in their displayed form, up to the form
of the operators, can be scanned, and they give these token lists. -/
theorem Token.ofText_eq_ok_iff (expression : Text) (tokens : List Token) :
    (ofText expression = .ok tokens ↔
      Canonical tokens ∧ renderAll tokens = displayed expression) ∧
    (ofText (renderAll tokens) = .ok tokens ↔ Canonical tokens) := by
  have canonical {text : Text} (scanned : ofText text = .ok tokens) : Canonical tokens := by
    have wellFormed : Scanner.start.WellFormed := trivial
    exact (canonical_iff tokens).2 (Scanner.gives_of_tokensFrom wellFormed scanned)
  have recovered (isCanonical : Canonical tokens) : ofText (renderAll tokens) = .ok tokens :=
    ofText_renderAll ((canonical_iff tokens).1 isCanonical)
  refine ⟨⟨fun scanned => ⟨canonical scanned, ?_⟩, ?_⟩, canonical, recovered⟩
  · exact Scanner.renderAll_of_tokensFrom scanned
  · rintro ⟨isCanonical, shown⟩
    calc ofText expression
        = ofText (displayed expression) := (Scanner.tokensFrom_displayed .start expression).symm
      _ = ofText (renderAll tokens) := by rw [shown]
      _ = .ok tokens := recovered isCanonical

end Keypad
