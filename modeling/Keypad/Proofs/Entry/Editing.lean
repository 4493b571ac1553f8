import Keypad.Proofs.Entry.Grammar

/-!
# Keys on the entry line

Every key that changes the line keeps it in the grammar. A digit makes the last operand
longer or starts one; a point does so where the operand takes one; an operator and a
minus close the last operand; and erasing goes back to what the last character was typed
behind. The expression that a line stands for is a chain.
-/

namespace Keypad.Entry

open Numeral (Operand Spelling Exponent isDigit)

/-- A regular spelling goes on with a digit. -/
theorem exists_text_eq_concat {spelling : Spelling} (regular : spelling.Regular) {c : Char}
    (digit : isDigit c) :
    ∃ longer : Spelling, longer.Regular ∧ longer.text = spelling.text ++ [c] := by
  obtain ⟨whole, places, exponent, wholeRun, placesRun, hasDigit⟩ := spelling
  obtain ⟨nonempty, onExponent⟩ := regular
  have run {digits : Text} (digitsRun : ∀ other ∈ digits, isDigit other) :
      ∀ other ∈ digits ++ [c], isDigit other := by
    intro other member
    rcases List.mem_append.1 member with member | member
    · exact digitsRun other member
    · exact List.mem_singleton.1 member ▸ digit
  cases exponent with
  | some exponent =>
      obtain ⟨letter, sign, digits, isLetter, isSign, digitsNonempty, digitsRun⟩ := exponent
      let longer : Spelling := ⟨whole, places,
        some ⟨letter, sign, digits ++ [c], isLetter, isSign, by simp, run digitsRun⟩,
        wholeRun, placesRun, hasDigit⟩
      refine ⟨longer, ⟨nonempty, ?_⟩, ?_⟩
      · have earlier : letter = 'e' ∧ sign ≠ ['+'] := onExponent _ rfl
        rintro exponent ⟨⟩
        exact earlier
      · simp [longer, Spelling.text, Spelling.fraction, Numeral.exponentText, Exponent.text,
          Exponent.mark]
  | none =>
      cases places with
      | some places =>
          refine ⟨.unscaled whole (some (places ++ [c])) nonempty wholeRun (run placesRun),
            Spelling.regular_unscaled _ _ _, ?_⟩
          simp [Spelling.unscaled, Spelling.text, Spelling.fraction, Numeral.exponentText]
      | none =>
          refine ⟨.unscaled (whole ++ [c]) none (by simp) (run wholeRun) (by simp),
            Spelling.regular_unscaled _ _ _, ?_⟩
          simp [Spelling.unscaled, Spelling.text, Spelling.fraction, Numeral.exponentText]

/-- A digit may stand wherever an operand may start. -/
theorem Opens.isLine_digit {before : Text} (opens : Opens before) {c : Char}
    (digit : isDigit c) : IsLine (before ++ [c]) := by
  have run : ∀ other ∈ [c], isDigit other := by simpa using digit
  have single : Spelling.Regular (.unscaled [c] none (by simp) run (by simp)) :=
    Spelling.regular_unscaled _ _ _
  simpa using opens.isLine_append single

/-- So may a point, with a zero in front of it. -/
theorem Opens.isLine_point {before : Text} (opens : Opens before) :
    IsLine (before ++ ['0', '.']) := by
  have pointed : Spelling.Regular
      (.unscaled ['0'] (some []) (by decide) (List.all_eq_true.1 rfl) (List.all_eq_true.1 rfl)) :=
    Spelling.regular_unscaled _ _ _
  simpa using opens.isLine_append pointed

/-- A line with nothing typed on it. -/
theorem isLine_empty : IsLine empty :=
  .complete (Chain.regular_single Numeral.Operand.regular_zero)

/-- The digits of the digit keys. -/
theorem isDigit_digitChar {value : Nat} (small : value < 10) : isDigit (Nat.digitChar value) := by
  have all : ∀ value < 10, isDigit (Nat.digitChar value) := by decide
  exact all value small

/-- What a key of a numeral writes is a digit or a point. -/
theorem isDigit_of_symbol? {key : Key} (literal : key.isLiteral) (digits : key ≠ .point) {c : Char}
    (writes : key.symbol? = some c) : isDigit c := by
  cases key with
  | digit value =>
      by_cases small : value < 10
      · simp only [Key.symbol?, small, if_true, Option.some.injEq] at writes
        exact writes ▸ isDigit_digitChar small
      · simp [Key.symbol?, small] at writes
  | point => exact absurd rfl digits
  | operator _ => cases literal
  | clear => cases literal
  | backspace => cases literal
  | evaluate => cases literal
  | convert => cases literal
  | decoration => cases literal

/-- A line that starts over with a key of a numeral. -/
theorem isLine_fresh {key : Key} (literal : key.isLiteral) : IsLine (fresh key) := by
  unfold fresh
  split
  · exact Opens.nothing.isLine_point
  · rename_i other
    split
    · rename_i c writes
      exact Opens.nothing.isLine_digit (isDigit_of_symbol? literal other writes)
    · exact isLine_empty

theorem isLine_pushDigit {line : Text} (isLine : IsLine line) {c : Char} (digit : isDigit c) :
    IsLine (pushDigit line c) := by
  unfold pushDigit
  split
  · exact Opens.nothing.isLine_digit digit
  · cases isLine with
    | sign => exact Opens.sign.isLine_digit digit
    | complete regular =>
        obtain ⟨before, spelling, opens, spelled, equal⟩ := exists_opens_of_regular regular
        obtain ⟨longer, longerRegular, text⟩ := exists_text_eq_concat spelled digit
        rw [equal, List.append_assoc, ← text]
        exact opens.isLine_append longerRegular
    | operator regular op => exact (Opens.operator regular op).isLine_digit digit
    | operatorSign regular other => exact (Opens.operatorSign regular other).isLine_digit digit

/-- Characters that are no operators belong to the numeral at the end of a line. -/
theorem openNumeralReversed_append {block : Text}
    (inside : ∀ c ∈ block, Operator.isSymbol c = false) (rest : Text) :
    openNumeralReversed (block ++ rest) = block ++ openNumeralReversed rest := by
  induction block with
  | nil => rfl
  | cons c block inductionHypothesis =>
      have kept := inside c (List.mem_cons_self ..)
      have later := inductionHypothesis fun c member => inside c (List.mem_cons_of_mem _ member)
      simp [openNumeralReversed, kept, later]

/-- The sign of an exponent does not end the numeral. -/
theorem openNumeralReversed_signedMark (rest : Text) :
    openNumeralReversed ('-' :: 'e' :: rest) = '-' :: 'e' :: openNumeralReversed rest := by
  have letter : Operator.isSymbol 'e' = false := rfl
  simp [openNumeralReversed, isSign, endsInExponentLetter, Scanner.isExponentLetter, letter]

/-- Behind an operator, and at the start, no numeral is open. -/
theorem openNumeral_of_opens {before : Text} (opens : Opens before) : openNumeral before = [] := by
  have minus : Operator.isSymbol '-' := rfl
  cases opens with
  | nothing => rfl
  | sign => rfl
  | operator regular op =>
      obtain ⟨shorter, last, equal, ends⟩ := exists_line_eq_concat regular
      simp [openNumeral, openNumeralReversed, equal, endsInExponentLetter, ends.isExponentLetter]
  | @operatorSign chain regular op other =>
      have letter := isExponentLetter_of_isSymbol (Operator.isSymbol_symbol op)
      simp [openNumeral, openNumeralReversed, endsInExponentLetter, letter, minus]

theorem isSymbol_of_isDigit {c : Char} (digit : isDigit c) : Operator.isSymbol c = false :=
  EndsOperand.isSymbol (.inl digit)

/-- In front of its exponent a spelling has no operators. -/
theorem isSymbol_of_mem_significand (spelling : Spelling) :
    ∀ c ∈ spelling.whole ++ spelling.fraction, Operator.isSymbol c = false := by
  obtain ⟨whole, places, exponent, wholeRun, placesRun, hasDigit⟩ := spelling
  intro c member
  rcases List.mem_append.1 member with member | member
  · exact isSymbol_of_isDigit (wholeRun c member)
  · cases places with
    | none => cases member
    | some run =>
        rcases List.mem_cons.1 member with rfl | member
        · rfl
        · exact isSymbol_of_isDigit (placesRun c member)

/-- The numeral at the end of a line is all of a spelling, the sign of its exponent
included. -/
theorem openNumeralReversed_text {spelling : Spelling} (regular : spelling.Regular)
    (before : Text) :
    openNumeralReversed (spelling.text.reverse ++ before) =
      spelling.text.reverse ++ openNumeralReversed before := by
  have significand : ∀ c ∈ (spelling.whole ++ spelling.fraction).reverse,
      Operator.isSymbol c = false := fun c member =>
    isSymbol_of_mem_significand spelling c (List.mem_reverse.1 member)
  have onExponent := regular.2
  unfold Spelling.text
  generalize spelling.whole ++ spelling.fraction = body at significand ⊢
  cases equal : spelling.exponent with
  | none => simpa [Numeral.exponentText] using openNumeralReversed_append significand before
  | some exponent =>
      obtain ⟨small, noPlus⟩ := onExponent exponent equal
      obtain ⟨letter, sign, digits, isLetter, isSign, digitsNonempty, digitsRun⟩ := exponent
      have run : ∀ c ∈ digits.reverse, Operator.isSymbol c = false := fun c member =>
        isSymbol_of_isDigit (digitsRun c (List.mem_reverse.1 member))
      simp only at small noPlus
      subst small
      rcases isSign with rfl | rfl | rfl
      · have marked : ∀ c ∈ 'e' :: body.reverse, Operator.isSymbol c = false := by
          intro c member
          rcases List.mem_cons.1 member with rfl | member
          · rfl
          · exact significand c member
        have onMark := openNumeralReversed_append marked before
        simp only [List.cons_append] at onMark
        simp [Numeral.exponentText, Exponent.text, Exponent.mark,
          openNumeralReversed_append run, onMark]
      · exact absurd rfl noPlus
      · simp [Numeral.exponentText, Exponent.text, Exponent.mark, openNumeralReversed_append run,
          openNumeralReversed_signedMark, openNumeralReversed_append significand]

theorem openNumeral_append_text {before : Text} (opens : Opens before) {spelling : Spelling}
    (regular : spelling.Regular) : openNumeral (before ++ spelling.text) = spelling.text := by
  have closed : openNumeralReversed before.reverse = [] := by
    simpa [openNumeral] using openNumeral_of_opens opens
  simp [openNumeral, openNumeralReversed_text regular, closed]

/-- A spelling with a point or an exponent takes no point. -/
theorem eq_whole_of_takesPoint {spelling : Spelling}
    (takesPoint : spelling.text.any (fun c => c == '.' || Scanner.isExponentLetter c) = false) :
    spelling.places = none ∧ spelling.exponent = none := by
  rw [List.any_eq_false] at takesPoint
  constructor
  · cases equal : spelling.places with
    | none => rfl
    | some run =>
        exact absurd rfl (takesPoint '.' (by simp [Spelling.text, Spelling.fraction, equal]))
  · cases equal : spelling.exponent with
    | none => rfl
    | some exponent =>
        refine absurd ?_ (takesPoint exponent.letter (by
          simp [Spelling.text, Numeral.exponentText, Exponent.text, Exponent.mark, equal]))
        rcases exponent.letter_eq with letter | letter <;>
          simp [letter, Scanner.isExponentLetter]

theorem isLine_pushPoint? {line next : Text} (isLine : IsLine line)
    (accepted : pushPoint? line = some next) : IsLine next := by
  -- Where no numeral is open the point opens one.
  have onOpens {before : Text} (opens : Opens before) (accepted : pushPoint? before = some next) :
      IsLine next := by
    simp only [pushPoint?, openNumeral_of_opens opens] at accepted
    cases accepted
    exact opens.isLine_point
  cases isLine with
  | sign => exact onOpens .sign accepted
  | operator regular op => exact onOpens (.operator regular op) accepted
  | operatorSign regular other => exact onOpens (.operatorSign regular other) accepted
  | complete regular =>
      obtain ⟨before, spelling, opens, spelled, equal⟩ := exists_opens_of_regular regular
      simp only [pushPoint?, equal, openNumeral_append_text opens spelled, spelling.text_ne_nil,
        if_false] at accepted
      split at accepted
      · cases accepted
      · rename_i free
        cases accepted
        obtain ⟨noPlaces, noExponent⟩ := eq_whole_of_takesPoint (by simpa using free)
        have pointed : Spelling.Regular (.unscaled spelling.whole (some []) spelled.1
          spelling.isDigit_of_mem_whole (by simp)) := Spelling.regular_unscaled _ _ _
        have text : spelling.text = spelling.whole := by
          simp [Spelling.text, Spelling.fraction, Numeral.exponentText, noPlaces, noExponent]
        rw [List.append_assoc, text]
        simpa using opens.isLine_append pointed

theorem isLine_pushLiteral? {line next : Text} (isLine : IsLine line) {key : Key}
    (literal : key.isLiteral) (accepted : pushLiteral? line key = some next) : IsLine next := by
  unfold pushLiteral? at accepted
  split at accepted
  · exact isLine_pushPoint? isLine accepted
  · rename_i other
    obtain ⟨c, writes, rfl⟩ := Option.map_eq_some_iff.1 accepted
    exact isLine_pushDigit isLine (isDigit_of_symbol? literal other writes)

theorem isLine_pushMinus {line : Text} (isLine : IsLine line) : IsLine (pushMinus line) := by
  unfold pushMinus
  split
  · exact .sign
  · split
    · exact isLine
    · rename_i noMinus
      cases isLine with
      | sign => exact absurd rfl noMinus
      | complete regular => exact .operator regular .sub
      | operator regular op =>
          rw [List.append_assoc]
          refine .operatorSign regular fun equal => noMinus ?_
          simp [equal, Operator.symbol]
      | operatorSign regular other => simp at noMinus

/-- Where an operator is accepted, the line is a chain. -/
theorem isLine_pushOperator? {line next : Text} (isLine : IsLine line) {op : Operator}
    (accepted : pushOperator? line op = some next) : IsLine next := by
  have minus : Operator.isSymbol '-' := rfl
  unfold pushOperator? at accepted
  cases isLine with
  | sign => cases accepted
  | complete regular =>
      split at accepted
      · cases accepted
      · split at accepted
        · cases accepted
        · cases accepted
          exact .operator regular op
  | operator regular other => simp at accepted
  | operatorSign regular other => simp [minus] at accepted

/-- A line that does not end in the mark of an exponent keeps its end. -/
theorem dropExponentMark_eq_self {c : Char} {before : Text}
    (noLetter : Scanner.isExponentLetter c = false)
    (noMark : isSign c → endsInExponentLetter before = false) :
    dropExponentMark (c :: before) = c :: before := by
  cases before with
  | nil => simp [dropExponentMark, noLetter]
  | cons letter earlier =>
      have unmarked : ¬(isSign c ∧ Scanner.isExponentLetter letter) := by
        rintro ⟨sign, isLetter⟩
        simp [endsInExponentLetter, isLetter] at noMark
        simp [noMark] at sign
      simp [dropExponentMark, noLetter, unmarked]

/-- No line ends in the mark of an exponent. -/
theorem dropExponentMark_reverse {line : Text} (isLine : IsLine line) :
    dropExponentMark line.reverse = line.reverse := by
  cases isLine with
  | sign => rfl
  | complete regular =>
      obtain ⟨before, last, equal, ends⟩ := exists_line_eq_concat regular
      rw [equal, List.reverse_concat]
      exact dropExponentMark_eq_self ends.isExponentLetter (by simp [ends.isSign])
  | operator regular op =>
      obtain ⟨before, last, equal, ends⟩ := exists_line_eq_concat regular
      rw [List.reverse_concat, equal, List.reverse_concat]
      exact dropExponentMark_eq_self (isExponentLetter_of_isSymbol (Operator.isSymbol_symbol op))
        fun _ => ends.isExponentLetter
  | @operatorSign chain regular op other =>
      rw [List.append_cons, List.reverse_concat, List.reverse_concat]
      exact dropExponentMark_eq_self rfl
        fun _ => isExponentLetter_of_isSymbol (Operator.isSymbol_symbol op)

/-- What is left of a line when its last character was typed behind a line. -/
theorem erase_concat {before : Text} (isLine : IsLine before) (c : Char) :
    erase (before ++ [c]) = before := by
  have kept := dropExponentMark_reverse isLine
  obtain ⟨first, rest, rfl⟩ := List.exists_cons_of_ne_nil isLine.ne_nil
  simp only [erase, List.dropLast_concat, kept, List.reverse_reverse]

/-- The first digit of an exponent takes the mark with it. -/
theorem erase_mark {before : Text} (isLine : IsLine before) {mark : Text}
    (isMark : mark = ['e'] ∨ mark = ['e', '-']) (c : Char) :
    erase (before ++ mark ++ [c]) = before := by
  obtain ⟨last, rest, reversed⟩ :=
    List.exists_cons_of_ne_nil (mt List.reverse_eq_nil_iff.1 isLine.ne_nil)
  have dropped : dropExponentMark (before ++ mark).reverse = before.reverse := by
    rcases isMark with rfl | rfl <;>
      simp [dropExponentMark, reversed, isSign, Scanner.isExponentLetter]
  obtain ⟨first, rest, cons⟩ := List.exists_cons_of_ne_nil isLine.ne_nil
  rw [erase, List.dropLast_concat, dropped, List.reverse_reverse, cons]

theorem isLine_erase {line : Text} (isLine : IsLine line) : IsLine (erase line) := by
  cases isLine with
  | sign => exact isLine_empty
  | operator regular op =>
      rw [erase_concat (.complete regular)]
      exact .complete regular
  | @operatorSign chain regular op other =>
      rw [List.append_cons, erase_concat (.operator regular op)]
      exact .operator regular op
  | complete regular =>
      obtain ⟨opening, spelling, opens, spelled, equal⟩ := exists_opens_of_regular regular
      obtain ⟨before, last, text, ends, precedes⟩ := exists_precedes_of_regular spelled
      rw [equal, text, ← List.append_assoc]
      cases precedes with
      | nothing =>
          rw [List.append_nil]
          rcases opens.eq_nil_or_isLine with rfl | isLine
          · exact isLine_empty
          · rw [erase_concat isLine]
            exact isLine
      | spelling shorterRegular =>
          have isLine := opens.isLine_append shorterRegular
          rw [erase_concat isLine]
          exact isLine
      | mark shorterRegular =>
          have isLine := opens.isLine_append shorterRegular
          rw [← List.append_assoc, erase_mark isLine (.inl rfl)]
          exact isLine
      | signedMark shorterRegular =>
          have isLine := opens.isLine_append shorterRegular
          rw [← List.append_assoc, erase_mark isLine (.inr rfl)]
          exact isLine

/-- A chain is the expression it is. -/
theorem expression_line {chain : Chain Operand} (regular : chain.Regular) :
    expression chain.line = chain.line := by
  obtain ⟨before, last, equal, ends⟩ := exists_line_eq_concat regular
  have kept := Text.dropEndWhile_concat_of_not before ends.isSymbol
  obtain ⟨first, rest, cons⟩ := List.exists_cons_of_ne_nil (line_ne_nil regular)
  rw [← equal, cons] at kept
  simp only [expression, cons, kept]

/-- Operators at its end do not count. -/
theorem expression_concat {before : Text} {c : Char} (symbol : Operator.isSymbol c) :
    expression (before ++ [c]) = expression before := by
  simp only [expression, Text.dropEndWhile_concat_of before symbol]

/-- The expression of a line is a chain: zero, or the one the line starts with. -/
theorem exists_expression_eq {line : Text} (isLine : IsLine line) :
    ∃ chain : Chain Operand, chain.Regular ∧ expression line = chain.line := by
  cases isLine with
  | sign => exact ⟨⟨.zero, []⟩, Chain.regular_single Numeral.Operand.regular_zero, rfl⟩
  | @complete chain regular => exact ⟨chain, regular, expression_line regular⟩
  | @operator chain regular op =>
      refine ⟨chain, regular, ?_⟩
      rw [expression_concat (Operator.isSymbol_symbol op), expression_line regular]
  | @operatorSign chain regular op other =>
      refine ⟨chain, regular, ?_⟩
      rw [List.append_cons, expression_concat rfl, expression_concat (Operator.isSymbol_symbol op),
        expression_line regular]

end Keypad.Entry
