import Keypad.Proofs.Entry.Editing

/-!
# Typing a chain

What becomes of the line when the characters of a chain without exponents are typed on
it one by one. Behind other characters an operand stays as it is typed, but that a point
gets a digit in front. On an empty line it loses the zeros it starts with.

An operand of nothing but zeros therefore leaves the line empty, and the operator behind
it is not accepted, or opens a numeral if it is a minus. `Chain.entered` is the chain
that the line holds in the end.
-/

namespace Keypad

open Numeral (Operand Spelling Exponent isDigit)

/-- The key for a character. Characters without a key have one without an action. -/
def Key.forChar (c : Char) : Key :=
  (Key.ofChar? c).getD .decoration

theorem Key.forChar_symbol (op : Operator) : Key.forChar op.symbol = .operator op := by
  cases op <;> rfl

/-- The key of a digit writes the digit. -/
theorem Key.exists_forChar_digit {c : Char} (digit : isDigit c) :
    ∃ value, Key.ofChar? c = some (.digit value) ∧ (Key.digit value).symbol? = some c := by
  obtain ⟨low, high⟩ := (Numeral.isDigit_iff c).1 digit
  have all : ∀ value < 10, (Key.digit value).symbol? = some (Char.ofNat (value + 48)) := by decide
  have bounds : 48 ≤ c.toNat ∧ c.toNat ≤ 57 := ⟨low, high⟩
  have writes := all (c.toNat - 48) (by omega)
  rw [Nat.sub_add_cancel bounds.1, Char.ofNat_toNat] at writes
  exact ⟨_, Key.ofChar?_symbol? writes, writes⟩

namespace Entry

/-- The line after a key that writes on it. -/
def type (line : Text) (key : Key) : Text :=
  match key with
  | .operator .sub => pushMinus line
  | .operator op => (pushOperator? line op).getD line
  | _ => (pushLiteral? line key).getD line

/-- The line after the keys for the characters of a text. -/
def typeAll (line text : Text) : Text :=
  text.foldl (fun line c => type line (Key.forChar c)) line

@[simp] theorem typeAll_nil (line : Text) : typeAll line [] = line := rfl

@[simp] theorem typeAll_cons (line : Text) (c : Char) (text : Text) :
    typeAll line (c :: text) = typeAll (type line (Key.forChar c)) text := rfl

@[simp] theorem typeAll_append (line first second : Text) :
    typeAll line (first ++ second) = typeAll (typeAll line first) second :=
  List.foldl_append

theorem type_digit (line : Text) {c : Char} (digit : isDigit c) :
    type line (Key.forChar c) = pushDigit line c := by
  obtain ⟨value, key, writes⟩ := Key.exists_forChar_digit digit
  simp [type, Key.forChar, key, pushLiteral?, writes]

theorem type_point (line : Text) : type line (Key.forChar '.') = (pushPoint? line).getD line := rfl

theorem append_cons_ne_empty {line : Text} (nonempty : line ≠ []) (c : Char) (rest : Text) :
    line ++ c :: rest ≠ empty := by
  obtain ⟨first, others, rfl⟩ := List.exists_cons_of_ne_nil nonempty
  simp [empty]

theorem concat_ne_empty (before : Text) {last : Char} (other : last ≠ '0') :
    before ++ [last] ≠ empty := by
  intro equal
  have lasts : some last = some '0' := by simpa [empty] using congrArg List.getLast? equal
  exact other (Option.some.inj lasts)

theorem minus_cons_ne_empty (text : Text) : '-' :: text ≠ empty := by
  intro equal
  exact absurd (List.cons.inj equal).1 (by decide)

/-- Where something stands on the line, digits go behind it. -/
theorem typeAll_digits {line digits : Text} (nonempty : line ≠ []) (typed : line ≠ empty)
    (run : ∀ c ∈ digits, isDigit c) : typeAll line digits = line ++ digits := by
  induction digits generalizing line with
  | nil => simp
  | cons c digits inductionHypothesis =>
      have pushed : type line (Key.forChar c) = line ++ [c] := by
        rw [type_digit line (run c (List.mem_cons_self ..)), pushDigit, if_neg typed]
      have longer : line ++ [c] ≠ empty := append_cons_ne_empty nonempty c []
      rw [typeAll_cons, pushed, inductionHypothesis (by simp) longer
        fun other member => run other (List.mem_cons_of_mem _ member)]
      simp

/-- Digits without the zeros they start with, or a single zero if there are no others. -/
def significant (digits : Text) : Text :=
  match digits.dropWhile (· == '0') with
  | [] => ['0']
  | kept => kept

theorem significant_cons_zero (digits : Text) : significant ('0' :: digits) = significant digits :=
  rfl

theorem significant_cons_of_ne {c : Char} (other : c ≠ '0') (digits : Text) :
    significant (c :: digits) = c :: digits := by
  have stops : (c :: digits).dropWhile (· == '0') = c :: digits := by simp [other]
  simp only [significant, stops]

/-- On an empty line only significant digits stay. -/
theorem typeAll_empty_digits {digits : Text} (run : ∀ c ∈ digits, isDigit c) :
    typeAll empty digits = significant digits := by
  induction digits with
  | nil => rfl
  | cons c digits inductionHypothesis =>
      have later := fun other member => run other (List.mem_cons_of_mem c member)
      rw [typeAll_cons, type_digit _ (run c (List.mem_cons_self ..)), pushDigit, if_pos rfl]
      by_cases zero : c = '0'
      · subst zero
        rw [significant_cons_zero]
        exact inductionHypothesis later
      · rw [typeAll_digits (by simp) (by simpa [empty] using zero) later,
          significant_cons_of_ne zero]
        rfl

theorem isDigit_of_mem_significant {digits : Text} (run : ∀ c ∈ digits, isDigit c) :
    ∀ c ∈ significant digits, isDigit c := by
  intro c member
  unfold significant at member
  split at member
  · cases List.mem_singleton.1 member
    rfl
  · exact run c ((List.dropWhile_sublist _).subset member)

theorem significant_ne_nil (digits : Text) : significant digits ≠ [] := by
  unfold significant
  split
  · decide
  · assumption

/-- Zeros in front of digits do not count. -/
theorem digitsValue_significant_append (digits after : Text) :
    Numeral.digitsValue (significant digits ++ after) = Numeral.digitsValue (digits ++ after) := by
  induction digits with
  | nil => rfl
  | cons c digits inductionHypothesis =>
      by_cases zero : c = '0'
      · subst zero
        rw [significant_cons_zero]
        exact inductionHypothesis
      · rw [significant_cons_of_ne zero]

/-- The whole digits that a point gets in front of it. -/
def padding (whole : Text) : Text :=
  if whole = [] then ['0'] else whole

theorem isDigit_of_mem_padding {whole : Text} (run : ∀ c ∈ whole, isDigit c) :
    ∀ c ∈ padding whole, isDigit c := by
  unfold padding
  split
  · exact List.all_eq_true.1 rfl
  · exact run

theorem padding_ne_nil (whole : Text) : padding whole ≠ [] := by
  unfold padding
  split
  · decide
  · assumption

theorem digitsValue_padding_append (whole after : Text) :
    Numeral.digitsValue (padding whole ++ after) = Numeral.digitsValue (whole ++ after) := by
  unfold padding
  split
  · rename_i none
    rw [none]
    rfl
  · rfl

end Entry

namespace Numeral

/-- A spelling with other digits in front of the point. -/
def Spelling.withWhole (spelling : Spelling) (whole : Text) (run : ∀ c ∈ whole, isDigit c)
    (nonempty : whole ≠ []) : Spelling :=
  { spelling with
    whole := whole
    isDigit_of_mem_whole := run
    hasDigit := .inl nonempty }

namespace Operand

/-- The operand as the line holds it behind other characters. -/
def padded (operand : Operand) : Operand where
  negative := operand.negative
  spelling := operand.spelling.withWhole (Entry.padding operand.spelling.whole)
    (Entry.isDigit_of_mem_padding operand.spelling.isDigit_of_mem_whole)
    (Entry.padding_ne_nil _)

/-- The operand without the zeros it starts with. -/
def shortened (operand : Operand) : Operand where
  negative := operand.negative
  spelling := operand.spelling.withWhole (Entry.significant operand.spelling.whole)
    (Entry.isDigit_of_mem_significant operand.spelling.isDigit_of_mem_whole)
    (Entry.significant_ne_nil _)

/-- The operand as the line holds it at its start. -/
def leading (operand : Operand) : Operand :=
  if operand.negative then operand.padded else operand.shortened

@[simp] theorem negative_padded (operand : Operand) :
    operand.padded.negative = operand.negative := rfl

@[simp] theorem value_padded (operand : Operand) : operand.padded.value = operand.value := by
  simp [padded, value, numeral, Spelling.size, Spelling.withWhole,
    Entry.digitsValue_padding_append]

@[simp] theorem value_leading (operand : Operand) : operand.leading.value = operand.value := by
  unfold leading
  split
  · exact value_padded operand
  · simp [shortened, value, numeral, Spelling.size, Spelling.withWhole,
      Entry.digitsValue_significant_append]

/-- Whether an operand is nothing but zeros. -/
def isBareZero (operand : Operand) : Bool :=
  !operand.negative && operand.spelling.places.isNone &&
    operand.spelling.whole.all (· == '0')

/-- Operands that can be typed have no exponent. -/
def Plain (operand : Operand) : Prop :=
  operand.spelling.exponent = none

theorem regular_withWhole {operand : Operand} (plain : operand.Plain) {whole : Text}
    (run : ∀ c ∈ whole, isDigit c) (nonempty : whole ≠ []) :
    (operand.spelling.withWhole whole run nonempty).Regular := by
  refine ⟨nonempty, fun exponent member => ?_⟩
  have none : exponent ∈ operand.spelling.exponent := member
  rw [plain] at none
  cases none

theorem regular_padded {operand : Operand} (plain : operand.Plain) :
    operand.padded.spelling.Regular :=
  regular_withWhole plain _ (Entry.padding_ne_nil _)

theorem regular_leading {operand : Operand} (plain : operand.Plain) :
    operand.leading.spelling.Regular := by
  unfold leading
  split
  · exact regular_padded plain
  · exact regular_withWhole plain _ (Entry.significant_ne_nil _)

end Operand

end Numeral

namespace Entry

/-- A point is taken behind whole digits. -/
theorem type_point_of_whole {before whole : Text} (opens : Opens before)
    (run : ∀ c ∈ whole, isDigit c) (nonempty : whole ≠ []) :
    type (before ++ whole) (Key.forChar '.') = before ++ whole ++ ['.'] := by
  let digits : Spelling := .unscaled whole none nonempty run (by simp)
  have regular : digits.Regular := Spelling.regular_unscaled _ _ _
  have text : digits.text = whole := by simp [digits]
  have numeral := openNumeral_append_text opens regular
  rw [text] at numeral
  have takesPoint : whole.any (fun c => c == '.' || Scanner.isExponentLetter c) = false := by
    rw [List.any_eq_false]
    intro c member
    have other : c ≠ '.' := Numeral.ne_of_isDigit (run c member) rfl
    simp [other, EndsOperand.isExponentLetter (.inl (run c member))]
  simp only [type_point, pushPoint?, numeral, takesPoint, nonempty]
  rfl

/-- Where no numeral is open, a point gets a zero in front. -/
theorem type_point_of_opens {before : Text} (opens : Opens before) :
    type before (Key.forChar '.') = before ++ ['0', '.'] := by
  simp [type_point, pushPoint?, openNumeral_of_opens opens]

/-- Behind whole digits the point and the places stand as they are typed. -/
theorem typeAll_fraction {before : Text} (opens : Opens before) {spelling : Spelling}
    (nonempty : spelling.whole ≠ []) :
    typeAll (before ++ spelling.whole) spelling.fraction =
      before ++ spelling.whole ++ spelling.fraction := by
  obtain ⟨whole, places, exponent, wholeRun, placesRun, hasDigit⟩ := spelling
  cases places with
  | none => simp [Spelling.fraction]
  | some places =>
      have typed : before ++ whole ++ ['.'] ≠ empty := concat_ne_empty _ (by decide)
      have behind : typeAll (before ++ whole ++ ['.']) places =
          before ++ whole ++ ['.'] ++ places := typeAll_digits (by simp) typed placesRun
      simp only [Spelling.fraction, Option.elim_some, typeAll_cons,
        type_point_of_whole opens wholeRun nonempty, behind]
      simp

theorem text_of_plain {spelling : Spelling} (plain : spelling.exponent = none) :
    spelling.text = spelling.whole ++ spelling.fraction := by
  rw [Spelling.text, plain]
  exact List.append_nil _

/-- A line that an operand may follow is not an empty line. -/
theorem Opens.ne_empty {before : Text} (opens : Opens before) : before ≠ empty := by
  rintro rfl
  have closed := openNumeral_of_opens opens
  exact absurd closed (by decide)

/-- Behind other characters an operand gets a digit in front of its point, if it has none. -/
theorem typeAll_spelling {before : Text} (opens : Opens before) (nonempty : before ≠ [])
    {operand : Operand} (plain : operand.Plain) :
    typeAll before operand.spelling.text = before ++ operand.padded.spelling.text := by
  have text : operand.padded.spelling.text =
      operand.padded.spelling.whole ++ operand.spelling.fraction := text_of_plain plain
  have fraction : typeAll (before ++ operand.padded.spelling.whole) operand.spelling.fraction =
      before ++ operand.padded.spelling.whole ++ operand.spelling.fraction :=
    typeAll_fraction opens (padding_ne_nil operand.spelling.whole)
  rw [text, text_of_plain plain, typeAll_append, ← List.append_assoc]
  refine Eq.trans ?_ fraction
  by_cases noWhole : operand.spelling.whole = []
  · obtain ⟨places, point⟩ : ∃ places, operand.spelling.places = some places := by
      have hasDigit := operand.spelling.hasDigit
      cases point : operand.spelling.places with
      | some places => exact ⟨places, rfl⟩
      | none => simp [noWhole, point] at hasDigit
    have zero : operand.padded.spelling.whole = ['0'] := by
      change padding operand.spelling.whole = ['0']
      rw [noWhole]
      rfl
    -- The point brings the zero that the padding has put there already.
    have same : type before (Key.forChar '.') = type (before ++ ['0']) (Key.forChar '.') := by
      rw [type_point_of_opens opens, type_point_of_whole opens (List.all_eq_true.1 rfl) (by decide)]
      simp
    simp only [noWhole, zero, typeAll_nil, Spelling.fraction, point, Option.elim_some,
      typeAll_cons, same]
  · have same : operand.padded.spelling.whole = operand.spelling.whole := if_neg noWhole
    rw [same, typeAll_digits nonempty opens.ne_empty operand.spelling.isDigit_of_mem_whole]

/-- What an operand is on an empty line. -/
theorem typeAll_empty_operand {operand : Operand} (plain : operand.Plain) :
    typeAll empty operand.text = operand.leading.text := by
  obtain ⟨negative, spelling⟩ := operand
  cases negative with
  | true => exact typeAll_spelling .sign (by decide) plain
  | false =>
      let shortened := (Operand.shortened ⟨false, spelling⟩).spelling
      have plain : spelling.exponent = none := plain
      have text : shortened.text = shortened.whole ++ shortened.fraction := text_of_plain plain
      have fraction : typeAll ([] ++ shortened.whole) shortened.fraction =
          [] ++ shortened.whole ++ shortened.fraction :=
        typeAll_fraction .nothing (significant_ne_nil spelling.whole)
      change typeAll empty spelling.text = shortened.text
      rw [text, text_of_plain plain, typeAll_append,
        typeAll_empty_digits spelling.isDigit_of_mem_whole]
      exact fraction

theorem significant_of_forall_zero {digits : Text} (zeros : digits.all (· == '0')) :
    significant digits = ['0'] := by
  have dropped : digits.dropWhile (· == '0') = [] :=
    List.dropWhile_eq_nil_iff.2 (by simpa using zeros)
  rw [significant, dropped]

theorem forall_zero_of_significant {digits : Text} (single : significant digits = ['0']) :
    digits.all (· == '0') := by
  unfold significant at single
  split at single
  · rename_i dropped
    simpa using List.dropWhile_eq_nil_iff.1 dropped
  · have stops := List.head?_dropWhile_not (· == '0') digits
    rw [single] at stops
    simp at stops

/-- Only an operand of nothing but zeros leaves the line empty. -/
theorem text_leading_eq_empty_iff {operand : Operand} (plain : operand.Plain) :
    operand.leading.text = empty ↔ operand.isBareZero := by
  obtain ⟨negative, spelling⟩ := operand
  cases negative with
  | true =>
      have starts : (Operand.leading ⟨true, spelling⟩).text ≠ empty := minus_cons_ne_empty _
      simp [starts, Operand.isBareZero]
  | false =>
      have text : (Operand.leading ⟨false, spelling⟩).text =
          significant spelling.whole ++ spelling.fraction := by
        have plain : (Operand.shortened ⟨false, spelling⟩).spelling.exponent = none := plain
        exact text_of_plain plain
      rw [text]
      constructor
      · intro equal
        obtain ⟨whole, fraction⟩ : significant spelling.whole = ['0'] ∧ spelling.fraction = [] := by
          rcases List.append_eq_singleton_iff.1 equal with ⟨none, -⟩ | single
          · exact absurd none (significant_ne_nil _)
          · exact single
        have noPlaces : spelling.places = none := by
          cases places : spelling.places with
          | none => rfl
          | some run => simp [Spelling.fraction, places] at fraction
        simp only [Operand.isBareZero, noPlaces, forall_zero_of_significant whole]
        rfl
      · intro zero
        simp only [Operand.isBareZero, Bool.and_eq_true, Option.isNone_iff_eq_none] at zero
        obtain ⟨⟨-, noPlaces⟩, zeros⟩ := zero
        rw [significant_of_forall_zero zeros, Spelling.fraction, noPlaces]
        rfl

/-- Behind a chain that is not a single zero every operator is accepted. -/
theorem type_operator {chain : Chain Operand} (regular : chain.Regular)
    (typed : chain.line ≠ empty) (op : Operator) :
    type chain.line (Key.forChar op.symbol) = chain.line ++ [op.symbol] := by
  obtain ⟨before, last, equal, ends⟩ := exists_line_eq_concat regular
  have getLast : chain.line.getLast? = some last := by rw [equal, List.getLast?_concat]
  have noMinus : last ≠ '-' := by
    rintro rfl
    exact absurd ends.isSymbol (by decide)
  rw [Key.forChar_symbol]
  cases op with
  | sub =>
      simp [type, pushMinus, line_ne_nil regular, typed, getLast, noMinus, Operator.symbol]
  | add => simp [type, pushOperator?, typed, getLast, ends.isSymbol]
  | mul => simp [type, pushOperator?, typed, getLast, ends.isSymbol]
  | div => simp [type, pushOperator?, typed, getLast, ends.isSymbol]

/-- Behind an operator other than a minus, a minus is accepted as a sign. -/
theorem type_sign {before : Text} {op : Operator} (other : op ≠ .sub) :
    type (before ++ [op.symbol]) (Key.forChar '-') = before ++ [op.symbol, '-'] := by
  have noMinus : op.symbol ≠ '-' := by
    cases op with
    | sub => exact absurd rfl other
    | _ => decide
  have noZero : op.symbol ≠ '0' := by cases op <;> decide
  have typed : before ++ [op.symbol] ≠ empty := concat_ne_empty before noZero
  change pushMinus _ = _
  simp [pushMinus, typed, noMinus]

/-- Operators and the operands behind them as they are written. -/
def tail (rest : List (Operator × Operand)) : Text :=
  rest.flatMap fun pair => pair.1.symbol :: pair.2.text

theorem line_eq_append_tail (chain : Chain Operand) :
    chain.line = chain.first.text ++ tail chain.rest := by
  obtain ⟨first, rest⟩ := chain
  induction rest generalizing first with
  | nil => simp [tail]
  | cons pair rest inductionHypothesis =>
      have later := inductionHypothesis pair.2
      simp only [Chain.line] at later ⊢
      rw [Chain.map, List.map_cons, Chain.text_cons]
      rw [Chain.map] at later
      rw [later]
      simp [tail]

/-- What can be typed behind an operand: plain operands, with a sign only behind an
operator other than a minus. -/
def Typable (pair : Operator × Operand) : Prop :=
  pair.2.Plain ∧ (pair.2.negative → pair.1 ≠ .sub)

/-- Behind a minus no operand has a sign. -/
theorem Typable.negative_eq_false {operand : Operand} (typable : Typable (.sub, operand)) :
    operand.negative = false := by
  cases negative : operand.negative with
  | false => rfl
  | true => exact absurd rfl (typable.2 negative)

/-- Behind a chain that is not a single zero everything is accepted. -/
theorem typeAll_tail {chain : Chain Operand} (regular : chain.Regular)
    (typed : chain.line ≠ empty) {rest : List (Operator × Operand)}
    (typable : ∀ pair ∈ rest, Typable pair) :
    typeAll chain.line (tail rest) =
      chain.line ++ tail (rest.map fun pair => (pair.1, pair.2.padded)) := by
  induction rest generalizing chain with
  | nil => simp [tail]
  | cons pair rest inductionHypothesis =>
      obtain ⟨op, ⟨negative, spelling⟩⟩ := pair
      obtain ⟨plain, signed⟩ := typable _ (List.mem_cons_self ..)
      have later := fun pair member => typable pair (List.mem_cons_of_mem _ member)
      let operand : Operand := ⟨negative, spelling⟩
      have pushed : typeAll chain.line (op.symbol :: operand.text) =
          (chain.push op operand.padded).line := by
        rw [typeAll_cons, type_operator regular typed, Chain.line_push]
        cases negative with
        | false =>
            have onSpelling := typeAll_spelling (.operator regular op) (by simp) plain
            simpa [Operand.text, Fixed.sign, operand] using onSpelling
        | true =>
            have other := signed rfl
            have onSpelling := typeAll_spelling (.operatorSign regular other) (by simp) plain
            change typeAll _ ('-' :: spelling.text) = _
            rw [typeAll_cons, type_sign other]
            simpa [Operand.text, Fixed.sign, operand] using onSpelling
      have pushedRegular : (chain.push op operand.padded).Regular :=
        Chain.regular_push_iff.2 ⟨regular, Operand.regular_padded plain, signed⟩
      have pushedTyped : (chain.push op operand.padded).line ≠ empty := by
        rw [Chain.line_push]
        exact append_cons_ne_empty (line_ne_nil regular) _ _
      have whole := inductionHypothesis pushedRegular pushedTyped later
      have written : tail ((op, operand) :: rest) = op.symbol :: operand.text ++ tail rest := by
        simp [tail]
      change typeAll chain.line (tail ((op, operand) :: rest)) = _
      rw [written, typeAll_append, pushed, whole, Chain.line_push]
      simp [tail, operand]

end Entry

namespace Chain

/-- A chain that can be typed: its operands are plain, and only behind an operator other
than a minus does an operand have a sign. -/
structure Typable (chain : Chain Operand) : Prop where
  plain : chain.first.Plain
  rest : ∀ pair ∈ chain.rest, Entry.Typable pair

/-- The chain on the line when a chain given by its first operand and the rest has been
typed. A zero at its start leaves the line empty: a minus behind it becomes the sign of
the next operand, and other operators are not accepted. -/
def enteredFrom (first : Operand) : List (Operator × Operand) → Chain Operand
  | [] => ⟨first.leading, []⟩
  | (op, next) :: rest =>
      if first.isBareZero then
        if op = .sub then
          ⟨{ next.padded with negative := true }, rest.map fun pair => (pair.1, pair.2.padded)⟩
        else enteredFrom next rest
      else
        ⟨first.leading, ((op, next) :: rest).map fun pair => (pair.1, pair.2.padded)⟩

/-- The chain on the line when a chain has been typed. -/
def entered (chain : Chain Operand) : Chain Operand :=
  enteredFrom chain.first chain.rest

theorem regular_of_typable {first : Operand} {rest : List (Operator × Operand)}
    (regular : first.spelling.Regular) (typable : ∀ pair ∈ rest, Entry.Typable pair) :
    Regular ⟨first, rest.map fun pair => (pair.1, pair.2.padded)⟩ where
  spelled operand member := by
    rcases List.mem_cons.1 member with rfl | member
    · exact regular
    · simp only [List.map_map, List.mem_map] at member
      obtain ⟨pair, isPair, rfl⟩ := member
      exact Operand.regular_padded (typable pair isPair).1
  signed pair member := by
    obtain ⟨original, isPair, rfl⟩ := List.mem_map.1 member
    exact (typable original isPair).2

/-- The chain on the line has regular spellings. -/
theorem regular_entered {chain : Chain Operand} (typable : chain.Typable) :
    chain.entered.Regular := by
  obtain ⟨first, rest⟩ := chain
  obtain ⟨plain, typable⟩ := typable
  change (enteredFrom first rest).Regular
  induction rest generalizing first with
  | nil => exact regular_single (Operand.regular_leading plain)
  | cons pair rest inductionHypothesis =>
      obtain ⟨op, next⟩ := pair
      obtain ⟨nextPlain, -⟩ := typable _ (List.mem_cons_self ..)
      have later := fun pair member => typable pair (List.mem_cons_of_mem _ member)
      unfold enteredFrom
      split
      · split
        · exact regular_of_typable (Operand.regular_padded nextPlain) later
        · exact inductionHypothesis next nextPlain later
      · exact regular_of_typable (Operand.regular_leading plain) typable

end Chain

namespace Entry

/-- Typing a chain on a chain of one operand that is not a single zero. -/
theorem typeAll_tail_single {operand : Operand} (regular : operand.spelling.Regular)
    (typed : operand.text ≠ empty) {rest : List (Operator × Operand)}
    (typable : ∀ pair ∈ rest, Typable pair) :
    typeAll operand.text (tail rest) =
      Chain.line ⟨operand, rest.map fun pair => (pair.1, pair.2.padded)⟩ := by
  have behind := typeAll_tail (Chain.regular_single regular) (by simpa using typed) typable
  simp only [Chain.line_single] at behind
  rw [behind, line_eq_append_tail]

/-- Typing a chain leaves the entered chain on the line. -/
theorem typeAll_line {chain : Chain Operand} (typable : chain.Typable) :
    typeAll empty chain.line = chain.entered.line := by
  obtain ⟨first, rest⟩ := chain
  obtain ⟨plain, typable⟩ := typable
  change typeAll empty _ = (Chain.enteredFrom first rest).line
  induction rest generalizing first with
  | nil =>
      rw [Chain.line_single, typeAll_empty_operand plain]
      exact (Chain.line_single _).symm
  | cons pair rest inductionHypothesis =>
      obtain ⟨op, next⟩ := pair
      have nextTypable : Typable (op, next) := typable _ (List.mem_cons_self ..)
      have nextPlain : next.Plain := nextTypable.1
      have later := fun pair member => typable pair (List.mem_cons_of_mem _ member)
      rw [line_eq_append_tail, typeAll_append, typeAll_empty_operand plain]
      unfold Chain.enteredFrom
      by_cases zero : first.isBareZero
      · have emptied := (text_leading_eq_empty_iff plain).2 zero
        simp only [emptied, zero, if_true]
        have written : tail ((op, next) :: rest) = op.symbol :: Chain.line ⟨next, rest⟩ := by
          rw [line_eq_append_tail]
          simp [tail]
        rw [written, typeAll_cons, Key.forChar_symbol]
        by_cases minus : op = .sub
        · subst minus
          obtain ⟨negative, spelling⟩ := next
          obtain rfl : negative = false := nextTypable.negative_eq_false
          let signedNext : Operand := { (Operand.padded ⟨false, spelling⟩) with negative := true }
          have regular : signedNext.spelling.Regular := Operand.regular_padded nextPlain
          have onSign : typeAll ['-'] spelling.text = signedNext.text :=
            typeAll_spelling .sign (by decide) nextPlain
          have typed : signedNext.text ≠ empty := minus_cons_ne_empty _
          rw [if_pos rfl, line_eq_append_tail, typeAll_append]
          change typeAll (typeAll ['-'] spelling.text) (tail rest) = _
          rw [onSign]
          exact typeAll_tail_single regular typed later
        · have rejected : type empty (.operator op) = empty := by
            cases op with
            | sub => exact absurd rfl minus
            | _ => rfl
          rw [if_neg minus, rejected]
          exact inductionHypothesis next nextPlain later
      · have typed := mt (text_leading_eq_empty_iff plain).1 zero
        simp only [zero, Bool.false_eq_true, if_false]
        exact typeAll_tail_single (Operand.regular_leading plain) typed typable

end Entry

end Keypad
