import Keypad.Number.Fixed
import Keypad.Numeral
import Mathlib

/-!
# Spellings of decimal numerals

A spelling is a decimal numeral taken apart: whole digits, places after a point, and an
exponent. Every spelling can be read, and `parse?_text` says as what. The words for
infinities and NaN have no spelling here.

An operand is a spelling with or without a minus in front.
-/

namespace Keypad.Numeral

/-- A digit is none of the characters that are not. -/
theorem ne_of_isDigit {c other : Char} (digit : isDigit c) (differs : isDigit other = false) :
    c ≠ other := by
  rintro rfl
  simp [differs] at digit

theorem isDigit_iff (c : Char) : isDigit c ↔ '0' ≤ c ∧ c ≤ '9' := by
  simp [isDigit]

/-- The empty run. -/
theorem isDigit_of_mem_nil : ∀ c ∈ ([] : Text), isDigit c :=
  List.forall_mem_nil _

/-- Digits in front of anything else are split off. -/
theorem splitDigits_append {digits : Text} (run : ∀ c ∈ digits, isDigit c) (after : Text)
    (stops : ∀ c ∈ after.head?, isDigit c = false) :
    splitDigits (digits ++ after) = (digits, after) := by
  have none : after.takeWhile isDigit = [] ∧ after.dropWhile isDigit = after := by
    cases after with
    | nil => exact ⟨rfl, rfl⟩
    | cons c rest => simp [stops c rfl]
  rw [splitDigits, List.takeWhile_append_of_pos run, List.dropWhile_append_of_pos run,
    none.1, none.2, List.append_nil]

theorem splitSign_of_ne {c : Char} {rest : Text} (minus : c ≠ '-') (plus : c ≠ '+') :
    splitSign (c :: rest) = (false, c :: rest) := by
  unfold splitSign
  split
  · rename_i equal
    cases equal
    exact absurd rfl minus
  · rename_i equal
    cases equal
    exact absurd rfl plus
  · rfl

/-- No word starts with any other letter than `i` and `n`. -/
theorem readWord?_cons_of_ne {c : Char} (notInfinite : c.toLower ≠ 'i')
    (notNaN : c.toLower ≠ 'n') (rest : Text) : readWord? (c :: rest) = none := by
  rw [readWord?, List.map_cons]
  split
  · rename_i equal; exact absurd (List.cons.inj equal).1 notInfinite
  · rename_i equal; exact absurd (List.cons.inj equal).1 notInfinite
  · rename_i equal; exact absurd (List.cons.inj equal).1 notNaN
  · rfl

/-- Only a decimal numeral starts with a digit or a point. -/
theorem readWord?_cons {c : Char} (starts : isDigit c ∨ c = '.') (rest : Text) :
    readWord? (c :: rest) = none := by
  rcases starts with digit | rfl
  · have same : c.toLower = c := by
      have upper : c ≤ '9' := ((isDigit_iff c).1 digit).2
      have notUpper : ¬(c.val ≥ 'A'.val ∧ c.val ≤ 'Z'.val) := by
        rintro ⟨low, -⟩
        exact absurd (UInt32.le_trans low upper) (by decide)
      simp only [Char.toLower]
      rw [dif_neg notUpper]
    apply readWord?_cons_of_ne <;> rw [same] <;> exact ne_of_isDigit digit rfl
  · exact readWord?_cons_of_ne (by decide) (by decide) rest

/-- A minus, or none, is split off in front of a digit or a point. -/
theorem splitSign_sign_append (negative : Bool) {c : Char} (starts : isDigit c ∨ c = '.')
    (rest : Text) :
    splitSign (Fixed.sign negative ++ c :: rest) = (negative, c :: rest) := by
  cases negative with
  | true => rfl
  | false =>
      rcases starts with digit | rfl
      · exact splitSign_of_ne (ne_of_isDigit digit rfl) (ne_of_isDigit digit rfl)
      · rfl

/-- An exponent as it is written: a letter, perhaps a sign, and at least one digit. -/
structure Exponent where
  letter : Char
  sign : Text
  digits : Text
  letter_eq : letter = 'e' ∨ letter = 'E'
  sign_eq : sign = [] ∨ sign = ['+'] ∨ sign = ['-']
  digits_ne_nil : digits ≠ []
  isDigit_of_mem_digits : ∀ c ∈ digits, isDigit c

namespace Exponent

/-- The letter with the sign. -/
def mark (exponent : Exponent) : Text :=
  exponent.letter :: exponent.sign

/-- The written form. -/
def text (exponent : Exponent) : Text :=
  exponent.mark ++ exponent.digits

/-- The power of ten. -/
def value (exponent : Exponent) : Int :=
  if exponent.sign = ['-'] then -(digitsValue exponent.digits : Int)
  else digitsValue exponent.digits

end Exponent

/-- What a numeral ends in: nothing or an exponent. -/
def exponentText (exponent : Option Exponent) : Text :=
  exponent.elim [] Exponent.text

/-- The power of ten a numeral is scaled by. -/
def exponentValue (exponent : Option Exponent) : Int :=
  exponent.elim 0 Exponent.value

/-- Neither the digits nor the point go on into the exponent. -/
theorem head?_exponentText {exponent : Option Exponent} {c : Char}
    (first : c ∈ (exponentText exponent).head?) : c = 'e' ∨ c = 'E' := by
  cases exponent with
  | none => cases first
  | some exponent =>
      have equal : exponent.letter = c := by
        simpa [exponentText, Exponent.text, Exponent.mark] using first
      exact equal ▸ exponent.letter_eq

theorem isDigit_head?_exponentText {exponent : Option Exponent} {c : Char}
    (first : c ∈ (exponentText exponent).head?) : isDigit c = false := by
  rcases head?_exponentText first with rfl | rfl <;> rfl

/-- An exponent is read as its power of ten. -/
theorem readExponent?_exponentText (exponent : Option Exponent) :
    readExponent? (exponentText exponent) = some (exponentValue exponent) := by
  cases exponent with
  | none => rfl
  | some exponent =>
      obtain ⟨letter, sign, digits, isLetter, isSign, nonempty, run⟩ := exponent
      have split : splitDigits digits = (digits, []) := by
        simpa using splitDigits_append run [] (by simp)
      have unsigned : splitSign digits = (false, digits) := by
        cases digits with
        | nil => exact absurd rfl nonempty
        | cons c rest =>
            have digit := run c (List.mem_cons_self ..)
            exact splitSign_of_ne (ne_of_isDigit digit rfl) (ne_of_isDigit digit rfl)
      rcases isSign with rfl | rfl | rfl
      · simp [exponentText, exponentValue, Exponent.text, Exponent.mark, Exponent.value,
          readExponent?, isLetter, unsigned, split, nonempty]
      · simp [exponentText, exponentValue, Exponent.text, Exponent.mark, Exponent.value,
          readExponent?, isLetter, splitSign, split, nonempty]
      · simp [exponentText, exponentValue, Exponent.text, Exponent.mark, Exponent.value,
          readExponent?, isLetter, splitSign, split, nonempty]

/-- A decimal numeral without a sign as it is written. The point may be there without
places after it, and there may be places without a whole part. -/
structure Spelling where
  whole : Text
  places : Option Text
  exponent : Option Exponent
  isDigit_of_mem_whole : ∀ c ∈ whole, isDigit c
  isDigit_of_mem_places : ∀ c ∈ places.getD [], isDigit c
  hasDigit : whole ≠ [] ∨ places.getD [] ≠ []

namespace Spelling

/-- The point and the places after it. -/
def fraction (spelling : Spelling) : Text :=
  spelling.places.elim [] ('.' :: ·)

/-- The written form. -/
def text (spelling : Spelling) : Text :=
  spelling.whole ++ spelling.fraction ++ exponentText spelling.exponent

/-- The number that is written. -/
def size (spelling : Spelling) : Size :=
  .decimal (digitsValue (spelling.whole ++ spelling.places.getD []))
    (exponentValue spelling.exponent - (spelling.places.getD []).length)

/-- The spellings the calculator writes: there is a whole part, and an exponent has a
small letter and no plus. -/
def Regular (spelling : Spelling) : Prop :=
  spelling.whole ≠ [] ∧
    ∀ exponent ∈ spelling.exponent, exponent.letter = 'e' ∧ exponent.sign ≠ ['+']

/-- The spelling of whole digits and perhaps a point with places, without an exponent. -/
def unscaled (whole : Text) (places : Option Text) (nonempty : whole ≠ [])
    (wholeRun : ∀ c ∈ whole, isDigit c) (placesRun : ∀ c ∈ places.getD [], isDigit c) :
    Spelling where
  whole := whole
  places := places
  exponent := none
  isDigit_of_mem_whole := wholeRun
  isDigit_of_mem_places := placesRun
  hasDigit := .inl nonempty

section Unscaled

variable {whole : Text} {places : Option Text} (nonempty : whole ≠ [])
  (wholeRun : ∀ c ∈ whole, isDigit c) (placesRun : ∀ c ∈ places.getD [], isDigit c)

@[simp] theorem text_unscaled :
    (unscaled whole places nonempty wholeRun placesRun).text =
      whole ++ places.elim [] ('.' :: ·) := by
  simp [unscaled, text, fraction, exponentText]

theorem regular_unscaled : (unscaled whole places nonempty wholeRun placesRun).Regular :=
  ⟨nonempty, by rintro exponent ⟨⟩⟩

end Unscaled

/-- A spelling starts with a digit or a point. -/
theorem exists_text_eq_cons (spelling : Spelling) :
    ∃ c rest, spelling.text = c :: rest ∧ (isDigit c ∨ c = '.') := by
  obtain ⟨whole, places, exponent, wholeRun, placesRun, hasDigit⟩ := spelling
  cases whole with
  | cons c rest =>
      exact ⟨c, _, rfl, .inl (wholeRun c (List.mem_cons_self ..))⟩
  | nil =>
      cases places with
      | none => simp at hasDigit
      | some run => exact ⟨'.', _, rfl, .inr rfl⟩

theorem text_ne_nil (spelling : Spelling) : spelling.text ≠ [] := by
  obtain ⟨c, rest, equal, -⟩ := spelling.exists_text_eq_cons
  simp [equal]

theorem readWord?_text (spelling : Spelling) : readWord? spelling.text = none := by
  obtain ⟨c, rest, equal, starts⟩ := spelling.exists_text_eq_cons
  rw [equal]
  exact readWord?_cons starts rest

theorem readDecimal?_text (spelling : Spelling) :
    readDecimal? spelling.text = some spelling.size := by
  obtain ⟨whole, places, exponent, wholeRun, placesRun, hasDigit⟩ := spelling
  cases places with
  | none =>
      have split := splitDigits_append wholeRun (exponentText exponent)
        (fun c first => isDigit_head?_exponentText first)
      have nonempty : whole ≠ [] := by simpa using hasDigit
      -- Without it the match on what follows the whole part does not reduce.
      have noPoint : ∀ rest, exponentText exponent = '.' :: rest → False := by
        intro rest equal
        have first : '.' ∈ (exponentText exponent).head? := by rw [equal]; rfl
        exact absurd (head?_exponentText first) (by decide)
      simp [readDecimal?, text, fraction, split, nonempty,
        readExponent?_exponentText, size]
  | some run =>
      have split := splitDigits_append wholeRun ('.' :: (run ++ exponentText exponent))
        (by rintro c first; cases first; rfl)
      have splitPlaces := splitDigits_append placesRun (exponentText exponent)
        (fun c first => isDigit_head?_exponentText first)
      simp only [Option.getD_some] at hasDigit splitPlaces
      have nonempty : ¬(whole = [] ∧ run = []) := by
        rintro ⟨rfl, rfl⟩
        simp at hasDigit
      simp [readDecimal?, text, fraction, split, splitPlaces, nonempty,
        readExponent?_exponentText, size]

end Spelling

/-- A decimal numeral as it is written. -/
structure Operand where
  negative : Bool
  spelling : Spelling

namespace Operand

/-- The written form. -/
def text (operand : Operand) : Text :=
  Fixed.sign operand.negative ++ operand.spelling.text

/-- The numeral that is written. -/
def numeral (operand : Operand) : Numeral :=
  ⟨operand.negative, operand.spelling.size⟩

/-- The double that is written. -/
def value (operand : Operand) : Float :=
  operand.numeral.value

/-- The operand written as a single zero. -/
def zero : Operand where
  negative := false
  spelling :=
    { whole := ['0']
      places := none
      exponent := none
      isDigit_of_mem_whole := List.all_eq_true.1 rfl
      isDigit_of_mem_places := isDigit_of_mem_nil
      hasDigit := by decide }

theorem regular_zero : zero.spelling.Regular :=
  ⟨by decide, by rintro exponent ⟨⟩⟩

/-- Every operand is a numeral, with the sign and the number it is written with. -/
theorem parse?_text (operand : Operand) : parse? operand.text = some operand.numeral := by
  obtain ⟨negative, spelling⟩ := operand
  have split : splitSign (Fixed.sign negative ++ spelling.text) = (negative, spelling.text) := by
    obtain ⟨c, rest, equal, starts⟩ := spelling.exists_text_eq_cons
    rw [equal, splitSign_sign_append negative starts]
  simp [parse?, text, split, Spelling.readWord?_text, Spelling.readDecimal?_text, numeral]

@[simp] theorem read?_text (operand : Operand) : read? operand.text = some operand.value := by
  rw [read?, parse?_text]
  rfl

end Operand

end Keypad.Numeral
