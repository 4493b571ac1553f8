import Keypad.Proofs.Numeral.Spelling

/-!
# Decimal literals

What can be read as a decimal number has a spelling: the converse of
`Spelling.readDecimal?_text`. So a numeral that starts with a digit or a point, behind a
minus or not, is exactly an operand. The words for infinities and NaN, and numerals with
a plus in front, are numerals but no decimal literals.
-/

namespace Keypad.Numeral

/-- A numeral that starts, perhaps behind a minus, with a digit or a point. -/
structure IsDecimal (text : Text) : Prop where
  readable : (read? text).isSome
  starts : ∃ negative c rest, text = Fixed.sign negative ++ c :: rest ∧ (isDigit c ∨ c = '.')

/-- A sign is split off or there is none. -/
theorem exists_sign_append (text : Text) :
    ∃ sign, (sign = [] ∨ sign = ['+'] ∨ sign = ['-']) ∧ sign ++ (splitSign text).2 = text := by
  unfold splitSign
  split
  · exact ⟨['-'], .inr (.inr rfl), rfl⟩
  · exact ⟨['+'], .inr (.inl rfl), rfl⟩
  · exact ⟨[], .inl rfl, rfl⟩

/-- What is read as an exponent is written as one. -/
theorem exists_exponent_of_readExponent? {text : Text} {value : Int}
    (reads : readExponent? text = some value) :
    ∃ exponent : Option Exponent, exponentText exponent = text := by
  cases text with
  | nil => exact ⟨none, rfl⟩
  | cons letter rest =>
      obtain ⟨sign, isSign, split⟩ := exists_sign_append rest
      have digitsSplit := append_splitDigits (splitSign rest).2
      simp only [readExponent?] at reads
      split at reads
      · rename_i isLetter
        split at reads
        · cases reads
        · rename_i complete
          obtain ⟨nonempty, noRest⟩ := not_or.1 complete
          rw [not_not.1 noRest, List.append_nil] at digitsSplit
          refine ⟨some
            { letter := letter
              sign := sign
              digits := (splitDigits (splitSign rest).2).1
              letter_eq := isLetter
              sign_eq := isSign
              digits_ne_nil := nonempty
              isDigit_of_mem_digits := fun _ => isDigit_of_mem_splitDigits }, ?_⟩
          change letter :: sign ++ (splitDigits (splitSign rest).2).1 = letter :: rest
          rw [digitsSplit, List.cons_append, split]
      · cases reads

/-- What is read as a decimal number has a spelling. -/
theorem exists_spelling_of_readDecimal? {text : Text} {size : Size}
    (reads : readDecimal? text = some size) : ∃ spelling : Spelling, spelling.text = text := by
  have wholeSplit := append_splitDigits text
  simp only [readDecimal?] at reads
  split at reads
  · rename_i rest point
    split at reads
    · cases reads
    · rename_i hasDigit
      obtain ⟨value, readsExponent, -⟩ := Option.map_eq_some_iff.1 reads
      obtain ⟨exponent, written⟩ := exists_exponent_of_readExponent? readsExponent
      refine ⟨
        { whole := (splitDigits text).1
          places := some (splitDigits rest).1
          exponent := exponent
          isDigit_of_mem_whole := fun _ => isDigit_of_mem_splitDigits
          isDigit_of_mem_places := fun _ => isDigit_of_mem_splitDigits
          hasDigit := not_and_or.1 hasDigit }, ?_⟩
      rw [Spelling.text, Spelling.fraction, Option.elim_some, written, List.append_assoc,
        List.cons_append, append_splitDigits, ← point, wholeSplit]
  · split at reads
    · cases reads
    · rename_i hasDigit
      obtain ⟨value, readsExponent, -⟩ := Option.map_eq_some_iff.1 reads
      obtain ⟨exponent, written⟩ := exists_exponent_of_readExponent? readsExponent
      refine ⟨
        { whole := (splitDigits text).1
          places := none
          exponent := exponent
          isDigit_of_mem_whole := fun _ => isDigit_of_mem_splitDigits
          isDigit_of_mem_places := isDigit_of_mem_nil
          hasDigit := not_and_or.1 hasDigit }, ?_⟩
      rw [Spelling.text, Spelling.fraction, Option.elim_none, written, List.append_nil,
        wholeSplit]

/-- The decimal literals are the texts of the operands. -/
theorem isDecimal_iff (text : Text) : IsDecimal text ↔ ∃ operand : Operand, operand.text = text := by
  constructor
  · rintro ⟨readable, negative, c, rest, rfl, starts⟩
    have readsDecimal : (readDecimal? (c :: rest)).isSome := by
      simpa [isSome_read?_iff, parse?, splitSign_sign_append negative starts,
        readWord?_cons starts] using readable
    obtain ⟨size, reads⟩ := Option.isSome_iff_exists.1 readsDecimal
    obtain ⟨spelling, written⟩ := exists_spelling_of_readDecimal? reads
    exact ⟨⟨negative, spelling⟩, congrArg (Fixed.sign negative ++ ·) written⟩
  · rintro ⟨⟨negative, spelling⟩, rfl⟩
    obtain ⟨c, rest, equal, starts⟩ := spelling.exists_text_eq_cons
    exact ⟨by simp, negative, c, rest, congrArg (Fixed.sign negative ++ ·) equal, starts⟩

/-- A decimal number starts with a digit or a point. -/
theorem readDecimal?_cons_of_not {c : Char} (notDigit : isDigit c = false) (notPoint : c ≠ '.')
    (rest : Text) : readDecimal? (c :: rest) = none := by
  have split : splitDigits (c :: rest) = ([], c :: rest) := by simp [splitDigits, notDigit]
  simp [readDecimal?, split, notPoint]

end Keypad.Numeral
