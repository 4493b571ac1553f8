import Keypad.Proofs.Numeral.Spelling
import Keypad.Readout

/-!
# The shape of a readout

The readout of a finite value is an operand with a regular spelling, so it can stand on
the entry line and be read back. Nothing here says which number is written.
-/

namespace Keypad

namespace Text

theorem mem_of_mem_dropEndWhile {drop : Char → Bool} {text : Text} {c : Char}
    (member : c ∈ dropEndWhile drop text) : c ∈ text := by
  rw [dropEndWhile, List.mem_reverse] at member
  exact List.mem_reverse.1 ((List.dropWhile_sublist drop).subset member)

/-- A character that is kept protects what stands before it. -/
theorem dropEndWhile_append_cons_of_not {drop : Char → Bool} {c : Char}
    (kept : drop c = false) (before after : Text) :
    dropEndWhile drop (before ++ c :: after) = before ++ c :: dropEndWhile drop after := by
  simp only [dropEndWhile, List.reverse_append, List.reverse_cons, List.append_assoc,
    List.singleton_append, List.dropWhile_append]
  split
  · rename_i gone
    simp [List.isEmpty_iff.1 gone, kept]
  · simp

/-- Nothing is dropped from a text whose characters are all kept. -/
theorem dropEndWhile_of_forall_not {drop : Char → Bool} {text : Text}
    (kept : ∀ c ∈ text, drop c = false) : dropEndWhile drop text = text := by
  rcases List.eq_nil_or_concat text with rfl | ⟨before, c, rfl⟩
  · rfl
  · rw [List.concat_eq_append] at *
    exact dropEndWhile_concat_of_not before (kept c (by simp))

end Text

namespace Fixed

open Numeral (Spelling Exponent Operand isDigit)

theorem isDigit_of_mem_toDigits {n : Nat} {c : Char} (member : c ∈ Nat.toDigits 10 n) :
    isDigit c := by
  have digit := Nat.isDigit_of_mem_toDigits (by decide) (by decide) member
  simpa [Char.isDigit, Numeral.isDigit, Char.le_def] using digit

theorem isDigit_of_mem_leftpad {places n : Nat} {c : Char}
    (member : c ∈ (Nat.toDigits 10 n).leftpad places '0') : isDigit c := by
  rw [List.leftpad, List.mem_append] at member
  rcases member with padding | member
  · rw [List.eq_of_mem_replicate padding]
    rfl
  · exact isDigit_of_mem_toDigits member

/-- The places that stay when the zeros at the end go, if any do. -/
def keptPlaces (places : Text) : Option Text :=
  match Text.dropEndWhile (· == '0') places with
  | [] => none
  | kept => some kept

theorem isDigit_of_mem_keptPlaces {places : Text} (run : ∀ c ∈ places, isDigit c) :
    ∀ c ∈ (keptPlaces places).getD [], isDigit c := by
  intro c member
  unfold keptPlaces at member
  split at member
  · cases member
  · exact run c (Text.mem_of_mem_dropEndWhile member)

/-- Trimming leaves the whole part alone, and the point goes with the last place. -/
theorem trimFraction_append_cons {whole places : Text} (wholeRun : ∀ c ∈ whole, isDigit c)
    (placesRun : ∀ c ∈ places, isDigit c) :
    trimFraction (whole ++ '.' :: places) =
      whole ++ (keptPlaces places).elim [] ('.' :: ·) := by
  have noPoint : ∀ c, isDigit c → (c == '.') = false := by
    intro c digit
    have other : c ≠ '.' := Numeral.ne_of_isDigit digit rfl
    simpa using other
  rw [trimFraction, Text.dropEndWhile_append_cons_of_not rfl, keptPlaces]
  split
  · rename_i gone
    rw [gone, Text.dropEndWhile_concat_of whole rfl,
      Text.dropEndWhile_of_forall_not fun c member => noPoint c (wholeRun c member)]
    simp
  · rename_i kept remains
    obtain ⟨before, c, equal⟩ := (List.eq_nil_or_concat _).resolve_left remains
    rw [List.concat_eq_append] at equal
    have digit := placesRun c (Text.mem_of_mem_dropEndWhile (by rw [equal]; simp))
    rw [equal, ← List.cons_append, ← List.append_assoc,
      @Text.dropEndWhile_concat_of_not (· == '.') c _ (noPoint c digit)]
    simp

/-- How a trimmed number is spelled, with an exponent or without. -/
def spelling (places value : Nat) (exponent : Option Exponent) : Spelling where
  whole := Nat.toDigits 10 (value / Nat.pow 10 places)
  places := keptPlaces ((Nat.toDigits 10 (value % Nat.pow 10 places)).leftpad places '0')
  exponent := exponent
  isDigit_of_mem_whole _ := isDigit_of_mem_toDigits
  isDigit_of_mem_places := isDigit_of_mem_keptPlaces fun _ => isDigit_of_mem_leftpad
  hasDigit := .inl Nat.toDigits_ne_nil

theorem text_spelling (places value : Nat) (exponent : Option Exponent) :
    (spelling places value exponent).text =
      trimFraction (writeScaled places value) ++ Numeral.exponentText exponent := by
  rw [writeScaled, trimFraction_append_cons (fun _ => isDigit_of_mem_toDigits)
    (fun _ => isDigit_of_mem_leftpad)]
  rfl

end Fixed

namespace Scientific

open Numeral (Exponent)

/-- How an exponent is spelled. -/
def exponent (value : Int) : Exponent where
  letter := 'e'
  sign := Fixed.sign (value < 0)
  digits := Nat.toDigits 10 value.natAbs
  letter_eq := .inl rfl
  sign_eq := by
    by_cases negative : value < 0
    · exact .inr (.inr (by simp [Fixed.sign, negative]))
    · exact .inl (by simp [Fixed.sign, negative])
  digits_ne_nil := Nat.toDigits_ne_nil
  isDigit_of_mem_digits _ := Fixed.isDigit_of_mem_toDigits

theorem text_exponent (value : Int) : (exponent value).text = 'e' :: writeExponent value := rfl

theorem sign_exponent_ne_plus (value : Int) : (exponent value).sign ≠ ['+'] := by
  change Fixed.sign (value < 0) ≠ ['+']
  unfold Fixed.sign
  split <;> decide

end Scientific

namespace Readout

open Numeral (Exponent Operand)

/-- A trimmed number with its sign, and with an exponent or without. -/
def trimmedOperand (negative : Bool) (places value : Nat) (exponent : Option Exponent) : Operand :=
  ⟨negative, Fixed.spelling places value exponent⟩

section Texts

variable (places : Nat) (negative : Bool) (r : Ratio)

theorem text_trimmedOperand_plain :
    (trimmedOperand negative places (r.scale 10 places).nearest none).text =
      Fixed.sign negative ++ Fixed.trimFraction (Fixed.write places false r) := by
  rw [trimmedOperand, Operand.text, Fixed.text_spelling]
  simp [Numeral.exponentText, Fixed.write, Fixed.sign]

theorem text_trimmedOperand_scientific :
    (trimmedOperand negative places (Scientific.round places r).significand
        (some (Scientific.exponent (Scientific.round places r).exponent))).text =
      Scientific.write places negative r := by
  rw [trimmedOperand, Operand.text, Fixed.text_spelling, Scientific.write, List.append_assoc,
    Numeral.exponentText, Option.elim_some, Scientific.text_exponent]

/-- A trimmed number is an operand with a regular spelling. -/
theorem exists_operand_write :
    ∃ operand : Operand, operand.spelling.Regular ∧
      Fixed.sign negative ++ Fixed.trimFraction (Fixed.write places false r) = operand.text := by
  refine ⟨_, ⟨Nat.toDigits_ne_nil, ?_⟩, (text_trimmedOperand_plain places negative r).symm⟩
  rintro exponent ⟨⟩

/-- A number in scientific notation is an operand with a regular spelling. -/
theorem exists_operand_scientific :
    ∃ operand : Operand, operand.spelling.Regular ∧
      Scientific.write places negative r = operand.text := by
  refine ⟨_, ⟨Nat.toDigits_ne_nil, ?_⟩, (text_trimmedOperand_scientific places negative r).symm⟩
  rintro exponent ⟨⟩
  exact ⟨rfl, Scientific.sign_exponent_ne_plus _⟩

end Texts

/-- A finite result is an operand with a regular spelling. -/
theorem exists_operand_finiteResult (negative : Bool) (r : Ratio) :
    ∃ operand : Operand, operand.spelling.Regular ∧ finiteResult negative r = operand.text := by
  unfold finiteResult
  simp only
  split
  · exact exists_operand_write plainPlaces negative r
  · exact exists_operand_scientific scientificPlaces negative r

/-- A finite value is shown as an operand with a regular spelling. -/
theorem exists_operand_result {x : Float} (finite : Binary.isFinite x) :
    ∃ operand : Operand, operand.spelling.Regular ∧ result x = operand.text := by
  unfold Binary.isFinite at finite
  unfold result
  split at finite
  · rename_i negative significand exponent view
    rw [view]
    simp only
    split
    · exact ⟨.zero, Numeral.Operand.regular_zero, rfl⟩
    · exact exists_operand_finiteResult _ _
  · cases finite

end Readout

end Keypad
