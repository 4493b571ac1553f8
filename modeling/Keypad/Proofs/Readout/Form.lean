import Keypad.Proofs.Expression.Reading
import Keypad.Proofs.Readout.Accuracy

/-!
# The form of a result

The texts that results can have, as a grammar of characters that does not mention how a result is
rounded or written (`IsForm`). A plain number has at most nine characters and at most five places,
one in scientific notation at most eleven characters and three places; neither has zeros to spare.
-/

namespace Keypad

open Numeral (Operand isDigit)

/-- The digits other than zero. -/
def IsNonzeroDigit (c : Char) : Prop :=
  '1' ≤ c ∧ c ≤ '9'

theorem isNonzeroDigit_of_ne {c : Char} (digit : isDigit c) (nonzero : c ≠ '0') :
    IsNonzeroDigit c := by
  obtain ⟨low, high⟩ := (Numeral.isDigit_iff c).1 digit
  have other : '0'.toNat ≠ c.toNat := fun same => nonzero (Char.toNat_inj.1 same.symm)
  have above : '0'.toNat < c.toNat := lt_of_le_of_ne low other
  exact ⟨above, high⟩

namespace Readout

/-- Whole digits that do not start with a zero. -/
inductive IsPositive : Text → Prop where
  | intro {lead : Char} {rest : Text} (nonzero : IsNonzeroDigit lead)
      (run : ∀ c ∈ rest, isDigit c) : IsPositive (lead :: rest)

/-- What may stand behind whole digits: nothing, or a point with at most `limit` places, the last
of them not a zero. -/
inductive IsFraction (limit : Nat) : Text → Prop where
  | nothing : IsFraction limit []
  | places {front : Text} {last : Char} (run : ∀ c ∈ front, isDigit c)
      (nonzero : IsNonzeroDigit last) (short : front.length < limit) :
      IsFraction limit ('.' :: (front ++ [last]))

/-- The forms of a result. -/
inductive IsForm : Text → Prop where
  | plain {negative : Bool} {whole fraction : Text} (wholeForm : whole = ['0'] ∨ IsPositive whole)
      (fractionForm : IsFraction 5 fraction)
      (short : (Fixed.sign negative ++ whole ++ fraction).length ≤ 9) :
      IsForm (Fixed.sign negative ++ whole ++ fraction)
  | scientific {negative below : Bool} {lead : Char} {fraction power : Text}
      (nonzero : IsNonzeroDigit lead) (fractionForm : IsFraction 3 fraction)
      (powerForm : IsPositive power)
      (short : (Fixed.sign negative ++ lead :: fraction ++
        'e' :: (Fixed.sign below ++ power)).length ≤ 11) :
      IsForm (Fixed.sign negative ++ lead :: fraction ++ 'e' :: (Fixed.sign below ++ power))

/-- A positive number is written without zeros in front. -/
theorem isPositive_toDigits {n : Nat} (positive : 0 < n) : IsPositive (Nat.toDigits 10 n) := by
  induction n using Nat.strong_induction_on with
  | h n inductionHypothesis =>
      rcases Nat.lt_or_ge n 10 with small | large
      · have digits : ∀ n < 10, 0 < n → isDigit (Nat.digitChar n) ∧ Nat.digitChar n ≠ '0' := by
          decide
        obtain ⟨digit, nonzero⟩ := digits n small positive
        rw [Nat.toDigits_of_lt_base small]
        exact .intro (isNonzeroDigit_of_ne digit nonzero) Numeral.isDigit_of_mem_nil
      · have front := inductionHypothesis (n / 10) (Nat.div_lt_self positive (by decide))
          (Nat.div_pos large (by decide))
        have whole : ∀ c ∈ Nat.toDigits 10 n, isDigit c := fun _ => Fixed.isDigit_of_mem_toDigits
        rw [Nat.toDigits_of_base_le (by decide) large] at whole ⊢
        generalize Nat.toDigits 10 (n / 10) = digits at front whole
        cases front with
        | intro nonzero run =>
          exact .intro nonzero fun c member => whole c (List.mem_cons_of_mem _ member)

theorem isPositive_or_zero_toDigits (n : Nat) :
    Nat.toDigits 10 n = ['0'] ∨ IsPositive (Nat.toDigits 10 n) := by
  rcases n.eq_zero_or_pos with rfl | positive
  · exact .inl rfl
  · exact .inr (isPositive_toDigits positive)

/-- Without the zeros at its end, a run of digits is the places of a fraction. -/
theorem isFraction_keptPlaces {places : Text} (run : ∀ c ∈ places, isDigit c) :
    IsFraction places.length ((Fixed.keptPlaces places).elim [] ('.' :: ·)) := by
  unfold Fixed.keptPlaces
  split
  · exact .nothing
  · rename_i kept remains
    have shorter : (Text.dropEndWhile (· == '0') places).length ≤ places.length :=
      (List.rdropWhile_prefix (· == '0') places).length_le
    have nonzero : ¬((Text.dropEndWhile (· == '0') places).getLast remains == '0') :=
      List.rdropWhile_last_not (· == '0') places remains
    have digit := run _ (Text.mem_of_mem_dropEndWhile (List.getLast_mem remains))
    have split := List.dropLast_append_getLast remains
    have front : ∀ c ∈ (Text.dropEndWhile (· == '0') places).dropLast, isDigit c := fun c member =>
      run c (Text.mem_of_mem_dropEndWhile (List.mem_of_mem_dropLast member))
    rw [Option.elim_some, ← split]
    refine .places front (isNonzeroDigit_of_ne digit (by simpa using nonzero)) ?_
    have := List.length_pos_of_ne_nil remains
    rw [List.length_dropLast]
    omega

theorem IsFraction.length_le {limit : Nat} {fraction : Text} (form : IsFraction limit fraction) :
    fraction.length ≤ limit + 1 := by
  cases form with
  | nothing => exact Nat.zero_le _
  | places run nonzero short =>
      simp only [List.length_cons, List.length_append, List.length_nil]
      omega

theorem length_sign_le (negative : Bool) : (Fixed.sign negative).length ≤ 1 := by
  cases negative <;> decide

section Operands

variable (negative : Bool)

/-- The parts of a trimmed number. -/
theorem exists_text_trimmedOperand {places : Nat} (positive : 0 < places) (value : Nat)
    (exponent : Option Numeral.Exponent) :
    ∃ fraction, IsFraction places fraction ∧ (trimmedOperand negative places value exponent).text =
      Fixed.sign negative ++
        (Nat.toDigits 10 (value / 10 ^ places) ++ fraction ++ Numeral.exponentText exponent) := by
  have form := isFraction_keptPlaces (Fixed.isDigit_of_mem_places places value)
  rw [Option.getD_some, Fixed.length_places positive] at form
  exact ⟨_, form, rfl⟩

theorem exists_text_plainOperand (units : Nat) :
    ∃ fraction, IsFraction 5 fraction ∧ (plainOperand negative units).text =
      Fixed.sign negative ++ Nat.toDigits 10 (units / 10 ^ 5) ++ fraction := by
  obtain ⟨fraction, form, text⟩ :=
    exists_text_trimmedOperand negative (by decide : 0 < plainPlaces) units none
  refine ⟨fraction, form, text.trans ?_⟩
  rw [Numeral.exponentText, Option.elim_none, List.append_nil, List.append_assoc]
  rfl

/-- Seven digits are few enough for a plain text. -/
theorem shownPlain_of_lt {units : Nat} (visible : units ≠ 0) (small : units < 10 ^ 7) :
    ShownPlain negative units := by
  obtain ⟨fraction, form, text⟩ := exists_text_plainOperand negative units
  have whole : (Nat.toDigits 10 (units / 10 ^ 5)).length ≤ 2 :=
    (Nat.length_toDigits_le_iff (by decide) (by decide)).2 (by omega)
  have sign := length_sign_le negative
  have places := form.length_le
  refine ⟨visible, ?_⟩
  rw [text, List.length_append, List.length_append, plainWidth]
  omega

/-- A plain text has no more than nine digits in front of the point. -/
theorem ShownPlain.lt {units : Nat} (shown : ShownPlain negative units) : units < 10 ^ 14 := by
  obtain ⟨fraction, -, text⟩ := exists_text_plainOperand negative units
  have short := shown.short
  rw [text, List.length_append, List.length_append, plainWidth] at short
  have whole : units / 10 ^ 5 < 10 ^ 9 :=
    (Nat.length_toDigits_le_iff (by decide) (by decide)).1 (by omega)
  omega

theorem isForm_plainOperand {units : Nat} (shown : ShownPlain negative units) :
    IsForm (plainOperand negative units).text := by
  obtain ⟨fraction, form, text⟩ := exists_text_plainOperand negative units
  have short := shown.short
  rw [text] at short ⊢
  exact .plain (isPositive_or_zero_toDigits _) form short

/-- An exponent with up to three digits leaves room for three places. -/
theorem isForm_scientificOperand {rounded : Scientific.Rounded}
    (normal : rounded.Normal scientificPlaces) (nonzero : rounded.exponent ≠ 0)
    (small : rounded.exponent.natAbs < 10 ^ 3) :
    IsForm (scientificOperand negative rounded).text := by
  obtain ⟨fraction, form, text⟩ := exists_text_trimmedOperand negative
    (by decide : 0 < scientificPlaces) rounded.significand
    (some (Scientific.exponent rounded.exponent))
  have long : 10 ^ 3 ≤ rounded.significand := normal.long
  have short : rounded.significand < 10 ^ 4 := normal.short
  have single : Nat.toDigits 10 (rounded.significand / 10 ^ scientificPlaces) =
      [Nat.digitChar (rounded.significand / 10 ^ 3)] :=
    Nat.toDigits_of_lt_base (by change rounded.significand / 10 ^ 3 < 10; omega)
  have positive : IsPositive (Nat.toDigits 10 (rounded.significand / 10 ^ scientificPlaces)) :=
    isPositive_toDigits (by change 0 < rounded.significand / 10 ^ 3; omega)
  rw [single] at text positive
  obtain ⟨lead, -⟩ := positive
  have power := isPositive_toDigits (Int.natAbs_pos.2 nonzero)
  have parts : (scientificOperand negative rounded).text =
      Fixed.sign negative ++ Nat.digitChar (rounded.significand / 10 ^ 3) :: fraction ++
        'e' :: Scientific.writeExponent rounded.exponent := by
    rw [List.append_assoc]
    exact text
  rw [parts]
  refine .scientific lead form power ?_
  have digits : (Nat.toDigits 10 rounded.exponent.natAbs).length ≤ 3 :=
    (Nat.length_toDigits_le_iff (by decide) (by decide)).2 small
  have places : fraction.length ≤ 3 + 1 := form.length_le
  have sign := length_sign_le negative
  have powerSign := length_sign_le (rounded.exponent < 0)
  simp only [List.length_append, List.length_cons]
  omega

end Operands

section Finite

variable (negative : Bool) {r : Ratio} (positive : 0 < r.num)

include positive

/-- With the exponent zero a result is small enough for a plain text. -/
theorem exponent_ne_zero (wide : ¬ShownPlain negative (plainUnits r)) :
    (Scientific.round scientificPlaces r).exponent ≠ 0 := by
  intro zero
  apply wide
  have bounds := (Scientific.normal_round scientificPlaces positive).value_bounds
  have close := abs_le.1 (Scientific.abs_round_sub_le scientificPlaces positive)
  rw [zero] at bounds
  norm_num [scientificPlaces] at bounds close
  have few : plainUnits r ≤ 11 * 10 ^ 5 := by
    apply Ratio.nearest_le_of_le
    rw [value_scale_plainPlaces]
    push_cast
    linarith
  have visible : 1 ≤ plainUnits r := by
    apply Ratio.le_nearest_of_le
    rw [value_scale_plainPlaces, Nat.cast_one]
    linarith
  exact shownPlain_of_lt negative (by omega) (by omega)

section Exponent

variable (low : 2 ^ Binary.leastExponent ≤ r.value) (high : r.value < 2 ^ (1024 : Int))

include low high

/-- The orders of doubles. -/
theorem order_bounds : -325 ≤ r.order 10 ∧ r.order 10 ≤ 308 := by
  have above : (10 : ℚ) ^ r.order 10 < 10 ^ (309 : Int) :=
    calc (10 : ℚ) ^ r.order 10 ≤ r.value := r.zpow_order_le (by decide) positive
      _ < 2 ^ (1024 : Int) := high
      _ ≤ 10 ^ (309 : Int) := Binary.two_zpow_le_ten_zpow
  have below : (10 : ℚ) ^ (-325 : Int) < 10 ^ (r.order 10 + 1) :=
    calc (10 : ℚ) ^ (-325 : Int) ≤ 2 ^ Binary.leastExponent := Binary.ten_zpow_le_two_zpow
      _ ≤ r.value := low
      _ < 10 ^ (r.order 10 + 1) := r.value_lt_zpow_order (by decide) positive
  rw [zpow_lt_zpow_iff_right₀ (by norm_num)] at above below
  omega

/-- The exponents of doubles have at most three digits. -/
theorem exponent_bounds :
    -325 ≤ (Scientific.round scientificPlaces r).exponent ∧
      (Scientific.round scientificPlaces r).exponent ≤ 309 := by
  have order := order_bounds positive low high
  have exponent := Scientific.exponent_round scientificPlaces positive
  omega

theorem isForm_finiteResult : IsForm (finiteResult negative r) := by
  rcases finiteResult_cases negative r with ⟨shown, text⟩ | ⟨wide, text⟩
  · rw [text]
    exact isForm_plainOperand negative shown
  · rw [text]
    have exponent := exponent_bounds positive low high
    exact isForm_scientificOperand negative (Scientific.normal_round _ positive)
      (exponent_ne_zero negative positive wide) (by omega)

end Exponent

end Finite

theorem isForm_zero : IsForm ['0'] :=
  @IsForm.plain false ['0'] [] (.inl rfl) .nothing (by decide)

/-- A finite value is shown as a single numeral that can be read back, in a form of results. No
result is a negative zero. -/
theorem result_form {x : Float} (finite : Binary.isFinite x) :
    Token.ofText (result x) = .ok [.numeral (result x)] ∧ (Numeral.read? (result x)).isSome ∧
      IsForm (result x) ∧ result x ≠ ['-', '0'] := by
  obtain ⟨operand, -, text⟩ := exists_operand_result finite
  have scanned : Token.ofText (result x) = .ok [.numeral (result x)] :=
    text ▸ operand.ofText_text
  have reads : (Numeral.read? (result x)).isSome := by
    rw [text, Numeral.Operand.read?_text]
    rfl
  refine ⟨scanned, reads, ?_⟩
  obtain ⟨negative, significand, exponent, view⟩ := (Binary.isFinite_iff x).1 finite
  rw [result_of_view view]
  split
  · exact ⟨isForm_zero, by decide⟩
  · rename_i nonzero
    have positive := Binary.num_magnitude_pos (Nat.pos_of_ne_zero nonzero) exponent
    have low := Binary.two_zpow_le_of_view view (Nat.pos_of_ne_zero nonzero)
    have high := (Binary.lt_overflow_of_view view).trans Binary.overflow_lt
    refine ⟨isForm_finiteResult negative positive low high, ?_⟩
    obtain ⟨magnitude, writes, magnitudePositive, -⟩ :=
      exists_written_finiteResult negative positive
    intro negativeZero
    have zero : Numeral.written? ['-', '0'] = some 0 := Numeral.written?_sign_zero true
    rw [negativeZero, zero, Option.some_inj] at writes
    exact magnitudePositive.ne' ((signed_eq_zero_iff _ _).1 writes.symm)

/-- A result with as many characters as there can be. -/
theorem result_form_longest :
    let x := Binary.ofDecimal true 12346 (-312)
    Binary.isFinite x ∧ result x = "-1.235e-308".toList ∧
      Token.ofText (result x) = .ok [.numeral (result x)] ∧ (Numeral.read? (result x)).isSome ∧
        IsForm (result x) ∧ result x ≠ ['-', '0'] := by
  intro x
  have finite : Binary.isFinite x := by decide +kernel
  exact ⟨finite, by decide +kernel, result_form finite⟩

end Readout

end Keypad
