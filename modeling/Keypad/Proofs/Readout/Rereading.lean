import Keypad.Proofs.Number.Rounding
import Keypad.Proofs.Number.Unit
import Keypad.Proofs.Readout.Form

/-!
# Reading a result back

What is shown of the double that a result is read back as. The double is off the result by little
(`Binary.slack`), which is less than half a unit of the last place of the result, so that rounding
leads back to it: `isStable_of_result`. The notation may change on the way.

Two results are not led back to, whatever their sign. The greatest result is read as an infinity,
and the greatest result below the plain ones is read as a double above it, which is the first to
be shown plainly. Results among the smallest doubles, whose places are finer than the doubles
themselves, are led back to because they are nearest to the double that they were shown for.
-/

namespace Keypad

open Numeral (Operand written?)

namespace Numeral.Operand

variable {operand : Operand} (large : 10 ^ (-325 : Int) ≤ operand.spelling.magnitude)
  (small : operand.spelling.magnitude < Binary.overflow)

include large small

/-- The ratio that an operand is rounded from. -/
theorem exists_ratio :
    ∃ r : Ratio, 0 < r.num ∧ r.value = operand.spelling.magnitude ∧
      Binary.view operand.value =
        Binary.viewMagnitude operand.negative (Binary.nearestMagnitude r) := by
  refine ⟨_, Binary.num_scale_pos large, ?_, Binary.view_ofDecimal large small operand.negative⟩
  rw [Ratio.value_scale, Ratio.value_ofNat]
  rfl

/-- An operand is read as a double that is off by little. -/
theorem exists_view_value :
    ∃ significand power, Binary.view operand.value = .finite operand.negative significand power ∧
      |(Binary.magnitude significand power).value - operand.spelling.magnitude| ≤
        Binary.slack operand.spelling.magnitude := by
  obtain ⟨r, positive, value, view⟩ := exists_ratio large small
  rw [← value] at small ⊢
  rw [view]
  exact Binary.exists_viewMagnitude_close positive small operand.negative

/-- An operand near a number of the least units is read as that number of units. -/
theorem view_value_least {significand : Nat} (short : significand < 2 ^ 52)
    (close : |operand.spelling.magnitude -
      (Binary.magnitude significand Binary.leastExponent).value| < 2 ^ (-1075 : Int)) :
    Binary.view operand.value = .finite operand.negative significand Binary.leastExponent := by
  obtain ⟨r, positive, value, view⟩ := exists_ratio large small
  rw [← value] at small close
  rw [view]
  exact Binary.viewMagnitude_least positive small operand.negative short close

end Numeral.Operand

namespace Readout

/-- A positive value is shown as a finite result. -/
theorem result_of_view_pos {x : Float} {negative : Bool} {significand : Nat} {power : Int}
    (finite : Binary.view x = .finite negative significand power)
    (positive : 0 < (Binary.magnitude significand power).value) :
    result x = finiteResult negative (Binary.magnitude significand power) := by
  have nonzero : significand ≠ 0 := by
    rintro rfl
    rw [Binary.value_magnitude, Nat.cast_zero, zero_mul] at positive
    exact lt_irrefl _ positive
  exact (result_of_view finite).trans (if_neg nonzero)

theorem result_congr {x y : Float} (same : Binary.view x = Binary.view y) :
    result x = result y := by
  rw [result, result, same]

/-- Whether the double that an operand is read as is finite, and is shown as the number that the
operand writes. -/
structure IsStable (operand : Operand) : Prop where
  isFinite : Binary.isFinite operand.value
  written_eq : written? (result operand.value) = written? operand.text

/-- What is no greater than a plain result lies below the point of overflow. -/
theorem lt_overflow_of_le {number : ℚ} (few : number ≤ 10 ^ 9) : number < Binary.overflow :=
  calc number ≤ 1797 * 10 ^ (9 : Int) := few.trans (by norm_num)
    _ ≤ 1797 * 10 ^ (305 : Int) :=
        mul_le_mul_of_nonneg_left (zpow_le_zpow_right₀ (by norm_num) (by norm_num)) (by norm_num)
    _ < Binary.overflow := Binary.ten_zpow_lt_overflow

/-- Off by no more than doubles are, a number is the same number of units of the last plain
place. -/
theorem plainUnits_eq_of_close {r : Ratio} {units : Nat} (some : units ≠ 0)
    (few : (units : ℚ) ≤ 10 ^ 14 ∨ r.value ≤ 10 ^ 9)
    (close : |r.value - units / 10 ^ 5| ≤ Binary.slack (units / 10 ^ 5)) :
    0 < r.value ∧ plainUnits r = units := by
  have one : (1 : ℚ) ≤ units := by exact_mod_cast Nat.one_le_iff_ne_zero.2 some
  have normal : 2 ^ (-1022 : Int) ≤ (units : ℚ) / 10 ^ 5 :=
    calc (2 : ℚ) ^ (-1022 : Int)
        ≤ 2 ^ (-17 : Int) := zpow_le_zpow_right₀ (by norm_num) (by norm_num)
      _ ≤ 1 / 10 ^ 5 := by norm_num
      _ ≤ units / 10 ^ 5 := div_le_div_of_nonneg_right one (by norm_num)
  rw [Binary.slack_of_normal normal, abs_le] at close
  refine ⟨by linarith, ?_⟩
  apply Ratio.nearest_eq_of_abs_sub_lt
  rw [value_scale_plainPlaces, abs_lt]
  rcases few with few | few <;> constructor <;> linarith

/-- A plain result is shown by the same text again. -/
theorem isStable_plainOperand {negative : Bool} {units : Nat} (shown : ShownPlain negative units) :
    IsStable (plainOperand negative units) := by
  have few : (units : ℚ) ≤ 10 ^ 14 := by exact_mod_cast shown.lt.le
  have one : (1 : ℚ) ≤ units := by exact_mod_cast Nat.one_le_iff_ne_zero.2 shown.visible
  have magnitude := magnitude_plainOperand negative units
  have large : 10 ^ (-325 : Int) ≤ (plainOperand negative units).spelling.magnitude :=
    calc (10 : ℚ) ^ (-325 : Int)
        ≤ 10 ^ (-5 : Int) := zpow_le_zpow_right₀ (by norm_num) (by norm_num)
      _ ≤ 1 / 10 ^ 5 := by norm_num
      _ ≤ (plainOperand negative units).spelling.magnitude := by linarith
  obtain ⟨significand, power, view, close⟩ :=
    Operand.exists_view_value large (lt_overflow_of_le (by linarith))
  rw [magnitude] at close
  obtain ⟨positive, same⟩ := plainUnits_eq_of_close shown.visible (.inl few) close
  refine ⟨Binary.isFinite_of_view view, congrArg written? ?_⟩
  rw [result_of_view_pos view positive]
  rcases finiteResult_cases negative (Binary.magnitude significand power) with
    ⟨-, text⟩ | ⟨wide, -⟩
  · exact text.trans (by rw [same])
  · rw [same] at wide
    exact absurd shown wide

section Scientific

variable {rounded : Scientific.Rounded} (normal : rounded.Normal scientificPlaces)

include normal

section Close

variable {negative : Bool} {r : Ratio}
  (close : |r.value - rounded.value scientificPlaces| ≤
    Binary.slack (rounded.value scientificPlaces))

include close

/-- A large result is shown by the same number again, even if it is shown plainly now. -/
theorem magnitude_plainOperand_of_close (large : 0 ≤ rounded.exponent)
    (shown : ShownPlain negative (plainUnits r)) :
    (plainOperand negative (plainUnits r)).spelling.magnitude =
      rounded.value scientificPlaces := by
  obtain ⟨exponent, natural⟩ := Int.eq_ofNat_of_zero_le large
  have whole : rounded.value scientificPlaces =
      (rounded.significand * 10 ^ (exponent + 2) : Nat) / 10 ^ 5 := by
    rw [Scientific.Rounded.value, natural, zpow_sub₀ (by norm_num), zpow_natCast, zpow_natCast,
      scientificPlaces]
    push_cast
    ring
  have long : 10 ^ 3 ≤ rounded.significand := normal.long
  have some : rounded.significand * 10 ^ (exponent + 2) ≠ 0 :=
    Nat.mul_ne_zero (by omega) (Nat.pow_pos (by decide)).ne'
  have few : r.value ≤ 10 ^ 9 := by
    have units : (plainUnits r : ℚ) + 1 ≤ 10 ^ 14 := by exact_mod_cast shown.lt
    linarith [(abs_le.1 (abs_plainUnits_sub_le r)).1]
  rw [whole] at close ⊢
  rw [magnitude_plainOperand, (plainUnits_eq_of_close some (.inr few) close).2]

/-- A result that is too small for a plain text is still too small when it is read back, unless
it is the greatest of them. -/
theorem not_shownPlain_of_close (less : rounded.Before ⟨4999, -6⟩) :
    ¬ShownPlain negative (plainUnits r) := by
  have below := normal.value_le ⟨by decide, by decide⟩ less
  have bound : Scientific.Rounded.value scientificPlaces ⟨4999, -6⟩ = 4999 / 10 ^ 9 := by
    norm_num [Scientific.Rounded.value, scientificPlaces]
  have slack : Binary.slack (rounded.value scientificPlaces) ≤ 1 / 10 ^ 9 := by
    apply max_le
    · linarith
    · calc (2 : ℚ) ^ (-1075 : Int) ≤ 2 ^ (-30 : Int) :=
            zpow_le_zpow_right₀ (by norm_num) (by norm_num)
        _ ≤ 1 / 10 ^ 9 := by norm_num
  intro shown
  apply shown.visible
  rw [plainUnits, Ratio.nearest_eq_zero_iff, value_scale_plainPlaces]
  linarith [(abs_le.1 close).2]

end Close

/-- Whether the places of a result are coarser than the doubles around it. -/
def Coarse (rounded : Scientific.Rounded) : Prop :=
  -319 ≤ rounded.exponent ∨ rounded.exponent = -320 ∧ 1000 < rounded.significand

/-- Of all results only those with a smaller exponent are not coarse, and a single other one. -/
theorem coarse_of_ne (large : -320 ≤ rounded.exponent) (other : rounded ≠ ⟨1000, -320⟩) :
    Coarse rounded := by
  have long : 1000 ≤ rounded.significand := normal.long
  have differs : ¬(rounded.exponent = -320 ∧ rounded.significand = 1000) :=
    fun ⟨power, digits⟩ => other (congr (congrArg Scientific.Rounded.mk digits) power)
  unfold Coarse
  omega

/-- In units of the last place, doubles are off by little if half of the least unit is. -/
theorem slack_mul_unit_lt {bound : ℚ} (rounding : 1 / 20 ≤ bound)
    (least : 2 ^ (-1075 : Int) * 10 ^ (scientificPlaces - rounded.exponent) < bound) :
    Binary.slack (rounded.value scientificPlaces) *
      10 ^ (scientificPlaces - rounded.exponent) < bound := by
  have unit : (0 : ℚ) < 10 ^ (scientificPlaces - rounded.exponent) := zpow_pos (by norm_num) _
  have few : (rounded.significand : ℚ) ≤ 10 ^ 4 := by exact_mod_cast normal.short.le
  rw [Binary.slack, max_mul_of_nonneg _ _ unit.le, div_mul_eq_mul_div, rounded.value_mul]
  refine max_lt ?_ least
  rw [div_lt_iff₀ (by norm_num)]
  linarith

/-- Half a unit of the last place is more than doubles are off, and so is a twentieth if the
result is a power of ten. -/
theorem slack_mul_unit_of_coarse (coarse : Coarse rounded) :
    Binary.slack (rounded.value scientificPlaces) *
        10 ^ (scientificPlaces - rounded.exponent) < 1 / 2 ∧
      Binary.slack (rounded.value scientificPlaces) *
        10 ^ (scientificPlaces - rounded.exponent) < rounded.significand - 10 ^ 3 + 1 / 20 := by
  have three : (scientificPlaces : Int) = 3 := rfl
  have many : (10 : ℚ) ^ 3 ≤ rounded.significand := by exact_mod_cast normal.long
  rcases coarse with large | ⟨exponent, more⟩
  · have least : (2 : ℚ) ^ (-1075 : Int) * 10 ^ (scientificPlaces - rounded.exponent) < 1 / 20 :=
      calc (2 : ℚ) ^ (-1075 : Int) * 10 ^ (scientificPlaces - rounded.exponent)
          ≤ 2 ^ (-1075 : Int) * 10 ^ (322 : Int) :=
            mul_le_mul_of_nonneg_left (zpow_le_zpow_right₀ (by norm_num) (by omega))
              (zpow_nonneg (by norm_num) _)
        _ < 1 / 20 := Binary.half_least_mul_lt
    have slack := slack_mul_unit_lt normal le_rfl least
    constructor <;> linarith
  · have least : (2 : ℚ) ^ (-1075 : Int) * 10 ^ (scientificPlaces - rounded.exponent) < 1 / 2 :=
      calc (2 : ℚ) ^ (-1075 : Int) * 10 ^ (scientificPlaces - rounded.exponent)
          = 2 ^ (-1075 : Int) * 10 ^ (322 : Int) * 10 := by
            rw [exponent, mul_assoc, ← zpow_add_one₀ (by norm_num)]
            rfl
        _ < 1 / 2 := by linarith [Binary.half_least_mul_lt]
    have slack := slack_mul_unit_lt normal (by norm_num) least
    have more : (10 : ℚ) ^ 3 + 1 ≤ rounded.significand := by exact_mod_cast more
    constructor <;> linarith

/-- Off by no more than doubles are, a number is rounded to the coarse result that it is near. -/
theorem round_eq_of_close {r : Ratio} (coarse : Coarse rounded)
    (close : |r.value - rounded.value scientificPlaces| ≤
      Binary.slack (rounded.value scientificPlaces)) :
    0 < r.value ∧ Scientific.round scientificPlaces r = rounded := by
  have unit : (0 : ℚ) < 10 ^ (scientificPlaces - rounded.exponent) := zpow_pos (by norm_num) _
  have scaled := mul_le_mul_of_nonneg_right close unit.le
  rw [← Scientific.Rounded.abs_mul_sub] at scaled
  obtain ⟨half, little⟩ := slack_mul_unit_of_coarse normal coarse
  have large : 10 ^ 3 - 1 / 20 < r.value * 10 ^ (scientificPlaces - rounded.exponent) := by
    linarith [(abs_le.1 scaled).1]
  have positive : 0 < r.value := by
    rw [← mul_pos_iff_of_pos_right unit]
    linarith
  exact ⟨positive, Scientific.round_eq scientificPlaces (r.num_pos_of_value_pos positive) normal
    (scaled.trans_lt half) large⟩

/-- A coarse result is shown as the same number again, in either notation. -/
theorem isStable_of_coarse (negative : Bool) (coarse : Coarse rounded)
    (small : rounded.value scientificPlaces < Binary.overflow)
    (size : 0 ≤ rounded.exponent ∨ rounded.Before ⟨4999, -6⟩) :
    IsStable (scientificOperand negative rounded) := by
  have magnitude := magnitude_scientificOperand negative rounded
  have large : 10 ^ (-325 : Int) ≤ rounded.value scientificPlaces :=
    normal.zpow_le_value (by unfold Coarse at coarse; omega)
  rw [← magnitude] at large small
  obtain ⟨significand, power, view, close⟩ := Operand.exists_view_value large small
  rw [magnitude] at close
  obtain ⟨positive, same⟩ := round_eq_of_close normal coarse close
  refine ⟨Binary.isFinite_of_view view, ?_⟩
  rw [result_of_view_pos view positive]
  change written? (finiteResult negative _) = _
  rcases finiteResult_cases negative (Binary.magnitude significand power) with
    ⟨shown, text⟩ | ⟨-, text⟩
  · rcases size with natural | less
    · rw [text, Numeral.written?_text, Numeral.written?_text, magnitude,
        magnitude_plainOperand_of_close normal close natural shown]
      rfl
    · exact absurd shown (not_shownPlain_of_close normal close less)
  · rw [text, same]

end Scientific

section Round

variable {negative : Bool} {r : Ratio} (positive : 0 < r.num)

include positive

/-- A result that is not shown plainly is either large, or below the smallest plain result. -/
theorem exponent_nonneg_or_before (wide : ¬ShownPlain negative (plainUnits r)) :
    0 ≤ (Scientific.round scientificPlaces r).exponent ∨
      (Scientific.round scientificPlaces r).Before ⟨5000, -6⟩ := by
  rcases Nat.eq_zero_or_pos (plainUnits r) with none | some
  · right
    apply Scientific.round_before scientificPlaces positive ⟨by decide, by decide⟩
    rw [plainUnits, Ratio.nearest_eq_zero_iff, value_scale_plainPlaces] at none
    have bound : Scientific.Rounded.value scientificPlaces ⟨5000, -6⟩ = 5000 / 10 ^ 9 := by
      norm_num [Scientific.Rounded.value, scientificPlaces]
    linarith
  · left
    have many : 10 ^ 7 ≤ plainUnits r :=
      Nat.not_lt.1 fun few => wide (shownPlain_of_lt negative some.ne' few)
    have many : (10 : ℚ) ^ 7 ≤ plainUnits r := by exact_mod_cast many
    have powers : (10 : ℚ) ^ (0 : Int) < 10 ^ (r.order 10 + 1) :=
      calc (10 : ℚ) ^ (0 : Int) = 1 := zpow_zero _
        _ ≤ r.value := by linarith [(abs_le.1 (abs_plainUnits_sub_le r)).2]
        _ < 10 ^ (r.order 10 + 1) := r.value_lt_zpow_order (by decide) positive
    rw [zpow_lt_zpow_iff_right₀ (by norm_num)] at powers
    have order := Scientific.exponent_round scientificPlaces positive
    omega

/-- All results but the greatest one lie below the point of overflow. -/
theorem value_round_lt_overflow (high : r.value < 2 ^ (1024 : Int))
    (notGreatest : Scientific.round scientificPlaces r ≠ ⟨1798, 308⟩) :
    (Scientific.round scientificPlaces r).value scientificPlaces < Binary.overflow := by
  have normal := Scientific.normal_round scientificPlaces positive
  have before : (Scientific.round scientificPlaces r).Before ⟨1798, 308⟩ :=
    Scientific.round_before scientificPlaces positive ⟨by decide, by decide⟩
      (high.le.trans Binary.two_zpow_le_scientific)
  calc (Scientific.round scientificPlaces r).value scientificPlaces
      ≤ Scientific.Rounded.value scientificPlaces ⟨1797, 308⟩ :=
        normal.value_le ⟨by decide, by decide⟩ (before.of_ne notGreatest)
    _ = 1797 * 10 ^ (305 : Int) := rfl
    _ < Binary.overflow := Binary.ten_zpow_lt_overflow

/-- The smallest results are less than half of the least unit off. -/
theorem close_of_smallest (smallest : (Scientific.round scientificPlaces r).exponent < -320) :
    r.value < 2 ^ (-1022 : Int) ∧
      |(Scientific.round scientificPlaces r).value scientificPlaces - r.value| <
        2 ^ (-1075 : Int) := by
  have three : (scientificPlaces : Int) = 3 := rfl
  have order := Scientific.exponent_round scientificPlaces positive
  constructor
  · calc r.value < 10 ^ (r.order 10 + 1) := r.value_lt_zpow_order (by decide) positive
      _ ≤ 10 ^ (-320 : Int) := zpow_le_zpow_right₀ (by norm_num) (by omega)
      _ < 2 ^ (-1022 : Int) := Binary.ten_zpow_lt_normal
  · calc |(Scientific.round scientificPlaces r).value scientificPlaces - r.value|
        ≤ 10 ^ (r.order 10 - scientificPlaces) / 2 :=
          Scientific.abs_value_round_sub_le scientificPlaces positive
      _ ≤ 10 ^ (-324 : Int) / 2 :=
          div_le_div_of_nonneg_right (zpow_le_zpow_right₀ (by norm_num) (by omega)) (by norm_num)
      _ < 2 ^ (-1075 : Int) := Binary.ten_zpow_half_lt

end Round

section Finite

variable {x : Float} {negative : Bool} {significand : Nat} {power : Int}
  (view : Binary.view x = .finite negative significand power) (nonzero : 0 < significand)
  {rounded : Scientific.Rounded}
  (rounds : Scientific.round scientificPlaces (Binary.magnitude significand power) = rounded)

include view nonzero rounds

/-- Among the smallest doubles a result is read back as the double that it shows. -/
theorem view_value_smallest (smallest : rounded.exponent < -320) :
    Binary.view (scientificOperand negative rounded).value = Binary.view x := by
  subst rounds
  have positive := Binary.num_magnitude_pos nonzero power
  have low := Binary.two_zpow_le_of_view view nonzero
  have high := (Binary.lt_overflow_of_view view).trans Binary.overflow_lt
  have normal := Scientific.normal_round scientificPlaces positive
  have large := normal.zpow_le_value (exponent_bounds positive low high).1
  have small := normal.value_lt_zpow (smallest.trans (by decide : -320 < (9 : Int)))
  obtain ⟨subnormal, close⟩ := close_of_smallest positive smallest
  obtain ⟨rfl, short⟩ := Binary.least_of_view view subnormal
  rw [← magnitude_scientificOperand negative] at large small close
  rw [view]
  exact Operand.view_value_least large (lt_overflow_of_le small.le) short close

/-- A result in scientific notation is shown as the same number again, apart from the greatest
one and from the one that is the next to be shown plainly. -/
theorem isStable_scientificOperand
    (wide : ¬ShownPlain negative (plainUnits (Binary.magnitude significand power)))
    (notBelowPlain : rounded ≠ ⟨5000, -6⟩) (notGreatest : rounded ≠ ⟨1798, 308⟩) :
    IsStable (scientificOperand negative rounded) := by
  have positive := Binary.num_magnitude_pos nonzero power
  have high := (Binary.lt_overflow_of_view view).trans Binary.overflow_lt
  by_cases smallest : rounded.exponent < -320
  · have same := view_value_smallest view nonzero rounds smallest
    refine ⟨Binary.isFinite_of_view (same.trans view), ?_⟩
    rw [result_congr same, result_of_view view, if_neg nonzero.ne', ← rounds,
      ((finiteResult_cases negative _).resolve_left fun shown => wide shown.1).2]
  by_cases tenth : rounded = ⟨1000, -320⟩
  · -- The double nearest to this number is below it, where the places are ten times as fine.
    rw [tenth]
    cases negative <;> exact ⟨by decide +kernel, congrArg written? (by decide +kernel)⟩
  have normal := rounds ▸ Scientific.normal_round scientificPlaces positive
  have small := rounds ▸ value_round_lt_overflow positive high (rounds ▸ notGreatest)
  have size := rounds ▸ exponent_nonneg_or_before positive wide
  exact isStable_of_coarse normal negative (coarse_of_ne normal (not_lt.1 smallest) tenth) small
    (size.imp_right fun before => before.of_ne notBelowPlain)

end Finite

/-- The greatest result. -/
def greatest (negative : Bool) : Text :=
  Fixed.sign negative ++ "1.798e308".toList

/-- The greatest result that is too small to be shown plainly. -/
def belowPlain (negative : Bool) : Text :=
  Fixed.sign negative ++ "5e-6".toList

theorem text_scientificOperand_greatest (negative : Bool) :
    (scientificOperand negative ⟨1798, 308⟩).text = greatest negative := by
  cases negative <;> decide +kernel

theorem text_scientificOperand_belowPlain (negative : Bool) :
    (scientificOperand negative ⟨5000, -6⟩).text = belowPlain negative := by
  cases negative <;> decide +kernel

section Result

variable {operand other : Operand}

/-- Operands with the same text are read as the same double. -/
theorem value_eq_of_text (same : operand.text = other.text) : operand.value = other.value := by
  have reads := operand.read?_text
  rw [same, other.read?_text] at reads
  exact (Option.some.inj reads).symm

theorem IsStable.of_text (stable : IsStable operand) (same : operand.text = other.text) :
    IsStable other := by
  refine ⟨?_, ?_⟩
  · rw [← value_eq_of_text same]
    exact stable.isFinite
  · rw [← value_eq_of_text same, ← same]
    exact stable.written_eq

theorem isStable_zero : IsStable .zero :=
  ⟨by decide +kernel, congrArg written? (by decide +kernel)⟩

/-- The result of a finite value is shown as the same number when it is read back. -/
theorem isStable_of_result {x : Float} (finite : Binary.isFinite x) (text : result x = operand.text)
    (notBelowPlain : ∀ negative, result x ≠ belowPlain negative)
    (notGreatest : ∀ negative, result x ≠ greatest negative) : IsStable operand := by
  obtain ⟨negative, significand, power, view⟩ := (Binary.isFinite_iff x).1 finite
  rcases significand.eq_zero_or_pos with rfl | positive
  · have zero : result x = Operand.zero.text := result_of_view view
    exact isStable_zero.of_text (zero.symm.trans text)
  · have shown := (result_of_view view).trans (if_neg positive.ne')
    rcases finiteResult_cases negative (Binary.magnitude significand power) with
      ⟨plain, equal⟩ | ⟨wide, equal⟩
    · have same := (shown.trans equal).symm.trans text
      exact (isStable_plainOperand plain).of_text same
    · have same := shown.trans equal
      have stable : IsStable (scientificOperand negative
          (Scientific.round scientificPlaces (Binary.magnitude significand power))) := by
        refine isStable_scientificOperand view positive rfl wide ?_ ?_
        · intro below
          rw [below, text_scientificOperand_belowPlain] at same
          exact notBelowPlain negative same
        · intro great
          rw [great, text_scientificOperand_greatest] at same
          exact notGreatest negative same
      exact stable.of_text (same.symm.trans text)

end Result

end Readout

end Keypad
