import Keypad.Currency.Freshness
import Mathlib

/-!
# How long something stays fresh

Whether something stored is fresh is decided in machine words: the age stops at the
ends of a signed word of 64 bits, and is then compared in 128 bits. `isFresh_iff`
says what this comes to in integers without bounds. Only the upper end of the age
shows, and only for a lifetime that lies beyond it: such a lifetime never ends.
-/

namespace Keypad

namespace Lifetime

/-- The nanoseconds of a span. -/
def nanos (span : Lifetime) : Nat :=
  span.seconds.toNat * 10 ^ 9 + span.nanoseconds.toNat

theorem millis_eq (span : Lifetime) : span.millis = span.nanos / 10 ^ 6 := by
  unfold millis nanos
  omega

/-- The milliseconds of a span fit in a word of 128 bits. -/
theorem millis_lt (span : Lifetime) : span.millis < 2 ^ 128 := by
  have seconds := span.seconds.toNat_lt
  have nanoseconds := span.nanoseconds.toNat_lt
  unfold millis
  omega

end Lifetime

namespace Moment

/-- The milliseconds from one moment to another, without bounds. -/
def elapsed (stored now : Moment) : Int :=
  now.toInt - stored.toInt

theorem toInt_since (stored now : Moment) :
    (since now stored).toInt = max (-2 ^ 63) (min (elapsed stored now) (2 ^ 63 - 1)) :=
  toInt_saturate _

/-- An age counts up to the end of its word. -/
theorem isFresh_iff_min (stored now : Moment) (lifetime : Lifetime) :
    isFresh stored now lifetime ↔
      0 ≤ elapsed stored now ∧ min (elapsed stored now) (2 ^ 63 - 1) < lifetime.millis := by
  have age := toInt_since stored now
  have nonneg : 0 ≤ since now stored ↔ 0 ≤ elapsed stored now := by
    rw [Int64.le_iff_toInt_le, age]
    change (0 : Int) ≤ _ ↔ _
    omega
  have word : (BitVec.ofNat 128 lifetime.millis).toNat = lifetime.millis :=
    Nat.mod_eq_of_lt lifetime.millis_lt
  rw [isFresh, Bool.and_eq_true, decide_eq_true_iff, decide_eq_true_iff, nonneg,
    BitVec.lt_def, word]
  refine and_congr_right fun later => ?_
  have wide := toNat_widen (nonneg.2 later)
  omega

/-- Something stored is fresh from then on, until its lifetime in whole milliseconds is
over. A lifetime of `2 ^ 63` milliseconds or more is never over: an age does not count
that far. -/
theorem isFresh_iff (stored now : Moment) (lifetime : Lifetime) :
    let age := elapsed stored now
    let whole : Int := (lifetime.nanos / 10 ^ 6 : Nat)
    (isFresh stored now lifetime ↔ 0 ≤ age ∧ (age < whole ∨ 2 ^ 63 ≤ whole)) ∧
      ((isFresh stored now lifetime ↔ 0 ≤ age ∧ age < whole) ↔
        ¬(2 ^ 63 ≤ whole ∧ whole ≤ age)) := by
  intro age whole
  have counted : isFresh stored now lifetime ↔ 0 ≤ age ∧ min age (2 ^ 63 - 1) < whole := by
    rw [isFresh_iff_min, lifetime.millis_eq]
  rw [counted]
  omega

/-- An age at the upper end of its word is below a lifetime that it has in truth
outlived. -/
theorem not_forall_isFresh_iff_elapsed :
    ¬∀ (stored now : Moment) (lifetime : Lifetime),
      isFresh stored now lifetime ↔
        0 ≤ elapsed stored now ∧ elapsed stored now < (lifetime.nanos / 10 ^ 6 : Nat) := by
  intro exact
  have outlived := exact Int64.minValue Int64.maxValue ⟨9223372036854776, 0⟩
  revert outlived
  decide +kernel

end Moment

end Keypad
