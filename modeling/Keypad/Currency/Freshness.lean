/-!
# Freshness

Moments on a clock that counts milliseconds in a signed 64-bit word, and how long
something stored at one of them stays fresh. Differences of moments do not wrap:
they stop at the ends of the word. A lifetime can be longer than any such
difference, so the two are compared in words of 128 bits.
-/

namespace Keypad

/-- Milliseconds since the start of 1970, in a signed 64-bit word. -/
abbrev Moment := Int64

/-- A span of time as whole seconds and nanoseconds. -/
structure Lifetime where
  seconds : UInt64
  nanoseconds : UInt32
deriving DecidableEq, Repr

/-- The whole milliseconds of a span. -/
def Lifetime.millis (span : Lifetime) : Nat :=
  span.seconds.toNat * 1000 + span.nanoseconds.toNat / 1000000

namespace Moment

/-- The signed 64-bit word nearest to an integer. -/
def saturate (n : Int) : Int64 :=
  .ofInt (max Int64.minValue.toInt (min n Int64.maxValue.toInt))

/-- The milliseconds from one moment to a later one, negative if it is earlier. -/
def since (now earlier : Moment) : Int64 :=
  saturate (now.toInt - earlier.toInt)

/-- A count in a word of 128 bits. -/
def widen (count : Int64) : BitVec 128 :=
  count.toBitVec.signExtend 128

/-- Whether something stored at one moment is still fresh at another: it is not
from the future, and its age is below its lifetime. -/
def isFresh (stored now : Moment) (lifetime : Lifetime) : Bool :=
  let age := since now stored
  0 ≤ age && widen age < .ofNat 128 lifetime.millis

theorem toInt_saturate (n : Int) :
    (saturate n).toInt = max Int64.minValue.toInt (min n Int64.maxValue.toInt) := by
  have least : Int64.minValue.toInt = -9223372036854775808 := rfl
  have greatest : Int64.maxValue.toInt = 9223372036854775807 := rfl
  rw [saturate, least, greatest]
  exact Int64.toInt_ofInt_of_le (by omega) (by omega)

/-- A count that is not negative is kept as it is in the wider word. -/
theorem toNat_widen {count : Int64} (positive : 0 ≤ count) :
    ((widen count).toNat : Int) = count.toInt := by
  have kept : (widen count).toInt = count.toInt := BitVec.toInt_signExtend_of_le (by decide)
  have positive : 0 ≤ (widen count).toInt := by
    rw [kept]
    exact Int64.le_iff_toInt_le.1 positive
  rw [← kept]
  exact (BitVec.toInt_eq_toNat_of_lt (BitVec.toInt_pos_iff.1 positive)).symm

end Moment

end Keypad
