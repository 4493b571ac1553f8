import Keypad.Number.Ratio

/-!
# Binary values

The view of a double precision number as a sign, a significand and a power of
two, and the double nearest to a decimal number. All of it is exact integer
arithmetic on the bits, so the rounding of a numeral and the digits of a result
can both be stated about `Ratio`.
-/

namespace Keypad.Binary

/-- What the bits of a double stand for. -/
inductive View where
  | notANumber
  | infinite (negative : Bool)
  /-- The number `significand * 2 ^ exponent`, negated if `negative`. -/
  | finite (negative : Bool) (significand : Nat) (exponent : Int)
deriving DecidableEq, Repr

/-- The number of significand values below the hidden bit. -/
def hiddenBit : Nat := Nat.pow 2 52

/-- The exponent of the smallest positive double, shared by all that have no
hidden bit. -/
def leastExponent : Int := -1074

/-- The bits of positive infinity. All finite magnitudes lie below. -/
def infinityBits : Nat := 2047 * hiddenBit

/-- The meaning of a magnitude, the lower 63 bits of a double, under a sign. -/
def viewMagnitude (negative : Bool) (magnitude : Nat) : View :=
  let field := magnitude / hiddenBit
  let fraction := magnitude % hiddenBit
  if field = 0 then .finite negative fraction leastExponent
  else if field < 2047 then
    .finite negative (hiddenBit + fraction) (leastExponent + ((field : Int) - 1))
  else if fraction = 0 then .infinite negative
  else .notANumber

/-- The meaning of a double. -/
def view (x : Float) : View :=
  let bits := x.toBits.toNat
  viewMagnitude (Nat.pow 2 63 ≤ bits) (bits % Nat.pow 2 63)

/-- A double is finite when it is neither an infinity nor a NaN. -/
def isFinite (x : Float) : Bool :=
  match view x with
  | .finite .. => true
  | _ => false

/-- The magnitude `significand * 2 ^ exponent` as a ratio. -/
def magnitude (significand : Nat) (exponent : Int) : Ratio :=
  (Ratio.ofNat significand).scale 2 exponent

/-- The double with the given sign and the given lower 63 bits. -/
def ofMagnitude (negative : Bool) (magnitude : Nat) : Float :=
  Float.ofBits (UInt64.ofNat (if negative then Nat.pow 2 63 + magnitude else magnitude))

/-- The magnitude bits of the double nearest to a positive ratio, ties to the
even significand. The exponent is the one that leaves 53 bits of significand, or
the least one. The bits of the magnitudes count up with their values, so a
significand that rounds up to the next power of two carries into the exponent by
itself, and whatever would reach infinity is infinity. -/
def nearestMagnitude (r : Ratio) : Nat :=
  let exponent := max (r.order 2 - 52) leastExponent
  let significand := (r.scale 2 (-exponent)).nearest
  min ((exponent - leastExponent).toNat * hiddenBit + significand) infinityBits

/-- The magnitude bits of the double nearest to `digits * 10 ^ exponent`. Numbers
of at least `10 ^ 309` are infinite and numbers below `10 ^ -325` vanish, which
keeps the powers of ten small however large the written exponent is. -/
def nearestDecimal (digits : Nat) (exponent : Int) : Nat :=
  let size := (Nat.toDigits 10 digits).length + exponent
  if digits = 0 then 0
  else if 310 ≤ size then infinityBits
  else if size ≤ -325 then 0
  else nearestMagnitude ((Ratio.ofNat digits).scale 10 exponent)

/-- The double nearest to `digits * 10 ^ exponent`, negated if `negative`. -/
def ofDecimal (negative : Bool) (digits : Nat) (exponent : Int) : Float :=
  ofMagnitude negative (nearestDecimal digits exponent)

@[simp] theorem nearestDecimal_zero (exponent : Int) : nearestDecimal 0 exponent = 0 := by
  simp [nearestDecimal]

/-- Nothing rounds beyond infinity. -/
theorem nearestDecimal_le (digits : Nat) (exponent : Int) :
    nearestDecimal digits exponent ≤ infinityBits := by
  unfold nearestDecimal nearestMagnitude
  simp only
  split
  · exact Nat.zero_le _
  · split
    · exact Nat.le_refl _
    · split
      · exact Nat.zero_le _
      · exact Nat.min_le_right _ _

end Keypad.Binary
