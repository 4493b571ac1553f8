import Keypad.Number.Fixed

/-!
# Scientific notation

A positive number as a significand with one digit before the point, and a power
of ten.
-/

namespace Keypad.Scientific

/-- The number `significand * 10 ^ (exponent - places)`. -/
structure Rounded where
  significand : Nat
  exponent : Int
deriving DecidableEq, Repr

/-- A positive ratio rounded to one digit before the point and `places` after it,
ties to the even last digit. A significand that rounds up to ten moves to the
next exponent. -/
def round (places : Nat) (r : Ratio) : Rounded :=
  let exponent := r.order 10
  let significand := (r.scale 10 (places - exponent)).nearest
  if significand < Nat.pow 10 (places + 1) then ⟨significand, exponent⟩
  else ⟨Nat.pow 10 places, exponent + 1⟩

/-- An exponent is written without a plus sign and without leading zeros. -/
def writeExponent (exponent : Int) : Text :=
  Fixed.sign (exponent < 0) ++ Nat.toDigits 10 exponent.natAbs

/-- A positive ratio in scientific notation with at most `places` places; zeros
at the end of the significand are left out. -/
def write (places : Nat) (negative : Bool) (r : Ratio) : Text :=
  let rounded := round places r
  Fixed.sign negative ++ Fixed.trimFraction (Fixed.writeScaled places rounded.significand)
    ++ 'e' :: writeExponent rounded.exponent

end Keypad.Scientific
