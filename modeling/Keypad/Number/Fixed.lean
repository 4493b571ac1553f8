import Keypad.Number.Ratio
import Keypad.Text

/-!
# Decimal numbers with a fixed number of places

The written form has a sign, the whole part without leading zeros, a point and
exactly the requested places. The number written is the nearest one with that
many places; a tie goes to the even last digit.
-/

namespace Keypad.Fixed

/-- The sign of a written number: a minus or nothing. -/
def sign (negative : Bool) : Text :=
  if negative then ['-'] else []

/-- The decimal digits of `value / 10 ^ places`, with exactly `places` of them
after the point. -/
def writeScaled (places value : Nat) : Text :=
  Nat.toDigits 10 (value / Nat.pow 10 places) ++
    '.' :: (Nat.toDigits 10 (value % Nat.pow 10 places)).leftpad places '0'

/-- A ratio rounded to `places` decimal places and written out. -/
def write (places : Nat) (negative : Bool) (r : Ratio) : Text :=
  sign negative ++ writeScaled places (r.scale 10 places).nearest

/-- A number with a point, without the zeros at its end and without a point that
would then end it. -/
def trimFraction (text : Text) : Text :=
  Text.dropEndWhile (· == '.') (Text.dropEndWhile (· == '0') text)

end Keypad.Fixed
