import Keypad.Number.Binary
import Keypad.Number.Scientific

/-!
# The readout

How a value is shown: results on the calculator's own line, and amounts of
money with two places.
-/

namespace Keypad.Readout

/-- A result is written plainly if that takes at most this many characters. -/
def plainWidth : Nat := 9

/-- A plain result is rounded to this many places. -/
def plainPlaces : Nat := 5

/-- A result in scientific notation has this many places. -/
def scientificPlaces : Nat := 3

/-- An amount has this many places. -/
def amountPlaces : Nat := 2

/-- A finite result other than zero: plain with at most five places, or in
scientific notation if the plain text is too long or shows no digit but zero. -/
def finiteResult (negative : Bool) (r : Ratio) : Text :=
  let magnitude := Fixed.trimFraction (Fixed.write plainPlaces false r)
  let plain := Fixed.sign negative ++ magnitude
  if plain.length ≤ plainWidth ∧ magnitude ≠ ['0'] then plain
  else Scientific.write scientificPlaces negative r

/-- The text of a result. Both zeros are shown without a sign. -/
def result (x : Float) : Text :=
  match Binary.view x with
  | .notANumber => "NaN".toList
  | .infinite negative => Fixed.sign negative ++ "Infinity".toList
  | .finite negative significand exponent =>
      if significand = 0 then ['0']
      else finiteResult negative (Binary.magnitude significand exponent)

/-- The text of an amount: every digit of it and two places, with the sign of the
value even where nothing but zeros is shown. -/
def amount (x : Float) : Text :=
  match Binary.view x with
  | .notANumber => "NaN".toList
  | .infinite negative => Fixed.sign negative ++ "inf".toList
  | .finite negative significand exponent =>
      Fixed.write amountPlaces negative (Binary.magnitude significand exponent)

end Keypad.Readout
