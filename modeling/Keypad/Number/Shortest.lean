import Keypad.Number.Binary
import Keypad.Number.Fixed

/-!
# Shortest decimal text of a double

The fewest decimal digits that only this double is nearest to, and of those the
digits closest to it, written out without an exponent.
-/

namespace Keypad.Shortest

/-- The reals that round to a double: the ends belong to them when the
significand is even. -/
structure Neighbourhood where
  low : Ratio
  high : Ratio
  closed : Bool

namespace Neighbourhood

/-- The neighbourhood of `significand * 2 ^ exponent` reaches half way to the
doubles on either side. Below a power of two the doubles lie twice as dense. -/
def around (significand : Nat) (exponent : Int) : Neighbourhood :=
  let below := if significand = Binary.hiddenBit ∧ Binary.leastExponent < exponent then 1 else 2
  { low := Binary.magnitude (4 * significand - below) (exponent - 2)
    high := Binary.magnitude (4 * significand + 2) (exponent - 2)
    closed := significand % 2 = 0 }

/-- Whether a number rounds to the double. -/
def contains (range : Neighbourhood) (r : Ratio) : Bool :=
  if range.closed then range.low.le r && r.le range.high
  else range.low.lt r && r.lt range.high

end Neighbourhood

/-- The multiple of `10 ^ exponent` closest to `value` among the two around it
that lie in the neighbourhood. An exact tie goes to the larger one. -/
def onGrid (range : Neighbourhood) (value : Ratio) (exponent : Int) : Option Nat :=
  let scaled := value.scale 10 (-exponent)
  let inside := fun digits => range.contains ((Ratio.ofNat digits).scale 10 exponent)
  match inside scaled.floor, inside (scaled.floor + 1) with
  | true, true => some (if scaled.compareHalf = .lt then scaled.floor else scaled.floor + 1)
  | true, false => some scaled.floor
  | false, true => some (scaled.floor + 1)
  | false, false => none

/-- The decimal number `digits * 10 ^ exponent`. -/
structure Decimal where
  digits : Nat
  exponent : Int
deriving DecidableEq, Repr

/-- The shortest decimal for a positive double. Seventeen digits always tell two
doubles apart, so the search over the number of digits ends there. -/
def digits (significand : Nat) (exponent : Int) : Decimal :=
  let value := Binary.magnitude significand exponent
  let range := Neighbourhood.around significand exponent
  let leading := value.order 10
  let found := (List.range 17).findSome? fun (places : Nat) =>
    (onGrid range value (leading - places)).map fun digits =>
      (⟨digits, leading - places⟩ : Decimal)
  found.getD ⟨significand, 0⟩

/-- A decimal number written out in full, without a point if it is whole. -/
def Decimal.write (d : Decimal) : Text :=
  match d.exponent with
  | .ofNat zeros => Nat.toDigits 10 (d.digits * Nat.pow 10 zeros)
  | .negSucc places => Fixed.trimFraction (Fixed.writeScaled (places + 1) d.digits)

/-- The shortest text of a double. -/
def write (x : Float) : Text :=
  match Binary.view x with
  | .notANumber => ['N', 'a', 'N']
  | .infinite negative => Fixed.sign negative ++ ['i', 'n', 'f']
  | .finite negative 0 _ => Fixed.sign negative ++ ['0']
  | .finite negative significand exponent =>
      Fixed.sign negative ++ (digits significand exponent).write

end Keypad.Shortest
