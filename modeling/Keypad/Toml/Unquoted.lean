import Keypad.Numeral
import Keypad.Toml.DateTime
import Keypad.Toml.Node

/-!
# Values without quotes

Truth values, integers in four bases, floating numbers, and dates and times.
Underscores may separate digits. Numbers that no machine word can hold, and
floating numbers beyond the greatest double, are refused.
-/

namespace Keypad.Toml.Unquoted

/-- The digits of a base, in either case. -/
def isDigitOf (base : Nat) (c : Char) : Bool :=
  if base ≤ 10 then '0' ≤ c && c.toNat < '0'.toNat + base
  else Numeral.isDigit c || ('a' ≤ c.toLower && c.toLower.toNat < 'a'.toNat + (base - 10))

/-- The value of a digit. -/
def digitValue (c : Char) : Nat :=
  if Numeral.isDigit c then c.toNat - '0'.toNat
  else c.toLower.toNat - 'a'.toNat + 10

/-- Reads digits that single underscores may separate, and gives the digits
alone. -/
def digits? (isDigit : Char → Bool) : Text → Option Text
  | [] => none
  | [c] => if isDigit c then some [c] else none
  | c :: '_' :: rest => if isDigit c then (digits? isDigit rest).map (c :: ·) else none
  | c :: rest => if isDigit c then (digits? isDigit rest).map (c :: ·) else none

/-- Reads decimal digits without a zero in front of others. -/
def wholeDigits? (text : Text) : Option Text :=
  match digits? Numeral.isDigit text with
  | some ('0' :: _ :: _) => none
  | digits => digits

/-- The integers that some machine word of up to 128 bits holds. -/
def inRange (value : Int) : Bool :=
  -Int.pow 2 127 ≤ value && value < Int.pow 2 128

/-- An integer that is not out of range. -/
def integer? (value : Int) : Option Scalar :=
  if inRange value then some (.integer value) else none

/-- Reads the digits of an integer in another base than ten. -/
def based? (base : Nat) (text : Text) : Option Scalar := do
  let digits ← digits? (isDigitOf base) text
  integer? (digits.foldl (fun value c => base * value + digitValue c) 0 : Nat)

/-- Reads the parts of a floating number without its sign, and gives its text
without underscores. -/
def floatText? (text : Text) : Option Text := do
  let isMark (c : Char) : Bool := c == 'e' || c == 'E'
  let mantissa := text.takeWhile (!isMark ·)
  let whole ← wholeDigits? (mantissa.takeWhile (· != '.'))
  let places ← match mantissa.dropWhile (· != '.') with
    | [] => some []
    | _ :: rest => (digits? Numeral.isDigit rest).map ('.' :: ·)
  let exponent ← match text.dropWhile (!isMark ·) with
    | [] => some []
    | _ :: rest =>
        let (negative, unsigned) := Numeral.splitSign rest
        (digits? Numeral.isDigit unsigned).map fun digits =>
          'e' :: (if negative then '-' :: digits else digits)
  return whole ++ places ++ exponent

/-- Reads a floating number without its sign. -/
def float? (negative : Bool) (text : Text) : Option Scalar := do
  let unsigned ← floatText? text
  let value ← Numeral.read? (if negative then '-' :: unsigned else unsigned)
  if Binary.isFinite value then some (.float value) else none

/-- Reads a decimal number or one of the words for infinity and for no number,
after its sign if it has one. -/
def number? (negative : Bool) (text : Text) : Option Scalar :=
  match text with
  | ['i', 'n', 'f'] | ['n', 'a', 'n'] =>
      (Numeral.read? (if negative then '-' :: text else text)).map .float
  | _ =>
      match wholeDigits? text with
      | some digits =>
          let value := Numeral.digitsValue digits
          integer? (if negative then -(value : Int) else value)
      | none => float? negative text

/-- Reads a value without quotes. -/
def read? (text : Text) : Option Scalar :=
  match text with
  | ['t', 'r', 'u', 'e'] => some (.boolean true)
  | ['f', 'a', 'l', 's', 'e'] => some (.boolean false)
  | '0' :: 'x' :: digits => based? 16 digits
  | '0' :: 'o' :: digits => based? 8 digits
  | '0' :: 'b' :: digits => based? 2 digits
  | '-' :: unsigned => number? true unsigned
  | '+' :: unsigned => number? false unsigned
  | _ => if DateTime.isDateTime text then some .dateTime else number? false text

end Keypad.Toml.Unquoted
