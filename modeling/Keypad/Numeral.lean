import Keypad.Number.Binary
import Keypad.Text

/-!
# Numerals

The texts that denote a number, and the double each denotes. A numeral has an
optional sign and then either a word, `inf`, `infinity` or `nan` in letters of
either case, or decimal digits with at most one point among or around them and
an optional exponent. Only ASCII characters occur; blanks and separators do not.
-/

namespace Keypad

/-- The number a numeral denotes, apart from its sign. -/
inductive Numeral.Size where
  | notANumber
  | infinite
  /-- The number `digits * 10 ^ exponent`. -/
  | decimal (digits : Nat) (exponent : Int)
deriving DecidableEq, Repr

/-- A numeral that has been read. -/
structure Numeral where
  negative : Bool
  size : Numeral.Size
deriving DecidableEq, Repr

namespace Numeral

/-- The ASCII digits. -/
def isDigit (c : Char) : Bool := '0' ≤ c && c ≤ '9'

/-- The number a run of digits denotes. -/
def digitsValue (digits : Text) : Nat :=
  Nat.ofDigitChars 10 digits 0

/-- Splits off a sign and says whether it is a minus. -/
def splitSign : Text → Bool × Text
  | '-' :: rest => (true, rest)
  | '+' :: rest => (false, rest)
  | rest => (false, rest)

/-- Splits off the longest run of digits. -/
def splitDigits (text : Text) : Text × Text :=
  (text.takeWhile isDigit, text.dropWhile isDigit)

/-- Reads what may follow the digits: nothing, or an exponent letter, an optional
sign and at least one digit. -/
def readExponent? : Text → Option Int
  | [] => some 0
  | marker :: rest =>
      if marker = 'e' ∨ marker = 'E' then
        let (negative, unsigned) := splitSign rest
        let (digits, after) := splitDigits unsigned
        if digits = [] ∨ after ≠ [] then none
        else some (if negative then -(digitsValue digits : Int) else digitsValue digits)
      else none

/-- Reads digits, a point and more digits, at least one digit in all, with an
optional exponent. Every place after the point lowers the exponent by one. -/
def readDecimal? (text : Text) : Option Size :=
  let (whole, afterWhole) := splitDigits text
  let (places, afterPlaces) :=
    match afterWhole with
    | '.' :: rest => splitDigits rest
    | rest => ([], rest)
  if whole = [] ∧ places = [] then none
  else (readExponent? afterPlaces).map fun exponent =>
    .decimal (digitsValue (whole ++ places)) (exponent - places.length)

/-- Reads one of the words for what is not a finite number. -/
def readWord? (text : Text) : Option Size :=
  match text.map Char.toLower with
  | ['i', 'n', 'f'] => some .infinite
  | ['i', 'n', 'f', 'i', 'n', 'i', 't', 'y'] => some .infinite
  | ['n', 'a', 'n'] => some .notANumber
  | _ => none

/-- Reads a whole text as a numeral. -/
def parse? (text : Text) : Option Numeral :=
  let (negative, unsigned) := splitSign text
  ((readWord? unsigned).or (readDecimal? unsigned)).map (⟨negative, ·⟩)

/-- The double nearest to the number a numeral denotes. -/
def value (numeral : Numeral) : Float :=
  match numeral.size with
  | .notANumber => 0.0 / 0.0
  | .infinite => Binary.ofMagnitude numeral.negative Binary.infinityBits
  | .decimal digits exponent => Binary.ofDecimal numeral.negative digits exponent

/-- The double a text denotes, if it is a numeral. -/
def read? (text : Text) : Option Float :=
  (parse? text).map value

/-- Splitting off digits loses nothing. -/
theorem append_splitDigits (text : Text) :
    (splitDigits text).1 ++ (splitDigits text).2 = text :=
  List.takeWhile_append_dropWhile

/-- What is split off is digits. -/
theorem isDigit_of_mem_splitDigits {text : Text} {c : Char}
    (member : c ∈ (splitDigits text).1) : isDigit c :=
  List.all_eq_true.1 List.all_takeWhile c member

/-- What remains does not start with a digit. -/
theorem isDigit_head?_splitDigits {text : Text} {c : Char}
    (first : (splitDigits text).2.head? = some c) : isDigit c = false := by
  have remains := List.head?_dropWhile_not isDigit text
  rw [splitDigits] at first
  simpa [first] using remains

/-- A text is a numeral exactly when it can be read. -/
theorem isSome_read?_iff (text : Text) : (read? text).isSome ↔ (parse? text).isSome := by
  simp [read?]

end Numeral

end Keypad
