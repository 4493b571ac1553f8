import Keypad.Numeral

/-!
# Dates and times

Which texts are a date, a time of day, or a date with a time and perhaps an
offset. The seconds may be left out. A minute may have a leap second.
-/

namespace Keypad.Toml.DateTime

/-- Reads two digits. -/
def twoDigits? : Text → Option (Nat × Text)
  | tens :: ones :: rest =>
      if Numeral.isDigit tens && Numeral.isDigit ones then
        some (Numeral.digitsValue [tens, ones], rest)
      else none
  | _ => none

/-- Reads two digits that do not exceed a limit. -/
def twoDigitsUpTo? (limit : Nat) (text : Text) : Option Text := do
  let (value, rest) ← twoDigits? text
  if value ≤ limit then some rest else none

/-- Whether a year has a leap day. -/
def isLeapYear (year : Nat) : Bool :=
  year % 4 == 0 && (year % 100 != 0 || year % 400 == 0)

/-- The number of days of a month. -/
def daysInMonth (year month : Nat) : Nat :=
  if month = 2 then (if isLeapYear year then 29 else 28)
  else if month = 4 ∨ month = 6 ∨ month = 9 ∨ month = 11 then 30
  else 31

/-- Reads a given character. -/
def mark? (expected : Char) : Text → Option Text
  | c :: rest => if c = expected then some rest else none
  | [] => none

/-- Reads a date: four digits of the year, two of the month, two of the day. -/
def date? (text : Text) : Option Text := do
  let (century, rest) ← twoDigits? text
  let (year, rest) ← twoDigits? rest
  let (month, rest) ← twoDigits? (← mark? '-' rest)
  let (day, rest) ← twoDigits? (← mark? '-' rest)
  if 1 ≤ month ∧ month ≤ 12 ∧ 1 ≤ day ∧ day ≤ daysInMonth (century * 100 + year) month then
    some rest
  else none

/-- Reads the fraction of a second, if there is one. -/
def fraction? (text : Text) : Option Text :=
  match text with
  | '.' :: rest =>
      let (digits, after) := Numeral.splitDigits rest
      if digits = [] then none else some after
  | _ => some text

/-- Reads a time of day, with or without seconds. -/
def time? (text : Text) : Option Text := do
  let rest ← twoDigitsUpTo? 59 (← mark? ':' (← twoDigitsUpTo? 23 text))
  match rest with
  | ':' :: seconds => fraction? (← twoDigitsUpTo? 60 seconds)
  | _ => some rest

/-- Whether a text is nothing or an offset from universal time. -/
def isOffset (text : Text) : Bool :=
  match text with
  | [] => true
  | ['Z'] | ['z'] => true
  | sign :: rest =>
      (sign == '+' || sign == '-') &&
        (do twoDigitsUpTo? 59 (← mark? ':' (← twoDigitsUpTo? 23 rest))) == some []

/-- Whether a text is a date, a time, or both. -/
def isDateTime (text : Text) : Bool :=
  match date? text with
  | some [] => true
  | some (separator :: rest) =>
      (separator == 'T' || separator == 't' || separator == ' ') &&
        (match time? rest with
          | some offset => isOffset offset
          | none => false)
  | none => time? text == some []

end Keypad.Toml.DateTime
