import Keypad.Entry
import Keypad.Expression.Evaluation
import Keypad.Readout

/-!
# The display

What the calculator shows, and how each key changes it. A key either gives the
next display or, if the line cannot be evaluated, a fault that leaves the display
alone; `press` never changes the display it is given.

The order of the rules matters. The clear key comes first, then the reset that a
shown conversion or error asks for, and only then what the key itself does.
-/

namespace Keypad

/-- What is shown on the line beside typed keys. -/
structure Flags where
  /-- The line shows the result of the last evaluation. -/
  result : Bool
  /-- The line shows a converted amount. -/
  conversion : Bool
  /-- The line shows an error message or a result that is not finite. -/
  error : Bool
deriving DecidableEq, Repr

/-- No flag set. -/
def Flags.none : Flags := ⟨false, false, false⟩

/-- Whether the next key first starts the display over. -/
def Flags.needsReset (flags : Flags) : Bool :=
  flags.conversion || flags.error

/-- The entry line, the line above it, the flags and the currency picker. -/
structure Display where
  buffer : Text
  previous : Text
  flags : Flags
  pickerOpen : Bool
deriving DecidableEq, Repr

/-- What a key asks of the currency conversion. -/
inductive Signal where
  /-- Forget the amount that is being converted. -/
  | resetCurrency
  | openCurrencyPicker
deriving DecidableEq, Repr

namespace Display

/-- The display before anything is typed. -/
def initial : Display := ⟨Entry.empty, [], Flags.none, false⟩

/-- The display that shows the value of its line, with the expression above it.
A value that is not finite counts as an error. -/
def evaluate (display : Display) : Except Expression.Fault Display := do
  let expression := Entry.expression display.buffer
  let value ← Expression.evaluate expression
  return { display with
    buffer := Readout.result value
    previous := expression
    flags := { display.flags with
      result := true
      error := display.flags.error || !Binary.isFinite value } }

/-- The display without the last character of its line. A result is not erased
piecemeal. -/
def backspace (display : Display) : Display :=
  if display.buffer = Entry.empty ∨ display.flags.result then display
  else { display with buffer := Entry.erase display.buffer }

/-- The display with another line that is typed rather than a result. -/
def withLine (display : Display) (line : Text) : Display :=
  { display with buffer := line, flags := { display.flags with result := false } }

/-- The display after a key that the line may or may not accept. -/
def withLine? (display : Display) : Option Text → Display
  | some line => display.withLine line
  | none => display

/-- The display started over by one key. -/
def restarted (key : Key) : Display :=
  if key.isLiteral then { initial with buffer := Entry.fresh key } else initial

/-- The display after a key that writes on the line. An operator continues with a
shown result; a digit or a point starts a new line in its place. -/
def type (display : Display) (key : Key) : Display :=
  match key with
  | .operator .sub => display.withLine (Entry.pushMinus display.buffer)
  | .operator op => display.withLine? (Entry.pushOperator? display.buffer op)
  | _ =>
      if display.flags.result then
        { display.withLine (Entry.fresh key) with previous := [] }
      else display.withLine? (Entry.pushLiteral? display.buffer key)

/-- What a key does on a display that needs no reset. -/
def act (display : Display) (key : Key) :
    Except Expression.Fault (Display × Option Signal) :=
  match key with
  | .clear => .ok (initial, some .resetCurrency)
  | .decoration => .ok (display, none)
  | .backspace => .ok (display.backspace, none)
  | .evaluate => return (← display.evaluate, none)
  | .convert => .ok ({ display with pickerOpen := true }, some .openCurrencyPicker)
  | .operator _ | .digit _ | .point => .ok (display.type key, none)

/-- The display after a key, and what the key asks of the currency conversion. A
display that needs a reset starts over with the key, unless the key clears it
anyway. -/
def press (display : Display) (key : Key) :
    Except Expression.Fault (Display × Option Signal) :=
  if display.flags.needsReset ∧ key ≠ .clear then
    .ok (restarted key, some .resetCurrency)
  else display.act key

/-- The amount the display offers for conversion. -/
def leadingAmount (display : Display) : Float :=
  Entry.leadingAmount display.buffer

/-- The display that shows a converted amount. The picker closes. -/
def showConversion (display : Display) (text : Text) : Display :=
  { display with
    buffer := text
    flags := { display.flags with conversion := true }
    pickerOpen := false }

/-- The display that shows an error message, with or without what stands above
it. The picker closes. -/
def showError (display : Display) (message : Text) (clearPrevious : Bool) : Display :=
  { display with
    buffer := message
    previous := if clearPrevious then [] else display.previous
    flags := { display.flags with error := true }
    pickerOpen := false }

/-- Clearing always leads to the initial display. -/
@[simp] theorem press_clear (display : Display) :
    display.press .clear = .ok (initial, some .resetCurrency) := by
  simp [press, act]

/-- A display that needs a reset keeps nothing but the digit or point pressed. -/
theorem press_of_needsReset {display : Display} (reset : display.flags.needsReset)
    {key : Key} (other : key ≠ .clear) :
    display.press key = .ok (restarted key, some .resetCurrency) := by
  simp [press, other, reset]

end Display

end Keypad
