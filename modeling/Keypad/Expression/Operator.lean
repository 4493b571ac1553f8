import Keypad.Text

/-!
# Operators

The four binary operators, the characters that write them, and how tightly they
bind.
-/

namespace Keypad

/-- A binary operator. -/
inductive Operator where
  | add
  | sub
  | mul
  | div
deriving DecidableEq, Repr

namespace Operator

/-- The operator a character writes. Multiplication and division have a plain and
a displayed form. -/
def ofChar? : Char → Option Operator
  | '+' => some .add
  | '-' => some .sub
  | '*' => some .mul
  | '×' => some .mul
  | '/' => some .div
  | '÷' => some .div
  | _ => none

/-- The displayed form. -/
def symbol : Operator → Char
  | .add => '+'
  | .sub => '-'
  | .mul => '×'
  | .div => '÷'

/-- Multiplication and division bind tighter than addition and subtraction. -/
def priority : Operator → Nat
  | .add | .sub => 1
  | .mul | .div => 2

/-- The operation on doubles. Division by zero gives an infinity or a NaN. -/
def apply : Operator → Float → Float → Float
  | .add, left, right => left + right
  | .sub, left, right => left - right
  | .mul, left, right => left * right
  | .div, left, right => left / right

/-- Whether a character writes an operator. -/
def isSymbol (c : Char) : Bool :=
  (ofChar? c).isSome

@[simp] theorem ofChar?_symbol (op : Operator) : ofChar? op.symbol = some op := by
  cases op <;> rfl

@[simp] theorem isSymbol_symbol (op : Operator) : isSymbol op.symbol := by
  cases op <;> rfl

/-- Four operators are written by six characters. -/
theorem isSymbol_iff (c : Char) :
    isSymbol c ↔ c = '+' ∨ c = '-' ∨ c = '*' ∨ c = '×' ∨ c = '/' ∨ c = '÷' := by
  unfold isSymbol ofChar?
  split <;> simp_all

end Operator

end Keypad
