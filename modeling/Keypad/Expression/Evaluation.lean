import Keypad.Expression.Postfix
import Keypad.Expression.Scanner

/-!
# Evaluation

A postfix token list is evaluated on a stack of values. The evaluator is stated
for any reading of numerals and any four operations; the calculator uses doubles.
-/

namespace Keypad

/-- A reading of numerals and a meaning of the operators. -/
structure Arithmetic (α : Type) where
  read? : Text → Option α
  apply : Operator → α → α → α

/-- Double precision arithmetic. -/
def Arithmetic.double : Arithmetic Float where
  read? := Numeral.read?
  apply := Operator.apply

namespace Expression

/-- Why an expression has no value. -/
inductive Fault where
  | malformed (fault : Scanner.Fault)
  /-- An operator lacks an operand, or the tokens leave no value or several. -/
  | stackUnderflow
deriving DecidableEq, Repr

/-- The wording of a fault. -/
def Fault.message : Fault → Text
  | .malformed fault => "Malformed expression: ".toList ++ fault.message
  | .stackUnderflow => "Operand stack underflow".toList

/-- The value of a postfix token list on top of a stack of values, latest value
first. -/
def evaluatePostfixFrom {α : Type} (arithmetic : Arithmetic α) (stack : List α) :
    List Token → Except Fault α
  | [] =>
      match stack with
      | [value] => .ok value
      | _ => .error .stackUnderflow
  | .numeral text :: rest =>
      match arithmetic.read? text with
      | some value => evaluatePostfixFrom arithmetic (value :: stack) rest
      | none => .error (.malformed (.invalidNumeral text))
  | .operator op :: rest =>
      match stack with
      | right :: left :: below =>
          evaluatePostfixFrom arithmetic (arithmetic.apply op left right :: below) rest
      | _ => .error .stackUnderflow

/-- The value of a postfix token list. -/
def evaluatePostfix {α : Type} (arithmetic : Arithmetic α) (tokens : List Token) :
    Except Fault α :=
  evaluatePostfixFrom arithmetic [] tokens

/-- A numeral on its own has the value it is read as. -/
theorem evaluatePostfix_numeral {α : Type} {arithmetic : Arithmetic α} {text : Text}
    {value : α} (reads : arithmetic.read? text = some value) :
    evaluatePostfix arithmetic [.numeral text] = .ok value := by
  simp [evaluatePostfix, evaluatePostfixFrom, reads]

/-- The value of an expression. -/
def evaluate (expression : Text) : Except Fault Float :=
  match Token.ofText expression with
  | .ok tokens => evaluatePostfix .double (Postfix.order tokens)
  | .error fault => .error (.malformed fault)

end Expression

end Keypad
