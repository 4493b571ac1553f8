import Keypad.Expression.Token

/-!
# Postfix order

Operators move behind their operands. An operator waits on a stack until one
arrives that does not bind tighter, so all operators associate to the left. Any
token list has a postfix order, whether or not it is an expression.
-/

namespace Keypad.Postfix

/-- Whether a waiting operator goes out before `op` waits. -/
def yields (op waiting : Operator) : Bool :=
  op.priority ≤ waiting.priority

/-- The postfix order of the tokens to come, with the waiting operators, latest
first. -/
def orderFrom (waiting : List Operator) : List Token → List Token
  | [] => waiting.map .operator
  | .numeral text :: rest => .numeral text :: orderFrom waiting rest
  | .operator op :: rest =>
      (waiting.takeWhile (yields op)).map .operator ++
        orderFrom (op :: waiting.dropWhile (yields op)) rest

/-- The postfix order of a token list. -/
def order (tokens : List Token) : List Token :=
  orderFrom [] tokens

@[simp] theorem order_nil : order [] = [] := rfl

@[simp] theorem order_numeral (text : Text) : order [.numeral text] = [.numeral text] := rfl

end Keypad.Postfix
