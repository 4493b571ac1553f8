import Keypad.Expression.Operator

/-!
# Tokens

An expression is a list of tokens: the texts of its numerals and its operators.
A numeral keeps its spelling, so the written form of a token list is the
expression it was read from, up to the form of the operators.
-/

namespace Keypad

/-- A numeral, by its text, or an operator. -/
inductive Token where
  | numeral (text : Text)
  | operator (op : Operator)
deriving DecidableEq, Repr

namespace Token

/-- The displayed form of a token. -/
def render : Token → Text
  | .numeral text => text
  | .operator op => [op.symbol]

/-- The displayed form of a token list. -/
def renderAll (tokens : List Token) : Text :=
  tokens.flatMap render

/-- The displayed form of one character of an expression. -/
def displayedChar (c : Char) : Char :=
  match Operator.ofChar? c with
  | some op => op.symbol
  | none => c

/-- An expression with every operator in its displayed form. -/
def displayed (expression : Text) : Text :=
  expression.map displayedChar

@[simp] theorem renderAll_nil : renderAll [] = [] := rfl

@[simp] theorem renderAll_cons (token : Token) (tokens : List Token) :
    renderAll (token :: tokens) = token.render ++ renderAll tokens := rfl

@[simp] theorem renderAll_append (left right : List Token) :
    renderAll (left ++ right) = renderAll left ++ renderAll right := by
  simp [renderAll]

end Token

end Keypad
