import Keypad.Expression.Scanner
import Keypad.Key
import Keypad.Text.Blank

/-!
# The entry line

The line on which an expression is typed. The operations here decide which keys
the line accepts: an operator needs an operand in front of it, a minus may also
open a numeral, and a numeral has one point and none in its exponent. A line with
nothing typed on it holds a single zero.
-/

namespace Keypad.Entry

/-- A line with nothing typed on it. -/
def empty : Text := ['0']

/-- A line that starts over with one key. -/
def fresh (key : Key) : Text :=
  match key with
  | .point => ['0', '.']
  | _ =>
      match key.symbol? with
      | some c => [c]
      | none => empty

/-- Whether a character may sign an exponent. -/
def isSign (c : Char) : Bool :=
  c == '+' || c == '-'

/-- Whether a reversed line ends in an exponent letter. -/
def endsInExponentLetter : Text → Bool
  | c :: _ => Scanner.isExponentLetter c
  | [] => false

/-- The numeral at the end of a reversed line, reversed. It reaches back to the
last operator; the sign of an exponent belongs to the numeral. -/
def openNumeralReversed : Text → Text
  | [] => []
  | c :: before =>
      if Operator.isSymbol c && !(isSign c && endsInExponentLetter before) then []
      else c :: openNumeralReversed before

/-- The numeral being typed at the end of a line. -/
def openNumeral (line : Text) : Text :=
  (openNumeralReversed line.reverse).reverse

/-- A reversed line without an exponent letter at its end, and without the sign
after such a letter: neither can stand without the digits that followed. -/
def dropExponentMark : Text → Text
  | sign :: letter :: before =>
      if isSign sign && Scanner.isExponentLetter letter then before
      else if Scanner.isExponentLetter sign then letter :: before
      else sign :: letter :: before
  | [letter] => if Scanner.isExponentLetter letter then [] else [letter]
  | [] => []

/-- A line without its last character. -/
def erase (line : Text) : Text :=
  match (dropExponentMark line.dropLast.reverse).reverse with
  | [] => empty
  | shorter => shorter

/-- A line with a minus at its end. On an empty line the minus opens a numeral;
a second minus in a row does nothing. -/
def pushMinus (line : Text) : Text :=
  if line = [] ∨ line = empty then ['-']
  else if line.getLast? = some '-' then line
  else line ++ ['-']

/-- A line with an operator at its end, unless there is no operand for it: the
line is empty or ends in an operator. -/
def pushOperator? (line : Text) (op : Operator) : Option Text :=
  match line.getLast? with
  | none => none
  | some last =>
      if Operator.isSymbol last ∨ line = empty then none else some (line ++ [op.symbol])

/-- A line with a point at its end, unless the numeral there has one already or
is in its exponent. A point that opens a numeral gets a zero in front. -/
def pushPoint? (line : Text) : Option Text :=
  let numeral := openNumeral line
  if numeral.any (fun c => c == '.' || Scanner.isExponentLetter c) then none
  else if numeral = [] then some (line ++ ['0', '.'])
  else some (line ++ ['.'])

/-- A line with a digit at its end. The digit takes the place of the zero of an
empty line. -/
def pushDigit (line : Text) (digit : Char) : Text :=
  if line = empty then [digit] else line ++ [digit]

/-- A line with a digit or a point at its end, unless the line does not accept it
or the key writes nothing. -/
def pushLiteral? (line : Text) (key : Key) : Option Text :=
  match key with
  | .point => pushPoint? line
  | _ => key.symbol?.map (pushDigit line)

/-- The expression a line stands for: operators at its end wait for an operand
and do not count, and an empty line is zero. -/
def expression (line : Text) : Text :=
  match Text.dropEndWhile Operator.isSymbol line with
  | [] => empty
  | complete => complete

/-- The amount at the start of a line: its first word as a number, and zero if
that is not a numeral. -/
def leadingAmount (line : Text) : Float :=
  (Numeral.read? (Text.firstWord line)).getD 0

/-- The line is never left without a character. -/
theorem erase_ne_nil (line : Text) : erase line ≠ [] := by
  unfold erase
  split
  · decide
  · assumption

/-- A line that starts over holds at least one character. -/
theorem fresh_ne_nil (key : Key) : fresh key ≠ [] := by
  unfold fresh
  split
  · decide
  · split
    · exact List.cons_ne_nil _ _
    · decide

/-- There is always something to evaluate. -/
theorem expression_ne_nil (line : Text) : expression line ≠ [] := by
  unfold expression
  split
  · decide
  · assumption

/-- A minus leaves a minus at the end. -/
@[simp] theorem getLast?_pushMinus (line : Text) : (pushMinus line).getLast? = some '-' := by
  unfold pushMinus
  split
  · rfl
  · split
    · assumption
    · exact List.getLast?_concat

/-- A minus right after a minus does nothing. -/
@[simp] theorem pushMinus_pushMinus (line : Text) :
    pushMinus (pushMinus line) = pushMinus line := by
  have last := getLast?_pushMinus line
  have typed : ¬(pushMinus line = [] ∨ pushMinus line = empty) := by
    rintro (equal | equal) <;> simp [equal, empty] at last
  rw [pushMinus, if_neg typed, if_pos last]

end Keypad.Entry
