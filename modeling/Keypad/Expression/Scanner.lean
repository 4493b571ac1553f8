import Keypad.Expression.Token
import Keypad.Numeral
import Keypad.Text.Quoted

/-!
# Scanning expressions

The scanner takes an expression apart one character at a time. A token is handed
out when the character after it has been seen, so the scanner holds at most one
unfinished token. A minus where an operand may start belongs to the numeral, and
so does a sign right after an exponent letter.

After a fault, as after the end of an expression, the scanner is at the start of
a new expression.
-/

namespace Keypad

/-- What the scanner holds. -/
inductive Scanner where
  /-- At the start of an expression. -/
  | start
  /-- Inside a numeral; `signAllowed` right after an exponent letter. -/
  | inNumeral (text : Text) (signAllowed : Bool)
  /-- After an operator. -/
  | afterOperator (op : Operator)
deriving DecidableEq, Repr

namespace Scanner

/-- Why a text is not a list of tokens. -/
inductive Fault where
  | unexpectedCharacter (c : Char)
  /-- An exponent letter where an operand should start. -/
  | misplacedExponent
  | invalidNumeral (text : Text)
deriving DecidableEq, Repr

/-- The wording of a fault. -/
def Fault.message : Fault → Text
  | .unexpectedCharacter c => "Unexpected character: ".toList ++ Text.quotedChar c
  | .misplacedExponent => "Exponent marker without a mantissa".toList
  | .invalidNumeral text => "Invalid number: ".toList ++ text

/-- The characters of a numeral besides exponent letters and signs. -/
def isNumeralChar (c : Char) : Bool :=
  Numeral.isDigit c || c == '.'

/-- The letters that start an exponent. -/
def isExponentLetter (c : Char) : Bool :=
  c == 'e' || c == 'E'

/-- The operator a character writes, or the fault of being none. -/
def readOperator (c : Char) : Except Fault Operator :=
  match Operator.ofChar? c with
  | some op => .ok op
  | none => .error (.unexpectedCharacter c)

/-- The token of a finished numeral. -/
def finishNumeral (text : Text) : Except Fault Token :=
  if (Numeral.read? text).isSome then .ok (.numeral text)
  else .error (.invalidNumeral text)

/-- What a character does where an operand may start. An operator may stand there
as well: whether it has operands is not the scanner's concern. -/
def beginOperand (c : Char) : Except Fault Scanner :=
  if isNumeralChar c || c == '-' then .ok (.inNumeral [c] false)
  else if isExponentLetter c then .error .misplacedExponent
  else return .afterOperator (← readOperator c)

/-- The next character: the scanner after it and the token it finishes. An
operator character is looked up before the numeral in front of it is checked. -/
def step : Scanner → Char → Except Fault (Scanner × Option Token)
  | .start, c => return (← beginOperand c, none)
  | .afterOperator op, c => return (← beginOperand c, some (.operator op))
  | .inNumeral text signAllowed, c =>
      if isNumeralChar c || (signAllowed && (c == '+' || c == '-')) then
        .ok (.inNumeral (text ++ [c]) false, none)
      else if isExponentLetter c then
        .ok (.inNumeral (text ++ [c]) true, none)
      else do
        let op ← readOperator c
        let token ← finishNumeral text
        return (.afterOperator op, some token)

/-- The end of the expression: the token still held. -/
def finish : Scanner → Except Fault (Option Token)
  | .start => .ok none
  | .inNumeral text _ => return some (← finishNumeral text)
  | .afterOperator op => .ok (some (.operator op))

/-- The tokens of a text read from a given state to its end. -/
def tokensFrom (scanner : Scanner) : Text → Except Fault (List Token)
  | [] => return (← scanner.finish).toList
  | c :: rest => do
      let (next, token) ← scanner.step c
      return token.toList ++ (← next.tokensFrom rest)

/-- One use of a scanner that lives on: a character, or the end of an
expression. -/
inductive Input where
  | char (c : Char)
  | finish
deriving DecidableEq, Repr

/-- What is done in a use. It may fault at any point, and then the scanner holds
what it held at that point. A scanner that is used for one expression is given up at
its first fault, so `step` need not say what it holds then. -/
abbrev Use := ExceptT Fault (StateM Scanner)

namespace Use

/-- Takes out what the scanner holds. Until something is put back, the scanner is at
the start of an expression. -/
def take : Use Scanner :=
  modifyGet fun held => (held, start)

/-- Puts back what a character begins where an operand may start. -/
def openOperand (c : Char) : Use Unit := do
  if isNumeralChar c || c == '-' then set (inNumeral [c] false)
  else if isExponentLetter c then throw .misplacedExponent
  else set (afterOperator (← readOperator c))

/-- What is done with a character, and with what was taken out. -/
def readChar (c : Char) : Scanner → Use (Option Token)
  | start => do
      openOperand c
      return none
  | afterOperator op => do
      openOperand c
      return some (.operator op)
  | inNumeral text signAllowed => do
      if isNumeralChar c || (signAllowed && (c == '+' || c == '-')) then
        set (inNumeral (text ++ [c]) false)
        return none
      else if isExponentLetter c then
        set (inNumeral (text ++ [c]) true)
        return none
      else
        let op ← readOperator c
        let token ← finishNumeral text
        set (afterOperator op)
        return some token

/-- What is done at the end of an expression with what was taken out. -/
def readEnd : Scanner → Use (Option Token)
  | start => return none
  | inNumeral text _ => return some (← finishNumeral text)
  | afterOperator op => return some (.operator op)

/-- The use that an input makes of the scanner. -/
def ofInput : Input → Use (Option Token)
  | .char c => do readChar c (← take)
  | .finish => do readEnd (← take)

/-- Opening an operand puts back what the character begins there. If it begins
nothing, nothing is put back. -/
theorem run_openOperand (c : Char) (answer : Option Token) (held : Scanner) :
    (do openOperand c; return answer : Use (Option Token)).run.run held =
      match beginOperand c with
      | .ok next => (.ok answer, next)
      | .error fault => (.error fault, held) := by
  unfold openOperand beginOperand
  split
  · rfl
  · split
    · rfl
    · cases readOperator c <;> rfl

/-- A character does to what was taken out what `step` says. At each of its faults,
nothing was put back yet. -/
theorem run_readChar (c : Char) (held : Scanner) :
    (readChar c held).run.run start =
      match held.step c with
      | .ok (next, token) => (.ok token, next)
      | .error fault => (.error fault, start) := by
  cases held with
  | start =>
      rw [readChar, run_openOperand, step]
      cases beginOperand c <;> rfl
  | afterOperator op =>
      rw [readChar, run_openOperand, step]
      cases beginOperand c <;> rfl
  | inNumeral text signAllowed =>
      rw [readChar, step]
      split
      · rfl
      · split
        · rfl
        · cases readOperator c with
          | error fault => rfl
          | ok op => cases finishNumeral text <;> rfl

theorem run_readEnd (held : Scanner) :
    (readEnd held).run.run start = (held.finish, start) := by
  cases held with
  | start => rfl
  | afterOperator op => rfl
  | inNumeral text signAllowed =>
      rw [readEnd, Scanner.finish]
      cases finishNumeral text <;> rfl

end Use

/-- The scanner after one use, and what that use gave. -/
def react (scanner : Scanner) (input : Input) : Scanner × Except Fault (Option Token) :=
  let (answer, next) := (Use.ofInput input).run.run scanner
  (next, answer)

/-- A character is answered as in a scanner that is used for one expression. After a
fault the scanner is at the start of an expression. -/
theorem react_char (scanner : Scanner) (c : Char) :
    scanner.react (.char c) =
      match scanner.step c with
      | .ok (next, token) => (next, .ok token)
      | .error fault => (.start, .error fault) := by
  change ((Use.readChar c scanner).run.run start).swap = _
  rw [Use.run_readChar]
  cases scanner.step c <;> rfl

/-- The end of an expression is the start of the next. -/
@[simp] theorem react_finish (scanner : Scanner) :
    scanner.react .finish = (.start, scanner.finish) := by
  change ((Use.readEnd scanner).run.run start).swap = _
  rw [Use.run_readEnd]
  rfl

/-- What a sequence of uses gives, one answer each. -/
def reactAll (scanner : Scanner) : List Input → List (Except Fault (Option Token))
  | [] => []
  | input :: rest =>
      let (next, answer) := scanner.react input
      answer :: next.reactAll rest

/-- A scanner gives one answer to each use. -/
@[simp] theorem length_reactAll (scanner : Scanner) (inputs : List Input) :
    (scanner.reactAll inputs).length = inputs.length := by
  induction inputs generalizing scanner with
  | nil => rfl
  | cons input rest inductionHypothesis => simp [reactAll, inductionHypothesis]

end Scanner

/-- The tokens of an expression. -/
def Token.ofText (expression : Text) : Except Scanner.Fault (List Token) :=
  Scanner.start.tokensFrom expression

end Keypad
