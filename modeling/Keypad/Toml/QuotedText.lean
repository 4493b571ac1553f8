import Keypad.Toml.Unquoted

/-!
# Quoted texts

Texts in double quotes, where a backslash starts an escape, and texts in single
quotes, where it does not. Three quotes open a text that may run over several
lines; one line end right after them does not count. The functions start after
the opening quotes and give the text with what follows the closing quotes.
-/

namespace Keypad.Toml.QuotedText

/-- The characters that stand for themselves in quoted texts and in comments: all
but the controls, of which only the tab is allowed. -/
def isPlain (c : Char) : Bool :=
  c == '\t' || (0x20 ≤ c.toNat && c.toNat != 0x7F)

/-- Reads `count` hexadecimal digits on top of a value. -/
def hexDigits? (count value : Nat) (text : Text) : Option (Nat × Text) :=
  match count, text with
  | 0, rest => some (value, rest)
  | count + 1, c :: rest =>
      if Unquoted.isDigitOf 16 c then
        hexDigits? count (16 * value + Unquoted.digitValue c) rest
      else none
  | _ + 1, [] => none

/-- Reads a code point of `count` hexadecimal digits. -/
def codePoint? (count : Nat) (text : Text) : Option (Char × Text) := do
  let (code, rest) ← hexDigits? count 0 text
  if code.isValidChar then some (Char.ofNat code, rest) else none

/-- Reads an escape after its backslash. -/
def escape? : Text → Option (Char × Text)
  | 'b' :: rest => some ('\x08', rest)
  | 't' :: rest => some ('\t', rest)
  | 'n' :: rest => some ('\n', rest)
  | 'f' :: rest => some ('\x0c', rest)
  | 'r' :: rest => some ('\r', rest)
  | 'e' :: rest => some ('\x1b', rest)
  | '"' :: rest => some ('"', rest)
  | '\\' :: rest => some ('\\', rest)
  | 'x' :: rest => codePoint? 2 rest
  | 'u' :: rest => codePoint? 4 rest
  | 'U' :: rest => codePoint? 8 rest
  | _ => none

/-- Whether a character is a blank inside a line. -/
def isSpace (c : Char) : Bool :=
  c == ' ' || c == '\t'

/-- Reads a line end. -/
def lineEnd? : Text → Option Text
  | '\n' :: rest => some rest
  | '\r' :: '\n' :: rest => some rest
  | _ => none

/-- What follows blanks and line ends; a carriage return belongs to a line feed. -/
def skipLines : Text → Text
  | '\r' :: '\n' :: rest => skipLines rest
  | c :: rest => if isSpace c || c == '\n' then skipLines rest else c :: rest
  | [] => []

/-- The rest after a backslash that joins lines: blanks to the end of the line,
the line end, and all blanks and line ends after it. -/
def joinLines? (text : Text) : Option Text :=
  (lineEnd? (text.dropWhile isSpace)).map skipLines

/-- Reads a text on one line up to its closing quote. With `escapes`, a backslash
starts an escape. -/
def line? (quote : Char) (escapes : Bool) : (fuel : Nat) → Text → Option (Text × Text)
  | 0, _ => none
  | _ + 1, [] => none
  | fuel + 1, c :: rest =>
      if c = quote then some ([], rest)
      else if escapes && c == '\\' then do
        let (escaped, rest) ← escape? rest
        let (text, rest) ← line? quote escapes fuel rest
        return (escaped :: text, rest)
      else if isPlain c then do
        let (text, rest) ← line? quote escapes fuel rest
        return (c :: text, rest)
      else none

/-- Reads a text that may run over lines up to its three closing quotes. Up to two
quotes right before them belong to the text. -/
def lines? (quote : Char) (escapes : Bool) : (fuel : Nat) → Text → Option (Text × Text)
  | 0, _ => none
  | _ + 1, [] => none
  | fuel + 1, c :: rest =>
      if c = quote then
        let run := (c :: rest).takeWhile (· == quote)
        let after := (c :: rest).dropWhile (· == quote)
        if 6 ≤ run.length then none
        else if 3 ≤ run.length then some (run.drop 3, after)
        else do
          let (text, rest) ← lines? quote escapes fuel after
          return (run ++ text, rest)
      else if escapes && c == '\\' then
        match joinLines? rest with
        | some rest => lines? quote escapes fuel rest
        | none => do
            let (escaped, rest) ← escape? rest
            let (text, rest) ← lines? quote escapes fuel rest
            return (escaped :: text, rest)
      else match lineEnd? (c :: rest) with
        | some after => do
            let (text, rest) ← lines? quote escapes fuel after
            return (if c = '\r' then '\r' :: '\n' :: text else '\n' :: text, rest)
        | none =>
            if isPlain c then do
              let (text, rest) ← lines? quote escapes fuel rest
              return (c :: text, rest)
            else none

/-- Reads a quoted text of either kind. -/
def read? (input : Text) : Option (Text × Text) :=
  let body (quote : Char) (rest : Text) :=
    lines? quote (quote == '"') (rest.length + 1) ((lineEnd? rest).getD rest)
  match input with
  | '"' :: '"' :: '"' :: rest => body '"' rest
  | '\'' :: '\'' :: '\'' :: rest => body '\'' rest
  | '"' :: rest => line? '"' true (rest.length + 1) rest
  | '\'' :: rest => line? '\'' false (rest.length + 1) rest
  | _ => none

end Keypad.Toml.QuotedText
