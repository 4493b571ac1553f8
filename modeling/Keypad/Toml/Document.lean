import Keypad.Toml.QuotedText

/-!
# Reading documents

A document is a list of lines: definitions, which give a value to a key, and
headers, which name the table that the definitions below them fill. Lists and
tables between braces may run over several lines and may end in a comma; they
nest at most eighty deep. A dotted key stays on one line and joins at most eighty
keys. A text is read as a whole or not at all.
-/

namespace Keypad.Toml

namespace Document

open QuotedText (isPlain isSpace)

/-- How deep lists and tables between braces may nest. -/
def nestingLimit : Nat := 80

/-- How many keys a dotted key may join. -/
def dottedKeyLimit : Nat := 80

/-- What follows blanks within a line. -/
def skipSpaces (text : Text) : Text :=
  text.dropWhile isSpace

/-- What follows blanks, line ends and comments. A comment holds no control
characters. -/
def skipFiller (inComment : Bool) : Text → Option Text
  | [] => some []
  | '\n' :: rest => skipFiller false rest
  | '\r' :: '\n' :: rest => skipFiller false rest
  | c :: rest =>
      if inComment then (if isPlain c then skipFiller true rest else none)
      else if isSpace c then skipFiller false rest
      else if c = '#' then skipFiller true rest
      else some (c :: rest)

/-- What follows the end of a line on which nothing but blanks and a comment is
left. -/
def finishLine (inComment : Bool) : Text → Option Text
  | [] => some []
  | '\n' :: rest => some rest
  | '\r' :: '\n' :: rest => some rest
  | c :: rest =>
      if inComment then (if isPlain c then finishLine true rest else none)
      else if isSpace c then finishLine false rest
      else if c = '#' then finishLine true rest
      else none

/-- The characters of a key without quotes. -/
def isBareKeyChar (c : Char) : Bool :=
  c.isAlphanum || c == '_' || c == '-'

/-- Reads one key. Quoted keys stay on one line. -/
def simpleKey? (input : Text) : Option (Text × Text) :=
  match input with
  | '"' :: rest => QuotedText.line? '"' true (rest.length + 1) rest
  | '\'' :: rest => QuotedText.line? '\'' false (rest.length + 1) rest
  | _ =>
      let key := input.takeWhile isBareKeyChar
      if key = [] then none else some (key, input.dropWhile isBareKeyChar)

/-- Reads at most `limit` keys joined by points, as a path and a last key, with the
blanks after them. -/
def keys? : (limit : Nat) → Text → Option (List Text × Text × Text)
  | 0, _ => none
  | limit + 1, input => do
      let (key, rest) ← simpleKey? (skipSpaces input)
      match skipSpaces rest with
      | '.' :: rest => do
          let (path, last, rest) ← keys? limit rest
          return (key :: path, last, rest)
      | rest => return ([], key, rest)

/-- Reads a dotted key. -/
def dottedKey? (input : Text) : Option (List Text × Text × Text) :=
  keys? dottedKeyLimit input

/-- The characters that end a value without quotes. -/
def endsUnquoted (c : Char) : Bool :=
  [' ', '\t', '\n', '\r', '#', ',', '=', '[', ']', '\x7b', '\x7d', '"', '\''].contains c

/-- Splits off a value without quotes. A date and a time may have one space
between them. -/
def splitUnquoted (input : Text) : Text × Text :=
  let value := input.takeWhile (!endsUnquoted ·)
  match DateTime.date? value, input.dropWhile (!endsUnquoted ·) with
  | some [], ' ' :: c :: rest =>
      if Numeral.isDigit c then
        (value ++ ' ' :: (c :: rest).takeWhile (!endsUnquoted ·),
          (c :: rest).dropWhile (!endsUnquoted ·))
      else (value, ' ' :: c :: rest)
  | _, rest => (value, rest)

mutual

/-- Reads a value. At most `depth` lists and tables may open inside one another. -/
def value? : (fuel : Nat) → (depth : Nat) → Text → Option (Node × Text)
  | 0, _, _ => none
  | fuel + 1, depth, input =>
      match input, depth with
      | '[' :: _, 0 => none
      | '\x7b' :: _, 0 => none
      | '[' :: rest, depth + 1 => do
          let (items, rest) ← items? fuel depth rest
          return (.array items, rest)
      | '\x7b' :: rest, depth + 1 => do
          let (definitions, rest) ← fields? fuel depth rest
          return (.table .inline (← Entries.defineAll [] definitions), rest)
      | '"' :: _, _ | '\'' :: _, _ => do
          let (text, rest) ← QuotedText.read? input
          return (.scalar (.text text), rest)
      | _, _ =>
          let (value, rest) := splitUnquoted input
          (Unquoted.read? value).map fun scalar => (.scalar scalar, rest)

/-- Reads the items of a list up to its closing bracket. -/
def items? : (fuel : Nat) → (depth : Nat) → Text → Option (List Node × Text)
  | 0, _, _ => none
  | fuel + 1, depth, input => do
      match ← skipFiller false input with
      | ']' :: rest => return ([], rest)
      | input =>
          let (item, rest) ← value? fuel depth input
          match ← skipFiller false rest with
          | ']' :: rest => return ([item], rest)
          | ',' :: rest => do
              let (items, rest) ← items? fuel depth rest
              return (item :: items, rest)
          | _ => none

/-- Reads the definitions of a table up to its closing brace. -/
def fields? : (fuel : Nat) → (depth : Nat) → Text → Option (List Definition × Text)
  | 0, _, _ => none
  | fuel + 1, depth, input => do
      match ← skipFiller false input with
      | '\x7d' :: rest => return ([], rest)
      | input =>
          let (definition, rest) ← definition? fuel depth (skipFiller false) input
          match ← skipFiller false rest with
          | '\x7d' :: rest => return ([definition], rest)
          | ',' :: rest => do
              let (definitions, rest) ← fields? fuel depth rest
              return (definition :: definitions, rest)
          | _ => none

/-- Reads a key, an equals sign and a value. What may stand on either side of the
equals sign is left to `skip`: blanks on a line of the document, and also line
ends and comments between braces. -/
def definition? : (fuel : Nat) → (depth : Nat) → (skip : Text → Option Text) → Text →
    Option (Definition × Text)
  | 0, _, _, _ => none
  | fuel + 1, depth, skip, input => do
      let (path, key, rest) ← dottedKey? input
      match ← skip rest with
      | '=' :: rest =>
          let (node, rest) ← value? fuel depth (← skip rest)
          return (⟨path, key, node⟩, rest)
      | _ => none

end

/-- Reads a header up to its closing brackets: whether it is doubled, its path and
its key. -/
def header? (input : Text) : Option (Section × Text) :=
  match input with
  | '[' :: '[' :: rest =>
      match dottedKey? rest with
      | some (path, key, ']' :: ']' :: rest) => some (⟨true, path, key, []⟩, rest)
      | _ => none
  | '[' :: rest =>
      match dottedKey? rest with
      | some (path, key, ']' :: rest) => some (⟨false, path, key, []⟩, rest)
      | _ => none
  | _ => none

/-- Reads the lines to come: the definitions before the first header, and the
sections. -/
def lines? : (fuel : Nat) → Text → Option (List Definition × List Section)
  | 0, _ => none
  | fuel + 1, input => do
      match ← skipFiller false input with
      | [] => return ([], [])
      | '[' :: rest =>
          let (part, rest) ← header? ('[' :: rest)
          let (definitions, sections) ← lines? fuel (← finishLine false rest)
          return ([], { part with definitions := definitions } :: sections)
      | input =>
          let (definition, rest) ←
            definition? (2 * input.length + 2) nestingLimit (some ∘ skipSpaces) input
          let (definitions, sections) ← lines? fuel (← finishLine false rest)
          return (definition :: definitions, sections)

end Document

/-- Reads a document. A byte order mark in front of it does not count. -/
def read? (text : Text) : Option Entries := do
  let input := match text with
    | '\ufeff' :: rest => rest
    | _ => text
  let (definitions, sections) ← Document.lines? (input.length + 1) input
  sections.foldlM Entries.add (← Entries.defineAll [] definitions)

end Keypad.Toml
