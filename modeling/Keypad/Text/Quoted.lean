import Keypad.Text.Extending
import Keypad.Text.Unprintable

/-!
# Quoted texts

A character or a text between quotation marks, with everything escaped that
would not show as itself. Characters stand between single quotes and texts
between double quotes; each form escapes its own mark only.
-/

namespace Keypad.Text

/-- The escape of a code point by number, in lower case hexadecimal digits. -/
def escapeCode (c : Char) : Text :=
  '\\' :: 'u' :: '\x7b' :: Nat.toDigits 16 c.toNat ++ ['\x7d']

/-- A character as it stands between two marks. -/
def escapeIn (mark : Char) (c : Char) : Text :=
  if c = '\x00' then ['\\', '0']
  else if c = '\t' then ['\\', 't']
  else if c = '\r' then ['\\', 'r']
  else if c = '\n' then ['\\', 'n']
  else if c = '\\' then ['\\', '\\']
  else if c = mark then ['\\', mark]
  else if isExtending c || isUnprintable c then escapeCode c
  else [c]

/-- A text between two marks. -/
def quotedBy (mark : Char) (text : Text) : Text :=
  mark :: text.flatMap (escapeIn mark) ++ [mark]

/-- A character between single quotes. -/
def quotedChar (c : Char) : Text :=
  quotedBy '\'' [c]

/-- A text between double quotes. -/
def quoted (text : Text) : Text :=
  quotedBy '"' text

end Keypad.Text
