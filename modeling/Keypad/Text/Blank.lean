import Keypad.Text

/-!
# Blank characters

The characters with the Unicode property `White_Space`, and the operations that
look for them: trimming, and the first word of a text.
-/

namespace Keypad.Text

/-- The characters with the Unicode property `White_Space`. The zero width space
U+200B and the byte order mark U+FEFF are not among them. -/
def isBlank (c : Char) : Bool :=
  let code := c.toNat
  (0x09 ≤ code && code ≤ 0x0D) || code == 0x20 || code == 0x85 || code == 0xA0
    || code == 0x1680 || (0x2000 ≤ code && code ≤ 0x200A) || code == 0x2028
    || code == 0x2029 || code == 0x202F || code == 0x205F || code == 0x3000

/-- A text without blanks at either end. -/
def trim (text : Text) : Text :=
  dropEndWhile isBlank (text.dropWhile isBlank)

/-- The first run of characters that are not blank; empty if all are blank. -/
def firstWord (text : Text) : Text :=
  (text.dropWhile isBlank).takeWhile (!isBlank ·)

/-- A text that starts with a character that is not blank and has no blanks at
all is its own first word. -/
theorem firstWord_of_forall {text : Text} (solid : ∀ c ∈ text, isBlank c = false) :
    firstWord text = text := by
  have unchanged : text.dropWhile isBlank = text := by
    cases text with
    | nil => rfl
    | cons c rest => simp [solid c (by simp)]
  rw [firstWord, unchanged]
  simpa using @List.takeWhile_append_of_pos _ (!isBlank ·) text [] (by simpa using solid)

end Keypad.Text
