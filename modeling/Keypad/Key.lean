import Keypad.Expression.Operator
import Keypad.Text.Blank
import Keypad.Text.Quoted

/-!
# Keys

The keys of the keypad and the characters that stand for them, in what is typed
and on the entry line.
-/

namespace Keypad

/-- A key of the keypad. -/
inductive Key where
  /-- A digit key. A value above nine has no symbol and writes nothing. -/
  | digit (value : Nat)
  | point
  | operator (op : Operator)
  | clear
  | backspace
  | evaluate
  | convert
  /-- A key without an action. -/
  | decoration
deriving DecidableEq, Repr

namespace Key

/-- A text that stands for no key. -/
structure Unknown where
  text : Text
deriving DecidableEq, Repr

/-- The wording of the fault. -/
def Unknown.message (unknown : Unknown) : Text :=
  "Unknown key: ".toList ++ Text.quoted unknown.text

/-- The key a character stands for. Several keys have a plain and a displayed
form. -/
def ofChar? (c : Char) : Option Key :=
  if '0' ≤ c ∧ c ≤ '9' then some (.digit (c.toNat - '0'.toNat))
  else match c with
    | '.' => some .point
    | '+' => some (.operator .add)
    | '-' => some (.operator .sub)
    | '*' | 'x' | '×' => some (.operator .mul)
    | '/' | '÷' => some (.operator .div)
    | 'C' | 'c' => some .clear
    | '<' | '⌫' => some .backspace
    | '=' => some .evaluate
    | '$' => some .convert
    | '☺' => some .decoration
    | _ => none

/-- The key a character stands for, or the fault of standing for none. -/
def ofChar (c : Char) : Except Unknown Key :=
  match ofChar? c with
  | some key => .ok key
  | none => .error ⟨[c]⟩

/-- The key a whole text names: `AC` or `ac`, or a single character. -/
def ofText (text : Text) : Except Unknown Key :=
  if text = ['A', 'C'] ∨ text = ['a', 'c'] then .ok .clear
  else match text with
    | [c] => ofChar c
    | _ => .error ⟨text⟩

/-- The keys of a run of characters, one key each. Blanks between them do not
count. The first character that is no key is the fault. -/
def sequence (text : Text) : Except Unknown (List Key) :=
  (text.filter (!Text.isBlank ·)).mapM ofChar

/-- The keys of a typed text: one key if it names one as a whole, and otherwise
one for each character. -/
def typed (text : Text) : Except Unknown (List Key) :=
  match ofText text with
  | .ok key => .ok [key]
  | .error _ => sequence text

/-- The character a key writes on the entry line, if any. -/
def symbol? : Key → Option Char
  | .digit value => if value < 10 then some (Nat.digitChar value) else none
  | .point => some '.'
  | .operator op => some op.symbol
  | _ => none

/-- Whether a key is one of the four operators. -/
def isOperator : Key → Bool
  | .operator _ => true
  | _ => false

/-- Whether a key is part of a numeral. -/
def isLiteral : Key → Bool
  | .digit _ | .point => true
  | _ => false

/-- Keys are read back from what they write. -/
theorem ofChar?_symbol? {key : Key} {c : Char} (writes : key.symbol? = some c) :
    ofChar? c = some key := by
  cases key with
  | digit value =>
      have small : value < 10 := by
        apply Decidable.byContradiction
        intro large
        simp [symbol?, large] at writes
      simp only [symbol?, small, if_true, Option.some.injEq] at writes
      subst writes
      have enumerated : value = 0 ∨ value = 1 ∨ value = 2 ∨ value = 3 ∨ value = 4 ∨ value = 5 ∨
          value = 6 ∨ value = 7 ∨ value = 8 ∨ value = 9 := by omega
      rcases enumerated with rfl | rfl | rfl | rfl | rfl | rfl | rfl | rfl | rfl | rfl <;> rfl
  | point => cases writes; rfl
  | operator op => cases writes; cases op <;> rfl
  | clear => cases writes
  | backspace => cases writes
  | evaluate => cases writes
  | convert => cases writes
  | decoration => cases writes

end Key

end Keypad
