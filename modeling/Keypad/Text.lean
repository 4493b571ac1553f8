/-!
# Texts

A text is the list of its characters. Entry lines, numerals and currency codes
are read and edited one character at a time, so they are all texts; strings
appear only where a program reads its input or writes its output.
-/

namespace Keypad

/-- A text is the list of its characters, first character first. -/
abbrev Text := List Char

namespace Text

/-- A text without the longest run of characters satisfying `drop` at its end. -/
def dropEndWhile (drop : Char → Bool) (text : Text) : Text :=
  (text.reverse.dropWhile drop).reverse

/-- What stands before and after the first `separator`. A text without one is
all before, with nothing after. -/
def cut (separator : Char) (text : Text) : Text × Text :=
  (text.takeWhile (· != separator), (text.dropWhile (· != separator)).drop 1)

/-- Texts written one after another with `separator` between neighbours. -/
def join (separator : Text) : List Text → Text
  | [] => []
  | [text] => text
  | text :: next :: rest => text ++ separator ++ join separator (next :: rest)

/-- The lines of a text. A line ends at a line feed, which is dropped together
with a carriage return right before it; text after the last line feed is a line
of its own unless it is empty. -/
def lines (text : Text) : List Text :=
  go [] text
where
  /-- Reads on with the current line held in reverse. -/
  go (reversed : Text) : Text → List Text
    | [] => if reversed.isEmpty then [] else [reversed.reverse]
    | '\n' :: rest =>
        (match reversed with
          | '\r' :: line => line.reverse
          | line => line.reverse) :: go [] rest
    | c :: rest => go (c :: reversed) rest

/-- Cutting at a separator takes apart what the separator joins, if it does not
occur in the first part. -/
theorem cut_append_cons {separator : Char} {before : Text} (absent : separator ∉ before)
    (after : Text) : cut separator (before ++ separator :: after) = (before, after) := by
  have differs : ∀ c ∈ before, (c != separator) = true := by
    intro c member
    simpa using fun (equal : c = separator) => absent (equal ▸ member)
  simp [cut, List.takeWhile_append_of_pos differs, List.dropWhile_append_of_pos differs]

/-- A text without the separator is all before it. -/
theorem cut_of_notMem {separator : Char} {text : Text} (absent : separator ∉ text) :
    cut separator text = (text, []) := by
  have differs : ∀ c ∈ text, (c != separator) = true := by
    intro c member
    simpa using fun (equal : c = separator) => absent (equal ▸ member)
  have kept := @List.takeWhile_append_of_pos _ (· != separator) text [] differs
  have dropped := @List.dropWhile_append_of_pos _ (· != separator) text [] differs
  simp only [List.append_nil, List.takeWhile_nil, List.dropWhile_nil] at kept dropped
  simp only [cut, kept, dropped, List.drop_nil]

@[simp] theorem dropEndWhile_nil (drop : Char → Bool) : dropEndWhile drop [] = [] := rfl

/-- A last character that is kept protects everything before it. -/
theorem dropEndWhile_concat_of_not {drop : Char → Bool} {c : Char} (text : Text)
    (kept : drop c = false) : dropEndWhile drop (text ++ [c]) = text ++ [c] := by
  simp [dropEndWhile, kept]

/-- A last character that is dropped does not count. -/
theorem dropEndWhile_concat_of {drop : Char → Bool} {c : Char} (text : Text)
    (dropped : drop c = true) :
    dropEndWhile drop (text ++ [c]) = dropEndWhile drop text := by
  simp [dropEndWhile, dropped]

/-- Looking up a text in a list tries its first entry first. -/
theorem lookup_cons_eq_ite {α : Type} (text : Text) (head : Text × α)
    (rest : List (Text × α)) :
    (head :: rest).lookup text = if text = head.1 then some head.2 else rest.lookup text := by
  obtain ⟨key, value⟩ := head
  by_cases same : text = key
  · rw [same, List.lookup_cons_self, if_pos rfl]
  · have different : (text == key) = false := by simpa using same
    simp only [List.lookup_cons, different, same, if_false]

end Text

end Keypad
