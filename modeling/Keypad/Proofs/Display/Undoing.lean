import Keypad.Proofs.Display.Soundness
import Keypad.Proofs.Entry.Typing

/-!
# Backspace undoes a key

A key that changed the line is undone by the backspace key. The two do not look like inverses:
a key may take the place of the zero of an empty line, and erasing may take more than the last
character. They fit because a key is only accepted behind a line in the grammar, and what is
left of such a line when its last character goes needs no repair (`erase_concat`).

A point that opens a numeral writes two characters, of which the backspace key takes one.
-/

namespace Keypad

open Numeral (Operand Spelling isDigit)

namespace Entry

/-- Whether a line ends in an operator or is a minus, so that an operand may start behind it. -/
def AwaitsOperand (line : Text) : Prop :=
  ∃ c ∈ line.getLast?, Operator.isSymbol c

/-- No numeral is open where an operand may start, and only there. -/
theorem openNumeral_eq_nil_iff {line : Text} (isLine : IsLine line) :
    openNumeral line = [] ↔ AwaitsOperand line := by
  cases isLine with
  | sign => exact iff_of_true rfl ⟨'-', rfl, rfl⟩
  | operator regular op =>
      refine iff_of_true (openNumeral_of_opens (.operator regular op)) ⟨op.symbol, ?_, by simp⟩
      exact List.getLast?_concat
  | @operatorSign chain regular op other =>
      refine iff_of_true (openNumeral_of_opens (.operatorSign regular other)) ⟨'-', ?_, rfl⟩
      rw [List.append_cons]
      exact List.getLast?_concat
  | complete regular =>
      obtain ⟨before, spelling, opens, spelled, equal⟩ := exists_opens_of_regular regular
      obtain ⟨shorter, last, ending, ends⟩ := exists_line_eq_concat regular
      refine iff_of_false ?_ ?_
      · rw [equal, openNumeral_append_text opens spelled]
        exact spelling.text_ne_nil
      · rintro ⟨c, isLast, symbol⟩
        rw [ending, List.getLast?_concat] at isLast
        cases isLast
        rw [ends.isSymbol] at symbol
        cases symbol

section Erasing

variable {line : Text} (isLine : IsLine line)

include isLine

theorem erase_pushDigit (c : Char) : erase (pushDigit line c) = line := by
  unfold pushDigit
  split
  · rename_i equal
    rw [equal]
    rfl
  · exact erase_concat isLine c

theorem erase_pushMinus (changes : pushMinus line ≠ line) : erase (pushMinus line) = line := by
  unfold pushMinus at changes ⊢
  split
  · rename_i bare
    rw [bare.resolve_left isLine.ne_nil]
    rfl
  · rename_i typed
    rw [if_neg typed] at changes
    split
    · rename_i last
      exact absurd (if_pos last) changes
    · exact erase_concat isLine '-'

theorem erase_pushOperator? {next : Text} {op : Operator}
    (accepted : pushOperator? line op = some next) : erase next = line := by
  unfold pushOperator? at accepted
  split at accepted
  · cases accepted
  · split at accepted
    · cases accepted
    · cases accepted
      exact erase_concat isLine op.symbol

/-- The zero in front of a point that opens a numeral stays. -/
theorem erase_pushPoint? {next : Text} (accepted : pushPoint? line = some next) :
    (AwaitsOperand line → erase next = line ++ ['0']) ∧
      (¬AwaitsOperand line → erase next = line) := by
  rw [← openNumeral_eq_nil_iff isLine]
  simp only [pushPoint?] at accepted
  split at accepted
  · cases accepted
  · split at accepted
    · rename_i closed
      cases accepted
      have typed : line ≠ empty := by
        rintro rfl
        exact absurd closed (by decide)
      have zero : IsLine (line ++ ['0']) := by
        simpa [pushDigit, typed] using isLine_pushDigit isLine (show isDigit '0' from rfl)
      refine ⟨fun _ => ?_, fun opened => absurd closed opened⟩
      rw [List.append_cons]
      exact erase_concat zero '.'
    · rename_i opened
      cases accepted
      exact ⟨fun closed => absurd closed opened, fun _ => erase_concat isLine '.'⟩

/-- What is erased after a key that changed the line. -/
theorem erase_type {key : Key} (writes : key.isLiteral ∨ key.isOperator)
    (changes : type line key ≠ line) :
    (key = .point ∧ AwaitsOperand line → erase (type line key) = line ++ ['0']) ∧
      (¬(key = .point ∧ AwaitsOperand line) → erase (type line key) = line) := by
  cases key with
  | point =>
      cases accepted : pushPoint? line with
      | none => exact absurd (congrArg (Option.getD · line) accepted) changes
      | some next =>
          have typed : type line .point = next := congrArg (Option.getD · line) accepted
          obtain ⟨opens, goesOn⟩ := erase_pushPoint? isLine accepted
          rw [typed]
          refine ⟨fun both => opens both.2, fun neither => goesOn fun awaits => ?_⟩
          exact neither ⟨rfl, awaits⟩
  | digit value =>
      refine ⟨by rintro ⟨⟨⟩, -⟩, fun _ => ?_⟩
      cases symbol : (Key.digit value).symbol? with
      | none => simp [type, pushLiteral?, symbol] at changes
      | some c =>
          have typed : type line (.digit value) = pushDigit line c := by
            simp [type, pushLiteral?, symbol]
          rw [typed]
          exact erase_pushDigit isLine c
  | operator op =>
      refine ⟨by rintro ⟨⟨⟩, -⟩, fun _ => ?_⟩
      have onOther (other : type line (.operator op) = (pushOperator? line op).getD line) :
          erase (type line (.operator op)) = line := by
        rw [other] at changes ⊢
        cases accepted : pushOperator? line op with
        | none => simp [accepted] at changes
        | some next => exact erase_pushOperator? isLine accepted
      cases op with
      | sub => exact erase_pushMinus isLine changes
      | add | mul | div => exact onOther rfl
  | _ => rcases writes with literal | operator <;> contradiction

end Erasing

end Entry

namespace Display

/-- The keys that go on with the line: operators, and the keys of a numeral where no result is
shown that they would take the place of. -/
def GoesOn (display : Display) (key : Key) : Prop :=
  key.isOperator ∨ key.isLiteral ∧ display.flags.result = false

variable {display : Display} {key : Key}

/-- Such a key works on the line alone, if the line accepts it. -/
theorem type_eq_or (goesOn : display.GoesOn key) :
    display.type key = display ∨
      display.type key = display.withLine (Entry.type display.buffer key) := by
  have onLine (line? : Option Text) (typed : display.type key = display.withLine? line?)
      (entered : Entry.type display.buffer key = line?.getD display.buffer) :
      display.type key = display ∨
        display.type key = display.withLine (Entry.type display.buffer key) := by
    rw [typed, entered]
    cases line? with
    | none => exact .inl rfl
    | some line => exact .inr rfl
  cases key with
  | operator op =>
      cases op with
      | sub => exact .inr rfl
      | add => exact onLine (Entry.pushOperator? display.buffer .add) rfl rfl
      | mul => exact onLine (Entry.pushOperator? display.buffer .mul) rfl rfl
      | div => exact onLine (Entry.pushOperator? display.buffer .div) rfl rfl
  | digit value =>
      have noResult : display.flags.result = false := (goesOn.resolve_left nofun).2
      exact onLine (Entry.pushLiteral? display.buffer (.digit value)) (by simp [type, noResult]) rfl
  | point =>
      have noResult : display.flags.result = false := (goesOn.resolve_left nofun).2
      exact onLine (Entry.pushLiteral? display.buffer .point) (by simp [type, noResult]) rfl
  | _ => rcases goesOn with operator | ⟨literal, -⟩ <;> contradiction

/-- A typed line loses what erasing takes, also if that is the zero of an empty line. -/
theorem buffer_backspace (typed : display.flags.result = false) :
    display.backspace.buffer = Entry.erase display.buffer := by
  unfold backspace
  split
  · rename_i stays
    have isEmpty : display.buffer = Entry.empty := by simpa [typed] using stays
    rw [isEmpty]
    rfl
  · rfl

theorem press_of_goesOn (noReset : display.flags.needsReset = false)
    (goesOn : display.GoesOn key) : display.press key = .ok (display.type key, none) := by
  have unreset : ¬(display.flags.needsReset ∧ key ≠ .clear) := by simp [noReset]
  rw [press, if_neg unreset]
  cases key with
  | operator op | digit value | point => rfl
  | _ => rcases goesOn with operator | ⟨literal, -⟩ <;> contradiction

theorem press_backspace (noReset : display.flags.needsReset = false) :
    display.press .backspace = .ok (display.backspace, none) := by
  have unreset : ¬(display.flags.needsReset ∧ Key.backspace ≠ .clear) := by simp [noReset]
  rw [press, if_neg unreset]
  rfl

/-- A key that goes on with the line is undone by the backspace key, if it changed anything.
Only of a point that opened a numeral the zero in front of it stays. -/
theorem Reachable.press_backspace_press (reachable : Reachable display)
    (noReset : display.flags.needsReset = false) (goesOn : display.GoesOn key) :
    ∃ next, display.press key = .ok (next, none) ∧
      (next.buffer ≠ display.buffer → ∃ last, next.press .backspace = .ok (last, none) ∧
        (key = .point ∧ Entry.AwaitsOperand display.buffer →
          last.buffer = display.buffer ++ ['0']) ∧
        (¬(key = .point ∧ Entry.AwaitsOperand display.buffer) → last.buffer = display.buffer)) := by
  refine ⟨display.type key, press_of_goesOn noReset goesOn, fun changes => ?_⟩
  have writes : key.isLiteral ∨ key.isOperator := goesOn.symm.imp_left And.left
  obtain same | typed := type_eq_or goesOn
  · exact absurd (congrArg Display.buffer same) changes
  · rw [typed] at changes ⊢
    have erased : (display.withLine (Entry.type display.buffer key)).backspace.buffer =
        Entry.erase (Entry.type display.buffer key) := buffer_backspace rfl
    refine ⟨_, press_backspace noReset, ?_⟩
    rw [erased]
    exact Entry.erase_type (reachable.sound.isLine noReset) writes changes

/-- The line `1e9+` comes from `10000×100000`. A point behind it opens a numeral, and its zero
stays; behind `1e9` a digit goes on with the exponent, and nothing of it stays. -/
theorem press_backspace_press_exponent :
    ∃ sum exponent : Display, sum.buffer = "1e9+".toList ∧ exponent.buffer = "1e9".toList ∧
      (∃ next last, sum.press .point = .ok (next, none) ∧ next.buffer = "1e9+0.".toList ∧
        next.press .backspace = .ok (last, none) ∧ last.buffer = "1e9+0".toList) ∧
      ∃ next last, exponent.press (.digit 3) = .ok (next, none) ∧ next.buffer = "1e93".toList ∧
        next.press .backspace = .ok (last, none) ∧ last.buffer = "1e9".toList := by
  let result : List Key := [.digit 1, .digit 0, .digit 0, .digit 0, .digit 0, .operator .mul,
    .digit 1, .digit 0, .digit 0, .digit 0, .digit 0, .digit 0, .evaluate, .operator .add]
  let sum : Display := ⟨"1e9+".toList, "10000×100000".toList, .none, false⟩
  let exponent : Display := { sum with buffer := "1e9".toList }
  have sumReachable : Reachable sum :=
    Reachable.initial.pressAll (show initial.pressAll result = .ok sum by decide +kernel)
  have exponentReachable : Reachable exponent := sumReachable.press (press_backspace rfl)
  obtain ⟨opened, point, undone⟩ :=
    sumReachable.press_backspace_press rfl (.inr ⟨rfl, rfl⟩ : sum.GoesOn .point)
  cases point
  obtain ⟨last, backspace, zero, -⟩ := undone (by decide)
  obtain ⟨longer, digit, undone⟩ :=
    exponentReachable.press_backspace_press rfl (.inr ⟨rfl, rfl⟩ : exponent.GoesOn (.digit 3))
  cases digit
  obtain ⟨last', backspace', -, kept⟩ := undone (by decide)
  exact ⟨sum, exponent, rfl, rfl,
    ⟨_, last, rfl, by decide, backspace, zero ⟨rfl, '+', rfl, rfl⟩⟩,
    ⟨_, last', rfl, by decide, backspace', kept (nomatch ·.1)⟩⟩

end Display

end Keypad
