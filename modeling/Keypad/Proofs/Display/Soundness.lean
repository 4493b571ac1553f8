import Keypad.Display
import Keypad.Proofs.Entry.Exclusions
import Keypad.Proofs.Number.Double
import Keypad.Proofs.Readout.Shape

/-!
# The display never gets stuck

`Sound` is the invariant of the display: unless the next key starts it over, its line is
in the grammar, and a shown result is a single operand. Every key leads from a sound
display to a sound display without a fault, so it holds on every reachable display.

Conversions and errors come from outside and may put any text on the line. They leave
the display waiting for a reset, which is why the invariant asks nothing of them.
-/

namespace Keypad.Display

open Numeral (Operand)

/-- The displays that keys, shown conversions and shown errors lead to. -/
inductive Reachable : Display → Prop where
  | initial : Reachable initial
  | press {display next : Display} {key : Key} {signal : Option Signal}
      (reachable : Reachable display) (pressed : display.press key = .ok (next, signal)) :
      Reachable next
  | showConversion {display : Display} (reachable : Reachable display) (text : Text) :
      Reachable (display.showConversion text)
  | showError {display : Display} (reachable : Reachable display) (message : Text)
      (clearPrevious : Bool) : Reachable (display.showError message clearPrevious)

/-- The display after several keys. -/
def pressAll (display : Display) (keys : List Key) : Except Expression.Fault Display :=
  keys.foldlM (fun display key => Prod.fst <$> display.press key) display

theorem pressAll_cons {display next : Display} {key : Key} {signal : Option Signal}
    (pressed : display.press key = .ok (next, signal)) (keys : List Key) :
    display.pressAll (key :: keys) = next.pressAll keys := by
  simp [pressAll, List.foldlM_cons, pressed, bind, Except.bind]

/-- Keys lead from reachable displays to reachable displays. -/
theorem Reachable.pressAll {display last : Display} {keys : List Key}
    (reachable : Reachable display) (pressed : display.pressAll keys = .ok last) :
    Reachable last := by
  induction keys generalizing display with
  | nil =>
      cases pressed
      exact reachable
  | cons key keys inductionHypothesis =>
      cases step : display.press key with
      | error fault => simp [Display.pressAll, List.foldlM_cons, step, bind, Except.bind] at pressed
      | ok result =>
          rw [pressAll_cons step] at pressed
          exact inductionHypothesis (reachable.press step) pressed

/-- The line shows a single operand. -/
def ShowsOperand (display : Display) : Prop :=
  ∃ operand : Operand, operand.spelling.Regular ∧ display.buffer = operand.text

/-- What holds of a display unless the next key starts it over. -/
structure Sound (display : Display) : Prop where
  isLine : display.flags.needsReset = false → Entry.IsLine display.buffer
  result : display.flags.needsReset = false → display.flags.result → display.ShowsOperand

theorem ShowsOperand.isLine {display : Display} (shows : display.ShowsOperand) :
    Entry.IsLine display.buffer := by
  obtain ⟨operand, regular, equal⟩ := shows
  rw [equal, ← Chain.line_single]
  exact .complete (Chain.regular_single regular)

/-- A display that shows no result is sound if its line is in the grammar. -/
theorem sound_of_isLine {display : Display} (isLine : Entry.IsLine display.buffer)
    (typed : display.flags.result = false) : Sound display where
  isLine _ := isLine
  result _ shows := by simp [typed] at shows

theorem sound_of_needsReset {display : Display} (reset : display.flags.needsReset) :
    Sound display where
  isLine noReset := by simp [reset] at noReset
  result noReset := by simp [reset] at noReset

theorem sound_initial : Sound initial :=
  sound_of_isLine Entry.isLine_empty rfl

theorem sound_restarted (key : Key) : Sound (restarted key) := by
  unfold restarted
  split
  · rename_i literal
    exact sound_of_isLine (Entry.isLine_fresh literal) rfl
  · exact sound_initial

section Operations

variable {display : Display} (sound : display.Sound) (noReset : display.flags.needsReset = false)

include sound noReset

theorem sound_backspace : Sound display.backspace := by
  unfold backspace
  split
  · exact sound
  · rename_i erases
    refine sound_of_isLine (Entry.isLine_erase (sound.isLine noReset)) ?_
    simpa using fun result => erases (.inr result)

omit noReset in
theorem sound_withLine? {line? : Option Text}
    (accepts : ∀ line, line? = some line → Entry.IsLine line) :
    Sound (display.withLine? line?) := by
  cases line? with
  | none => exact sound
  | some line => exact sound_of_isLine (accepts line rfl) rfl

theorem sound_type {key : Key} (writes : key.isLiteral ∨ key.isOperator) :
    Sound (display.type key) := by
  have isLine := sound.isLine noReset
  unfold type
  split
  · exact sound_of_isLine (Entry.isLine_pushMinus isLine) rfl
  · exact sound_withLine? sound fun _ => Entry.isLine_pushOperator? isLine
  · rename_i others
    have literal : key.isLiteral := by
      rcases writes with literal | operator
      · exact literal
      · cases key with
        | operator op => exact absurd rfl (others op)
        | _ => cases operator
    split
    · exact sound_of_isLine (Entry.isLine_fresh literal) rfl
    · exact sound_withLine? sound fun _ => Entry.isLine_pushLiteral? isLine literal

end Operations

/-- A line in the grammar has a value. -/
theorem exists_evaluate_eq {line : Text} (isLine : Entry.IsLine line) :
    ∃ value, Expression.evaluate (Entry.expression line) = .ok value := by
  obtain ⟨chain, -, equal⟩ := Entry.exists_expression_eq isLine
  rw [equal]
  exact ⟨_, chain.evaluate_text⟩

/-- The display that shows the value of its line. -/
def showResult (display : Display) (value : Float) : Display :=
  { display with
    buffer := Readout.result value
    previous := Entry.expression display.buffer
    flags := { display.flags with
      result := true
      error := display.flags.error || !Binary.isFinite value } }

theorem evaluate_eq {display : Display} {value : Float}
    (valued : Expression.evaluate (Entry.expression display.buffer) = .ok value) :
    display.evaluate = .ok (display.showResult value) := by
  simp only [evaluate, valued]
  rfl

theorem press_evaluate {display : Display} (noReset : display.flags.needsReset = false)
    {value : Float} (valued : Expression.evaluate (Entry.expression display.buffer) = .ok value) :
    display.press .evaluate = .ok (display.showResult value, none) := by
  have unreset : ¬(display.flags.needsReset ∧ Key.evaluate ≠ .clear) := by simp [noReset]
  rw [press, if_neg unreset, act, evaluate_eq valued]
  rfl

/-- A finite value is shown as an operand, and another one asks for a reset. -/
theorem sound_showResult (display : Display) (value : Float) :
    Sound (display.showResult value) := by
  cases finite : Binary.isFinite value with
  | false =>
      apply sound_of_needsReset
      simp [showResult, Flags.needsReset, finite]
  | true =>
      have shows : ShowsOperand (display.showResult value) :=
        Readout.exists_operand_result finite
      exact ⟨fun _ => shows.isLine, fun _ _ => shows⟩

/-- One step: no key faults on a sound display, and the display after it is sound. -/
theorem Sound.press {display : Display} (sound : display.Sound) (key : Key) :
    ∃ next signal, display.press key = .ok (next, signal) ∧ next.Sound := by
  by_cases reset : display.flags.needsReset ∧ key ≠ .clear
  · exact ⟨_, _, if_pos reset, sound_restarted key⟩
  · rw [Display.press, if_neg reset]
    by_cases clear : key = .clear
    · subst clear
      exact ⟨_, _, rfl, sound_initial⟩
    · have noReset : display.flags.needsReset = false := by simpa [clear] using reset
      cases key with
      | clear => exact absurd rfl clear
      | decoration => exact ⟨_, _, rfl, sound⟩
      | backspace => exact ⟨_, _, rfl, sound_backspace sound noReset⟩
      | convert => exact ⟨_, _, rfl, ⟨sound.isLine, sound.result⟩⟩
      | operator op => exact ⟨_, _, rfl, sound_type sound noReset (.inr rfl)⟩
      | digit value => exact ⟨_, _, rfl, sound_type sound noReset (.inl rfl)⟩
      | point => exact ⟨_, _, rfl, sound_type sound noReset (.inl rfl)⟩
      | evaluate =>
          obtain ⟨value, valued⟩ := exists_evaluate_eq (sound.isLine noReset)
          exact ⟨_, none, by rw [act, evaluate_eq valued]; rfl, sound_showResult display value⟩

/-- Any run: every reachable display is sound. -/
theorem Reachable.sound {display : Display} (reachable : Reachable display) : display.Sound := by
  induction reachable with
  | initial => exact sound_initial
  | @press display next key signal _ pressed inductionHypothesis =>
      obtain ⟨next', signal', pressed', sound⟩ := inductionHypothesis.press key
      rw [pressed'] at pressed
      cases pressed
      exact sound
  | showConversion _ text => exact sound_of_needsReset rfl
  | showError _ message clearPrevious =>
      apply sound_of_needsReset
      simp [Display.showError, Flags.needsReset]

/-- On every reachable display the line is in the grammar, unless it shows a conversion
or an error. A result that waits for no reset is a single operand. -/
theorem Reachable.isLine_buffer {display : Display} (reachable : Reachable display) :
    (display.flags.conversion ∨ display.flags.error ∨
      Entry.IsLine display.buffer ∧ Entry.Tidy display.buffer) ∧
    (display.flags.result → display.flags.conversion = false → display.flags.error = false →
      display.ShowsOperand) := by
  have sound := reachable.sound
  cases conversion : display.flags.conversion with
  | true => simp
  | false =>
      cases error : display.flags.error with
      | true => simp
      | false =>
          have noReset : display.flags.needsReset = false := by
            simp [Flags.needsReset, conversion, error]
          have isLine := sound.isLine noReset
          exact ⟨.inr (.inr ⟨isLine, Entry.tidy_of_isLine isLine⟩),
            fun result _ _ => sound.result noReset result⟩

/-- `1÷4000000` is shown as `2.5e-7`. An operator behind it makes it a typed line, and
erasing its last digit erases the exponent. -/
theorem isLine_buffer_erased :
    ∃ display : Display, display.buffer = ['2', '.', '5'] ∧ Reachable display ∧
      display.flags = .none ∧ Entry.IsLine display.buffer ∧ Entry.Tidy display.buffer := by
  let keys : List Key := [.digit 1, .operator .div, .digit 4, .digit 0, .digit 0, .digit 0,
    .digit 0, .digit 0, .digit 0, .evaluate, .operator .add, .backspace, .backspace]
  let display : Display :=
    ⟨['2', '.', '5'], ['1', '÷', '4', '0', '0', '0', '0', '0', '0'], .none, false⟩
  have pressed : initial.pressAll keys = .ok display := by decide +kernel
  have reachable := Reachable.initial.pressAll pressed
  obtain ⟨conversion | error | line, -⟩ := reachable.isLine_buffer
  · cases conversion
  · cases error
  · exact ⟨display, rfl, reachable, rfl, line⟩

/-- No key faults on a reachable display. The value of an evaluated line is shown, and
counts as an error exactly when it is a NaN or an infinity. -/
theorem Reachable.press_eq_ok {display : Display} (reachable : Reachable display) (key : Key) :
    ∃ next signal, display.press key = .ok (next, signal) ∧
      (key = .evaluate → display.flags.needsReset = false →
        ∃ value, Expression.evaluate (Entry.expression display.buffer) = .ok value ∧
          next.buffer = Readout.result value ∧
          (next.flags.error ↔ value.isNaN ∨ value.isInf)) := by
  have sound := reachable.sound
  obtain ⟨next, signal, pressed, -⟩ := sound.press key
  refine ⟨next, signal, pressed, ?_⟩
  rintro rfl noReset
  obtain ⟨value, valued⟩ := exists_evaluate_eq (sound.isLine noReset)
  cases (press_evaluate noReset valued).symm.trans pressed
  refine ⟨value, valued, rfl, ?_⟩
  have noError : display.flags.error = false := (Bool.or_eq_false_iff.1 noReset).2
  rw [← Binary.isFinite_eq_false_iff]
  simp [showResult, noError]

/-- On `1÷0` the evaluation key shows an infinity, which counts as an error. -/
theorem press_eq_ok_infinite :
    ∃ display next signal, Reachable display ∧ display.buffer = ['1', '÷', '0'] ∧
      display.press .evaluate = .ok (next, signal) ∧ next.flags.error ∧
      next.buffer = "Infinity".toList := by
  let display : Display := ⟨['1', '÷', '0'], [], .none, false⟩
  have pressed : initial.pressAll [.digit 1, .operator .div, .digit 0] = .ok display := by
    decide +kernel
  have reachable := Reachable.initial.pressAll pressed
  obtain ⟨next, signal, evaluated, shows⟩ := reachable.press_eq_ok .evaluate
  obtain ⟨value, valued, buffer, error⟩ := shows rfl rfl
  have infinite : Expression.evaluate ['1', '÷', '0'] = .ok (1 / 0) := by decide +kernel
  cases infinite.symm.trans valued
  refine ⟨display, next, signal, reachable, rfl, evaluated, error.2 (.inr ?_), buffer.trans ?_⟩
  · decide +kernel
  · decide +kernel

end Keypad.Display
