import Keypad.Console
import Keypad.Proofs.Key.Marks
import Keypad.Proofs.Session.Typing

/-!
# Keys given as arguments

A program that is given keys prints what they lead to on a display, one after the other, or
fails without printing anything. What it does depends on the marks of its arguments only: on
the keys that their characters stand for, and not on where an argument ends, on blanks, or on
which of its spellings a key is given in.

The keys go through a session, and the program waits until that has settled. `Hub` has all
turns that this can take; none of them ends with another display.
-/

namespace Keypad.Console

theorem readKeys_eq_ok_iff {text : Text} {keys : List Key} :
    readKeys text = .ok keys ↔ Key.typed text = .ok keys := by
  unfold readKeys
  cases Key.typed text <;> simp

/-- A key starts no request, so to perform it is to handle it. -/
theorem pressAll_eq_handleAll (settings : Settings) (times : Times) (session : Session)
    (keys : List Key) :
    pressAll settings times session keys =
      (session.handleAll (keys.map (⟨times.asked, .press ·⟩))).1 := by
  induction keys generalizing session with
  | nil => rfl
  | cons key keys inductionHypothesis => exact inductionHypothesis (session.press key)

/-- Keys given as arguments show what they lead to on a display. -/
theorem pressAll_newSession (settings : Settings) (times : Times) (keys : List Key) :
    Display.initial.pressAll keys =
      .ok (pressAll settings times (newSession settings) keys).display := by
  have idle : (newSession settings).inFlight = none := rfl
  rw [pressAll_eq_handleAll]
  exact Session.handleAll_presses idle Display.sound_initial (by simp [Function.comp_def])

variable (settings : Settings) (times : Times) {arguments : List Text}

/-- Arguments whose marks have no gap are pressed. -/
theorem runArguments_of_marks {keys : List Key}
    (marked : arguments.flatMap Key.marks = keys.map some) :
    runArguments settings times arguments =
      ⟨[(pressAll settings times (newSession settings) keys).display.buffer], none⟩ := by
  obtain ⟨lists, typed, rfl⟩ := Key.exists_forall₂_typed_flatten_iff.2 marked
  have read : arguments.mapM readKeys = .ok lists := by
    rw [mapM_eq_ok_iff]
    exact typed.imp fun _ _ => readKeys_eq_ok_iff.2
  rw [runArguments, read]

/-- A gap in the marks of the arguments is a failure. -/
theorem runArguments_of_gap
    (gap : ∀ keys : List Key, arguments.flatMap Key.marks ≠ keys.map some) :
    ∃ failure, runArguments settings times arguments = ⟨[], some failure⟩ := by
  rw [runArguments]
  cases read : arguments.mapM readKeys with
  | error failure => exact ⟨failure, rfl⟩
  | ok lists =>
      have typed : List.Forall₂ (Key.typed · = .ok ·) arguments lists :=
        (mapM_eq_ok_iff.1 read).imp fun _ _ => readKeys_eq_ok_iff.1
      exact absurd (Key.exists_forall₂_typed_flatten_iff.1 ⟨lists, typed, rfl⟩) (gap lists.flatten)

/-- Arguments with the same marks do the same. -/
theorem runArguments_congr {others : List Text}
    (alike : others.flatMap Key.marks = arguments.flatMap Key.marks) :
    (runArguments settings times others).printed = (runArguments settings times arguments).printed ∧
      (runArguments settings times others).exitCode =
        (runArguments settings times arguments).exitCode := by
  by_cases whole : ∃ keys : List Key, arguments.flatMap Key.marks = keys.map some
  · obtain ⟨keys, marked⟩ := whole
    rw [runArguments_of_marks settings times marked,
      runArguments_of_marks settings times (alike.trans marked)]
    exact ⟨rfl, rfl⟩
  · have gap := not_exists.1 whole
    obtain ⟨failure, fails⟩ := runArguments_of_gap settings times gap
    obtain ⟨other, failsAlike⟩ := runArguments_of_gap settings times fun keys =>
      alike ▸ gap keys
    rw [fails, failsAlike]
    exact ⟨rfl, rfl⟩

/-- A program that is given keys presses them one after the other on a new display, prints the
line of the display once everything has settled, and fails without printing anything if one of
its arguments neither names a key nor consists of keys. So it does the same with all arguments
that have the same marks. -/
theorem run_arguments {source : SettingsSource} {read : Settings.Reader} {settings : Settings}
    (loaded : source.load read = .ok settings) (clock : Clock) {arguments : List Text}
    (given : arguments ≠ []) (input : Text) :
    let outcome := run source clock arguments input read
    ((∃ argument ∈ arguments, Key.Unreadable argument) →
      outcome.printed = [] ∧ outcome.exitCode = 1) ∧
    ((∀ argument ∈ arguments, ¬Key.Unreadable argument) →
      ∃ lists display, List.Forall₂ (Key.typed · = .ok ·) arguments lists ∧
        Display.initial.pressAll lists.flatten = .ok display ∧
        outcome.printed = [display.buffer] ∧ outcome.exitCode = 0 ∧
        (∃ hub number, Hub.HasTyped hub (newSession settings).converter lists.flatten number ∧
          hub.calls number = .returned (.ok display)) ∧
        ∀ hub number answer, Hub.HasTyped hub (newSession settings).converter lists.flatten number →
          hub.stopped = false → hub.calls number = .returned answer → answer = .ok display) ∧
    ∀ others : List Text, others ≠ [] →
      others.flatMap Key.marks = arguments.flatMap Key.marks →
      (run source clock others input read).printed = outcome.printed ∧
        (run source clock others input read).exitCode = outcome.exitCode := by
  have runs {texts : List Text} (given : texts ≠ []) :
      run source clock texts input read = runArguments settings (clock 0) texts := by
    rw [run, loaded]
    exact if_neg given
  rw [runs given]
  refine ⟨fun unreadable => ?_, fun readable => ?_, fun others othersGiven alike => ?_⟩
  · have gap (keys : List Key) : arguments.flatMap Key.marks ≠ keys.map some := by
      intro marked
      obtain ⟨lists, typed, -⟩ := Key.exists_forall₂_typed_flatten_iff.2 marked
      obtain ⟨argument, member, isUnreadable⟩ := unreadable
      exact Key.exists_forall₂_typed_iff.1 ⟨lists, typed⟩ argument member isUnreadable
    obtain ⟨failure, fails⟩ := runArguments_of_gap settings (clock 0) gap
    rw [fails]
    exact ⟨rfl, rfl⟩
  · obtain ⟨lists, typed⟩ := Key.exists_forall₂_typed_iff.2 readable
    have marked := Key.exists_forall₂_typed_flatten_iff.1 ⟨lists, typed, rfl⟩
    have pressed := pressAll_newSession settings (clock 0) lists.flatten
    rw [runArguments_of_marks settings (clock 0) marked]
    refine ⟨lists, _, typed, pressed, rfl, rfl, Hub.exists_hasTyped_of_pressAll pressed _, ?_⟩
    intro hub number answer hasTyped goes returned
    exact hasTyped.eq_ok pressed goes returned
  · rw [runs othersGiven]
    exact runArguments_congr settings (clock 0) alike

/-- `AC` clears what was typed before it, and `$` opens the currency picker, which stays open.
All of it could be one argument. In one argument, `AC` is no key. -/
theorem run_arguments_spelled :
    let arguments := ["9 9".toList, "AC".toList, "7 × $".toList, "-3=".toList]
    let together := ["99c7x$-3=".toList]
    let unreadable := ["9".toList, "9AC7×$-3=".toList, "1".toList]
    let outcome (arguments : List Text) := run .none (.still 0) arguments [] Toml.overrides?
    SettingsSource.none.load Toml.overrides? = .ok .default ∧
      arguments ≠ [] ∧ together ≠ [] ∧ unreadable ≠ [] ∧
      (∀ argument ∈ arguments, ¬Key.Unreadable argument) ∧
      (∃ argument ∈ unreadable, Key.Unreadable argument) ∧
      together.flatMap Key.marks = arguments.flatMap Key.marks ∧
      (∃ display : Display, (outcome arguments).printed = [display.buffer] ∧
        (outcome together).printed = [display.buffer] ∧ display.buffer = "-21".toList) ∧
      (outcome unreadable).printed = [] ∧ (outcome unreadable).exitCode = 1 := by
  intro arguments together unreadable outcome
  have readable : ∀ argument ∈ arguments, ¬Key.Unreadable argument := by decide +kernel
  have isUnreadable : ∃ argument ∈ unreadable, Key.Unreadable argument := by decide +kernel
  have alike : together.flatMap Key.marks = arguments.flatMap Key.marks := by decide +kernel
  have loaded : SettingsSource.none.load Toml.overrides? = .ok .default := rfl
  obtain ⟨-, pressed, same⟩ :=
    run_arguments loaded (.still 0) (List.cons_ne_nil _ _ : arguments ≠ []) []
  obtain ⟨fails, -⟩ :=
    run_arguments loaded (.still 0) (List.cons_ne_nil _ _ : unreadable ≠ []) []
  obtain ⟨lists, display, -, -, printed, -⟩ := pressed readable
  have shown : (outcome arguments).printed = ["-21".toList] := by decide +kernel
  refine ⟨loaded, List.cons_ne_nil _ _, List.cons_ne_nil _ _, List.cons_ne_nil _ _, readable,
    isUnreadable, alike, ⟨display, printed, ?_, ?_⟩, fails isUnreadable⟩
  · exact (same together (List.cons_ne_nil _ _) alike).1.trans printed
  · exact List.singleton_inj.1 (printed.symm.trans shown)

end Keypad.Console
