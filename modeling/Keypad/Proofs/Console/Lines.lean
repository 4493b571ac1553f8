import Keypad.Console
import Mathlib.Data.List.Basic

/-!
# Lines, one after the other

`handleLine` says what a line leads to, and gives nothing but the failure if it fails. A desk
is where a line is worked on one step at a time: each command goes to the session at once, and
each line is written at once, so what is done before a failure would be seen there.
`Desk.run_work` says that nothing is: a line that fails has sent nothing and written nothing,
and a line that does not fail has done what `handleLine` says.

With that, lines are served one after the other: `Serves` has the lines that were handled and
what each of them printed, and `Composes` collects what a whole input does.
-/

namespace Keypad.Console

/-- A session, the commands that were sent to it, and the lines that were written. -/
structure Desk where
  session : Session
  sent : List Command
  written : List Text

namespace Desk

/-- What is done at a desk, one step after the other, until something fails. What was done
before a failure stays done. -/
abbrev Work := ExceptT Failure (StateM Desk)

/-- A command goes to the session. -/
def send (settings : Settings) (times : Times) (command : Command) : Work Unit :=
  modify fun desk => { desk with
    session := perform settings times desk.session command
    sent := desk.sent ++ [command] }

def write (line : Text) : Work Unit :=
  modify fun desk => { desk with written := desk.written ++ [line] }

/-- Waits until everything sent is handled, and shows the display. -/
def present (settings : Settings) (times : Times) : Work Unit := do
  send settings times .sync
  (showDisplay settings (← get).session.display).forM write

/-- Works on a line from one step to the next. -/
def work (settings : Settings) (times : Times) (text : Text) : Work Unit := do
  let line := Text.trim text
  let (name, argument) := Text.cut ' ' line
  if name = ":convert".toList then
    let code := Text.uppercase (Text.trim argument)
    if code = [] then throw .missingCurrency
    send settings times (.convert code)
    present settings times
  else if name = ":rates".toList then (showRates settings).forM write
  else if name.head? = some ':' then throw (.unknownCommand name)
  else
    let keys ← readKeys line
    keys.forM fun key => send settings times (.press key)
    present settings times

/-- Works on lines, each at the time at which it is read. -/
def workAll (settings : Settings) (lines : List (Times × Text)) : Work Unit :=
  lines.forM fun (times, text) => work settings times text

end Desk

/-- The commands by which a line is carried out. -/
def Line.commands : Line → List Command
  | .keys pressed => pressed.map .press ++ [.sync]
  | .convert code => [.convert code, .sync]
  | .listRates => []

section HandleLine

variable {settings : Settings} {times : Times} {session : Session} {text : Text}

theorem handleLine_of_ok {line : Line} (understood : Line.ofText text = .ok line) :
    handleLine settings times session text = .ok (carryOut settings times session line) := by
  rw [handleLine, understood]
  rfl

theorem handleLine_of_error {failure : Failure} (refused : Line.ofText text = .error failure) :
    handleLine settings times session text = .error failure := by
  rw [handleLine, refused]
  rfl

/-- A line whose command is `:rates` lists the rates, and leaves the session as it is. -/
theorem handleLine_of_rates (isRates : (Text.cut ' ' (Text.trim text)).1 = ":rates".toList) :
    handleLine settings times session text = .ok (session, showRates settings) := by
  have different : ":rates".toList ≠ ":convert".toList := by decide
  have understood : Line.ofText text = .ok .listRates := by
    simp only [Line.ofText, isRates, if_neg different, if_pos]
  exact handleLine_of_ok understood

end HandleLine

namespace Desk

variable (settings : Settings) (times : Times) (desk : Desk)

/-- The desk once a line has been carried out there. -/
def carry (line : Line) : Desk where
  session := (carryOut settings times desk.session line).1
  sent := desk.sent ++ line.commands
  written := desk.written ++ (carryOut settings times desk.session line).2

/-- What comes after a step goes on from there, unless the step failed. -/
theorem run_bind {α β : Type} (first : Work α) (rest : α → Work β) :
    (first >>= rest).run.run desk =
      match first.run.run desk with
      | (.ok value, next) => (rest value).run.run next
      | (.error failure, next) => (.error failure, next) := by
  rw [ExceptT.run_bind, StateT.run_bind]
  obtain ⟨failure | value, next⟩ := first.run.run desk <;> rfl

theorem run_send (command : Command) :
    (send settings times command).run.run desk = (.ok (), { desk with
      session := perform settings times desk.session command
      sent := desk.sent ++ [command] }) :=
  rfl

/-- Lines are written behind those that are there. -/
theorem run_forM_write (lines : List Text) :
    (lines.forM write).run.run desk =
      (.ok (), { desk with written := desk.written ++ lines }) := by
  induction lines generalizing desk with
  | nil =>
      rw [List.append_nil]
      rfl
  | cons line rest inductionHypothesis =>
      change (rest.forM write).run.run { desk with written := desk.written ++ [line] } = _
      rw [inductionHypothesis, List.append_assoc]
      rfl

/-- Keys go to the session one after the other. -/
theorem run_forM_press (keys : List Key) :
    (keys.forM fun key => send settings times (.press key)).run.run desk = (.ok (), { desk with
      session := pressAll settings times desk.session keys
      sent := desk.sent ++ keys.map .press }) := by
  induction keys generalizing desk with
  | nil =>
      rw [List.map_nil, List.append_nil]
      rfl
  | cons key rest inductionHypothesis =>
      change (rest.forM fun key => send settings times (.press key)).run.run { desk with
        session := perform settings times desk.session (.press key)
        sent := desk.sent ++ [.press key] } = _
      rw [inductionHypothesis, List.append_assoc]
      rfl

theorem run_present :
    (present settings times).run.run desk = (.ok (), { desk with
      sent := desk.sent ++ [.sync]
      written := desk.written ++ showDisplay settings desk.session.display }) :=
  run_forM_write ..

theorem run_convert (code : Text) :
    (do send settings times (.convert code); present settings times : Work Unit).run.run desk =
      (.ok (), desk.carry settings times (.convert code)) := by
  simp only [run_bind, run_send, run_present, List.append_assoc]
  rfl

theorem run_keys (keys : List Key) :
    (do keys.forM fun key => send settings times (.press key); present settings times :
        Work Unit).run.run desk = (.ok (), desk.carry settings times (.keys keys)) := by
  simp only [run_bind, run_forM_press, run_present, List.append_assoc]
  rfl

theorem run_listRates :
    ((showRates settings).forM write).run.run desk =
      (.ok (), desk.carry settings times .listRates) := by
  rw [run_forM_write, carry, Line.commands, List.append_nil]
  rfl

/-- Working on a line does what handling it says. If it fails, nothing was sent and nothing was
written before it failed. -/
theorem run_work (text : Text) :
    (work settings times text).run.run desk =
      match Line.ofText text with
      | .error failure => (.error failure, desk)
      | .ok line => (.ok (), desk.carry settings times line) := by
  simp only [work, Line.ofText]
  split_ifs with isConvert isEmpty isRates isCommand
  · rw [isEmpty]
    rfl
  · cases code : Text.uppercase (Text.trim (Text.cut ' ' (Text.trim text)).2) with
    | nil => exact absurd code isEmpty
    | cons => exact run_convert ..
  · exact run_listRates ..
  · rfl
  · cases readKeys (Text.trim text) with
    | error failure => rfl
    | ok keys => exact run_keys ..

end Desk

/-- Lines that are handled one after the other, each in the session that the lines before it
left, with what each of them prints. -/
inductive Serves (settings : Settings) :
    Session → List (Times × Text) → List (List Text) → Session → Prop where
  | nil {session : Session} : Serves settings session [] [] session
  | cons {session next last : Session} {times : Times} {text : Text} {printed : List Text}
      {lines : List (Times × Text)} {outputs : List (List Text)}
      (first : handleLine settings times session text = .ok (next, printed))
      (rest : Serves settings next lines outputs last) :
      Serves settings session ((times, text) :: lines) (printed :: outputs) last

section Lines

variable {settings : Settings} {session : Session}

/-- Behind lines that were handled, the other lines go on in the session that they left. -/
theorem Serves.runLines_append {before : List (Times × Text)} {outputs : List (List Text)}
    {reached : Session} (serves : Serves settings session before outputs reached)
    (after : List (Times × Text)) :
    runLines settings session (before ++ after) =
      ⟨outputs.flatten ++ (runLines settings reached after).printed,
        (runLines settings reached after).failure⟩ := by
  induction serves with
  | nil => rfl
  | cons first rest inductionHypothesis =>
      rw [List.cons_append, runLines, first]
      dsimp only
      rw [inductionHypothesis, List.flatten_cons, List.append_assoc]

/-- Once a line has failed, no other line counts. -/
theorem Serves.runLines_of_error {before : List (Times × Text)} {outputs : List (List Text)}
    {reached : Session} (serves : Serves settings session before outputs reached) {times : Times}
    {text : Text} {failure : Failure}
    (fails : handleLine settings times reached text = .error failure)
    (after : List (Times × Text)) :
    runLines settings session (before ++ (times, text) :: after) =
      ⟨outputs.flatten, some failure⟩ := by
  rw [serves.runLines_append, runLines, fails]
  simp

theorem Serves.runLines_eq {lines : List (Times × Text)} {outputs : List (List Text)}
    {reached : Session} (serves : Serves settings session lines outputs reached) :
    runLines settings session lines = ⟨outputs.flatten, none⟩ := by
  have whole := serves.runLines_append []
  simpa [runLines] using whole

/-- Either all lines are handled, or there is a first one that fails. -/
theorem serves_or_error (settings : Settings) (session : Session) (lines : List (Times × Text)) :
    (∃ outputs last, Serves settings session lines outputs last) ∨
    ∃ before times text after outputs reached failure, lines = before ++ (times, text) :: after ∧
      Serves settings session before outputs reached ∧
      handleLine settings times reached text = .error failure := by
  induction lines generalizing session with
  | nil => exact .inl ⟨[], session, .nil⟩
  | cons line rest inductionHypothesis =>
      obtain ⟨times, text⟩ := line
      cases first : handleLine settings times session text with
      | error failure => exact .inr ⟨[], times, text, rest, [], session, failure, rfl, .nil, first⟩
      | ok handled =>
          obtain ⟨next, printed⟩ := handled
          rcases inductionHypothesis next with ⟨outputs, last, serves⟩ |
            ⟨before, later, failing, after, outputs, reached, failure, rfl, serves, fails⟩
          · exact .inl ⟨_, last, .cons first serves⟩
          · exact .inr ⟨_, later, failing, after, _, reached, failure, rfl, .cons first serves,
              fails⟩

/-- Lines that were not all handled end the run, whatever comes after them. -/
theorem serves_or_stops (settings : Settings) (session : Session)
    (before : List (Times × Text)) :
    (∃ outputs reached, Serves settings session before outputs reached) ∨
    ((runLines settings session before).failure.isSome ∧
      ∀ after, runLines settings session (before ++ after) = runLines settings session before) := by
  rcases serves_or_error settings session before with served |
    ⟨served, times, text, rest, outputs, reached, failure, rfl, serves, fails⟩
  · exact .inl served
  · have stops := serves.runLines_of_error fails
    refine .inr ⟨?_, fun after => ?_⟩
    · rw [stops]
      rfl
    · rw [List.append_assoc, List.cons_append, stops, stops]

end Lines

/-- Working on lines writes what they print, and fails as they fail. -/
theorem Desk.run_workAll (settings : Settings) (lines : List (Times × Text)) (desk : Desk) :
    let done := (workAll settings lines).run.run desk
    let outcome := runLines settings desk.session lines
    done.2.written = desk.written ++ outcome.printed ∧
      done.1 = match outcome.failure with
        | none => .ok ()
        | some failure => .error failure := by
  induction lines generalizing desk with
  | nil => exact ⟨(List.append_nil _).symm, rfl⟩
  | cons line rest inductionHypothesis =>
      obtain ⟨times, text⟩ := line
      have continues : workAll settings ((times, text) :: rest) =
          work settings times text >>= fun _ => workAll settings rest := rfl
      rw [continues, run_bind, run_work, runLines]
      cases understood : Line.ofText text with
      | error failure =>
          rw [handleLine_of_error understood]
          exact ⟨(List.append_nil _).symm, rfl⟩
      | ok line =>
          obtain ⟨written, result⟩ := inductionHypothesis (desk.carry settings times line)
          rw [handleLine_of_ok understood]
          refine ⟨written.trans ?_, result⟩
          rw [carry, List.append_assoc]

/-- What the program does with lines under given settings. -/
structure Composes (settings : Settings) : Prop where
  /-- A line that fails has sent nothing and written nothing. -/
  atomic : ∀ times text (desk last : Desk) failure,
    (Desk.work settings times text).run.run desk = (.error failure, last) →
    last = desk ∧ handleLine settings times desk.session text = .error failure
  /-- A line that does not fail leaves the session and the lines that `handleLine` says. -/
  faithful : ∀ times text (desk last : Desk),
    (Desk.work settings times text).run.run desk = (.ok (), last) →
    ∃ printed, handleLine settings times desk.session text = .ok (last.session, printed) ∧
      last.written = desk.written ++ printed
  /-- What is printed is what the lines print that come before the first one that fails, each
  in the session that those before it left. The program fails if a line does. -/
  served : ∀ session lines,
    let outcome := runLines settings session lines
    (∃ outputs last, Serves settings session lines outputs last ∧
      outcome.printed = outputs.flatten ∧ outcome.exitCode = 0) ∨
    ∃ before times text after outputs reached failure, lines = before ++ (times, text) :: after ∧
      Serves settings session before outputs reached ∧
      handleLine settings times reached text = .error failure ∧
      outcome.printed = outputs.flatten ∧ outcome.exitCode = 1
  /-- Working on the lines step by step writes just that, and fails just then. -/
  written : ∀ (desk : Desk) lines,
    let done := (Desk.workAll settings lines).run.run desk
    let outcome := runLines settings desk.session lines
    done.2.written = desk.written ++ outcome.printed ∧
      done.1 = match outcome.failure with
        | none => .ok ()
        | some failure => .error failure
  /-- More lines only print more. -/
  grows : ∀ session before after,
    (runLines settings session before).printed <+:
      (runLines settings session (before ++ after)).printed
  /-- Without a line that lists the rates, that list is missing and nothing else. -/
  listing : ∀ session before times text after,
    (Text.cut ' ' (Text.trim text)).1 = ":rates".toList →
    let without := runLines settings session (before ++ after)
    let whole := runLines settings session (before ++ (times, text) :: after)
    (∃ outputs reached, Serves settings session before outputs reached ∧
      handleLine settings times reached text = .ok (reached, showRates settings) ∧
      let later := runLines settings reached after
      without = ⟨outputs.flatten ++ later.printed, later.failure⟩ ∧
      whole = ⟨outputs.flatten ++ (showRates settings ++ later.printed), later.failure⟩) ∨
    ((runLines settings session before).failure.isSome ∧
      without = runLines settings session before ∧ whole = runLines settings session before)
  /-- The program handles the lines of its input in a new session. -/
  program : ∀ source read clock input, source.load read = .ok settings →
    run source clock [] input read =
      runLines settings (newSession settings)
        ((Text.lines input).mapIdx fun number line => (clock number, line))

/-- A line takes effect as a whole or not at all, and lines act on each other through the
session only. -/
theorem composes (settings : Settings) : Composes settings where
  atomic := by
    intro times text desk last failure failed
    rw [desk.run_work] at failed
    cases understood : Line.ofText text with
    | error =>
        rw [understood] at failed
        cases failed
        exact ⟨rfl, handleLine_of_error understood⟩
    | ok line =>
        rw [understood] at failed
        cases failed
  faithful := by
    intro times text desk last worked
    rw [desk.run_work] at worked
    cases understood : Line.ofText text with
    | error =>
        rw [understood] at worked
        cases worked
    | ok line =>
        rw [understood] at worked
        cases worked
        exact ⟨_, handleLine_of_ok understood, rfl⟩
  served := by
    intro session lines
    rcases serves_or_error settings session lines with ⟨outputs, last, serves⟩ |
      ⟨before, times, text, after, outputs, reached, failure, rfl, serves, fails⟩
    · rw [serves.runLines_eq]
      exact .inl ⟨outputs, last, serves, rfl, rfl⟩
    · rw [serves.runLines_of_error fails]
      exact .inr ⟨before, times, text, after, outputs, reached, failure, rfl, serves, fails, rfl, rfl⟩
  written desk lines := Desk.run_workAll settings lines desk
  grows := by
    intro session before after
    rcases serves_or_stops settings session before with ⟨outputs, reached, serves⟩ | ⟨-, stops⟩
    · rw [serves.runLines_eq, serves.runLines_append]
      exact List.prefix_append _ _
    · exact ⟨[], by rw [stops, List.append_nil]⟩
  listing := by
    intro session before times text after isRates
    rcases serves_or_stops settings session before with ⟨outputs, reached, serves⟩ | ⟨fails, stops⟩
    · have listed : handleLine settings times reached text = .ok (reached, showRates settings) :=
        handleLine_of_rates isRates
      refine .inl ⟨outputs, reached, serves, listed, serves.runLines_append after, ?_⟩
      rw [serves.runLines_append, runLines, listed]
    · exact .inr ⟨fails, stops after, stops ((times, text) :: after)⟩
  program := by
    intro source read clock input loaded
    rw [run, loaded]
    rfl

example :
    runLines .default (newSession .default)
        (timed (0 : Moment) "12\n3q\n4\n".toList) =
      ⟨["12".toList], some (.unknownKey ⟨"q".toList⟩)⟩ := by
  decide +kernel

end Keypad.Console
