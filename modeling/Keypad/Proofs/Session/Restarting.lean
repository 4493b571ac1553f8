import Keypad.Proofs.Session.Dialogue

/-!
# Starting over

A key that starts a session over leaves nothing of it but the converter with the rates it
keeps. From then on the session behaves as a fresh one with the same rates, whatever
requests are still outstanding: generations go on counting where the old session stopped,
so no old outcome is taken for a new one.

The two runs are compared turn by turn. The old one is the fresh one with its generations
shifted by the number of requests started before, and with the old requests outstanding
beside the new ones.
-/

namespace Keypad

/-- The request with its generation counted from an earlier start. -/
def Request.shift (count : Nat) (request : Request) : Request :=
  { request with generation := request.generation + count }

/-- The request with its generation counted from a later start, if it comes after that. -/
def Request.since? (count : Nat) (request : Request) : Option Request :=
  if count < request.generation then
    some { request with generation := request.generation - count }
  else none

/-- The command with generations counted from an earlier start. -/
def Command.shift (count : Nat) : Command → Command
  | .arrive request outcome => .arrive (request.shift count) outcome
  | command => command

/-- The command with generations counted from a later start, unless it is the outcome of
a request before that. -/
def Command.since? (count : Nat) : Command → Option Command
  | .arrive request outcome => (request.since? count).map (.arrive · outcome)
  | command => some command

/-- The turn with generations counted from a later start, unless it brings the outcome of
a request before that. -/
def Turn.since? (count : Nat) (turn : Turn) : Option Turn :=
  (turn.command.since? count).map (⟨turn.now, ·⟩)

/-- The session with generations counted from an earlier start. -/
def Session.shift (count : Nat) (session : Session) : Session :=
  { session with
    generation := session.generation + count
    inFlight := session.inFlight.map (· + count) }

theorem Request.since?_eq_some_iff {count : Nat} {request later : Request} :
    request.since? count = some later ↔ 0 < later.generation ∧ request = later.shift count := by
  obtain ⟨generation, base, target, amount⟩ := request
  obtain ⟨laterGeneration, laterBase, laterTarget, laterAmount⟩ := later
  simp only [since?, shift, Request.mk.injEq]
  split
  · simp only [Option.some.injEq, Request.mk.injEq]
    constructor
    · rintro ⟨rfl, rfl, rfl, rfl⟩
      exact ⟨by omega, by omega, rfl, rfl, rfl⟩
    · rintro ⟨positive, rfl, rfl, rfl, rfl⟩
      exact ⟨by omega, rfl, rfl, rfl⟩
  · constructor
    · nofun
    · rintro ⟨positive, rfl, -⟩
      omega

theorem Command.eq_shift_of_since? {count : Nat} {command later : Command}
    (since : command.since? count = some later) : command = later.shift count := by
  cases command with
  | arrive request outcome =>
      obtain ⟨laterRequest, shifted, rfl⟩ := Option.map_eq_some_iff.1 since
      rw [(Request.since?_eq_some_iff.1 shifted).2]
      rfl
  | _ =>
      cases since
      rfl

/-- A new request stays outstanding after a command exactly when it does after the command
with generations counted from the new start. -/
theorem Command.leaves_of_since? {count : Nat} {command later : Command}
    (since : command.since? count = some later) {request laterRequest : Request}
    (new : request.since? count = some laterRequest) :
    command.leaves request = later.leaves laterRequest := by
  cases command with
  | arrive answered outcome =>
      obtain ⟨laterAnswered, shifted, rfl⟩ := Option.map_eq_some_iff.1 since
      rw [(Request.since?_eq_some_iff.1 shifted).2, (Request.since?_eq_some_iff.1 new).2]
      simp [leaves, Request.shift, bne]
  | _ =>
      cases since
      rfl

/-- A digit or a point leaves on the initial display what it leaves when it starts a
display over. -/
theorem Display.press_initial {key : Key} (literal : key.isLiteral) :
    initial.press key = .ok (restarted key, none) := by
  cases key with
  | point => rfl
  | digit value =>
      by_cases small : value < 10 <;>
        simp [press, act, type, initial, Flags.none, Flags.needsReset, restarted, Key.isLiteral,
          Entry.pushLiteral?, Entry.pushDigit, Entry.fresh, Key.symbol?, small, withLine?, withLine]
  | _ => cases literal

namespace Session

variable {session : Session} (count : Nat)

theorem press_shift (key : Key) :
    (session.shift count).press key = (session.press key).shift count := by
  have waiting : (session.shift count).inFlight.isSome = session.inFlight.isSome := by
    simp [shift]
  have display : (session.shift count).display = session.display := rfl
  rw [press, press, waiting, display]
  split
  · rfl
  · split <;> rfl

theorem proceed_shift (target : Text)
    (planned : Series × Except ConversionFault (Plan × Option Text)) :
    (session.shift count).proceed target planned =
      ((session.proceed target planned).1.shift count,
        (session.proceed target planned).2.map (·.shift count)) := by
  obtain ⟨series, fault | ⟨plan | plan, news⟩⟩ := planned
  · rfl
  · rfl
  · simp [proceed, shift, Request.shift, Nat.add_right_comm]

theorem convert_shift (target : Text) (now : Moment) :
    (session.shift count).convert target now =
      ((session.convert target now).1.shift count,
        (session.convert target now).2.map (·.shift count)) := by
  cases waiting : session.inFlight with
  | none =>
      have idle : (session.shift count).inFlight = none := by simp [shift, waiting]
      rw [convert_of_idle waiting, convert_of_idle idle]
      exact proceed_shift count target _
  | some generation =>
      have busy : session.inFlight.isSome := by simp [waiting]
      have shiftedBusy : (session.shift count).inFlight.isSome := by simp [shift, waiting]
      rw [convert_of_inFlight busy, convert_of_inFlight shiftedBusy]
      rfl

theorem arrive_shift (request : Request) (outcome : Except ConversionFault (RatesReply Float))
    (now : Moment) :
    (session.shift count).arrive (request.shift count) outcome now =
      (session.arrive request outcome now).shift count := by
  by_cases waiting : session.inFlight = some request.generation
  · have shifted : (session.shift count).inFlight = some (request.shift count).generation := by
      simp [shift, Request.shift, waiting]
    rw [arrive_of_inFlight waiting, arrive_of_inFlight shifted]
    rfl
  · have shifted : (session.shift count).inFlight ≠ some (request.shift count).generation := by
      simpa [shift, Request.shift] using waiting
    rw [arrive_of_ne waiting, arrive_of_ne shifted]

/-- To a fresh session, a digit or a point does what it does when it starts a session over. -/
theorem press_start (converter : Converter) {key : Key} (literal : key.isLiteral) :
    (start converter).press key = (start converter).restart key := by
  have pressed : (start converter).display.press key = .ok (.restarted key, none) :=
    Display.press_initial literal
  have notBusy : ¬((start converter).inFlight.isSome ∧ key ≠ .clear) := by simp [start]
  rw [press, if_neg notBusy, pressed]
  rfl

/-- Generations do not matter to a session beyond being told apart. -/
theorem handle_shift (command : Command) (now : Moment) :
    (session.shift count).handle now (command.shift count) =
      ((session.handle now command).1.shift count,
        (session.handle now command).2.map (·.shift count)) := by
  cases command with
  | press key => exact Prod.ext (press_shift count key) rfl
  | convert target => exact convert_shift count target now
  | dismissPicker => rfl
  | arrive request outcome => exact Prod.ext (arrive_shift count request outcome now) rfl
  | sync => rfl

end Session

namespace Dialogue

/-- The dialogue of a fresh session, with a first key if that key writes a digit or a
point. -/
def renewed (converter : Converter) (now : Moment) (key : Key) : Dialogue :=
  if key.isLiteral then (start converter).after ⟨now, .press key⟩ else start converter

/-- A dialogue goes on like a fresh one, with the requests up to a generation outstanding
from before. -/
structure Follows (count : Nat) (dialogue fresh : Dialogue) : Prop where
  session : dialogue.session = fresh.session.shift count
  outstanding : dialogue.outstanding.filterMap (·.since? count) = fresh.outstanding
  numbered : fresh.Numbered

/-- What is kept of the requests after a start depends on these requests alone. -/
theorem filterMap_since?_filter {count : Nat} {keeps keepsLater : Request → Bool}
    (alike : ∀ request later, request.since? count = some later →
      keeps request = keepsLater later) (requests : List Request) :
    (requests.filter keeps).filterMap (·.since? count) =
      (requests.filterMap (·.since? count)).filter keepsLater := by
  rw [List.filterMap_filter, List.filter_filterMap]
  apply List.filterMap_congr
  intro request _
  cases new : request.since? count with
  | none => simp
  | some later => simp [alike request later new, Option.filter]

namespace Follows

variable {count : Nat} {dialogue fresh : Dialogue} (follows : dialogue.Follows count fresh)

include follows

/-- The request in flight is not an old one. -/
theorem inFlight_ne {answered : Request} (old : answered.since? count = none) :
    dialogue.session.inFlight ≠ some answered.generation := by
  rw [follows.session]
  intro waiting
  obtain ⟨generation, inFlight, same⟩ := Option.map_eq_some_iff.1 waiting
  obtain ⟨-, request, member, rfl⟩ := follows.numbered.inFlight generation inFlight
  have positive := follows.numbered.positive request member
  have before : ¬count < answered.generation := by simpa [Request.since?] using old
  omega

/-- The outcome of an old request has no effect. -/
theorem after_old {turn : Turn} (old : turn.since? count = none) :
    (dialogue.after turn).Follows count fresh := by
  obtain ⟨now, command⟩ := turn
  cases command with
  | arrive answered outcome =>
      have old : answered.since? count = none := by
        simpa [Turn.since?, Command.since?] using old
      have unmoved : dialogue.session.handle now (.arrive answered outcome) =
          (dialogue.session, none) :=
        Prod.ext (Session.arrive_of_ne (follows.inFlight_ne old) outcome now) rfl
      have keepsNew : ∀ request later, request.since? count = some later →
          (Command.arrive answered outcome).leaves request = true := by
        intro request later new
        obtain ⟨positive, rfl⟩ := Request.since?_eq_some_iff.1 new
        have before : ¬count < answered.generation := by simpa [Request.since?] using old
        have other : later.generation + count ≠ answered.generation := by omega
        simpa [Command.leaves, Request.shift] using other
      refine ⟨?_, ?_, follows.numbered⟩
      · rw [Dialogue.after, unmoved]
        exact follows.session
      · rw [Dialogue.after, unmoved, Option.toList_none, List.append_nil,
          filterMap_since?_filter keepsNew, List.filter_true, follows.outstanding]
  | _ => cases old

/-- Any other turn does to the session what it does to the fresh one. -/
theorem after {turn later : Turn} (since : turn.since? count = some later)
    (admitted : dialogue.Admits turn.command) :
    fresh.Admits later.command ∧ (dialogue.after turn).Follows count (fresh.after later) := by
  obtain ⟨now, command⟩ := turn
  obtain ⟨laterCommand, (newer : command.since? count = some laterCommand), rfl⟩ :=
    Option.map_eq_some_iff.1 since
  have shifted := Command.eq_shift_of_since? newer
  have handled : dialogue.session.handle now command =
      ((fresh.session.handle now laterCommand).1.shift count,
        (fresh.session.handle now laterCommand).2.map (·.shift count)) := by
    rw [follows.session, shifted, Session.handle_shift]
  have numbered := follows.numbered.after ⟨now, laterCommand⟩
  refine ⟨?_, ?_, ?_, numbered⟩
  · cases laterCommand with
    | arrive request outcome =>
        subst shifted
        obtain ⟨_, new, ⟨⟩⟩ := Option.map_eq_some_iff.1 newer
        change request ∈ fresh.outstanding
        rw [← follows.outstanding]
        exact List.mem_filterMap.2 ⟨_, admitted, new⟩
    | _ => trivial
  · rw [Dialogue.after, handled]
    rfl
  · rw [Dialogue.after, handled, List.filterMap_append,
      filterMap_since?_filter (fun _ _ => Command.leaves_of_since? newer), follows.outstanding]
    cases started : (fresh.session.handle now laterCommand).2 with
    | none => simp [Dialogue.after, started]
    | some request =>
        have positive := numbered.positive request (mem_outstanding_after started)
        have new : (request.shift count).since? count = some request :=
          Request.since?_eq_some_iff.2 ⟨positive, rfl⟩
        simp [Dialogue.after, started, new]

end Follows

/-- No turn changes the converter, but for the rates it keeps. -/
theorem Reachable.converter_eq {converter : Converter} {dialogue : Dialogue}
    (reachable : Reachable converter dialogue) :
    dialogue.session.converter =
      { converter with cache := dialogue.session.converter.cache } := by
  obtain ⟨turns, run⟩ := reachable
  induction run with
  | refl => rfl
  | @step turns dialogue _ turn _ inductionHypothesis =>
      obtain ⟨session, started, step, equal⟩ := dialogue.exists_step_after turn
      rw [equal]
      cases step with
      | concludes =>
          rw [inductionHypothesis]
          exact Converter.learn_eq _ _ _ _
      | _ => exact inductionHypothesis

@[simp] theorem outstanding_renewed (converter : Converter) (now : Moment) (key : Key) :
    (renewed converter now key).outstanding = [] := by
  unfold renewed
  split <;> rfl

theorem session_renewed (converter : Converter) (now : Moment) (key : Key) :
    (renewed converter now key).session = (Session.start converter).restart key := by
  unfold renewed
  split
  · rename_i literal
    exact Session.press_start converter literal
  · rename_i other
    simp [start, Session.restart, Session.forget, Display.restarted, other, Session.start]

/-- A session that is started over goes on like a fresh session with the same rates. -/
theorem Numbered.follows_renewed {dialogue : Dialogue} (numbered : dialogue.Numbered) {key : Key}
    (resets : dialogue.session.Resets key) (now : Moment) :
    (dialogue.after ⟨now, .press key⟩).Follows dialogue.session.generation
      (renewed dialogue.session.converter now key) where
  session := by
    rw [session_renewed]
    change dialogue.session.press key = _
    rw [Session.press_of_resets resets]
    simp [Session.restart, Session.forget, Session.shift, Session.start]
  outstanding := by
    rw [outstanding_renewed, List.filterMap_eq_nil_iff]
    intro request member
    have outstanding : request ∈ dialogue.outstanding := by
      simpa [Dialogue.after, Command.leaves, Session.handle] using member
    have bounded := numbered.bounded request outstanding
    simpa [Request.since?] using bounded
  numbered := by
    unfold renewed
    split
    · exact (Numbered.start _).after _
    · exact .start _

/-- Whatever happens, the two go on alike. -/
theorem Follows.run {count : Nat} {dialogue fresh : Dialogue}
    (follows : dialogue.Follows count fresh) {turns : List Turn} {last : Dialogue}
    (run : dialogue.Runs turns last) :
    ∃ freshLast, fresh.Runs (turns.filterMap (·.since? count)) freshLast ∧
      last.Follows count freshLast := by
  -- The last turn is either left out of the fresh run or taken along.
  induction run with
  | refl => exact ⟨fresh, .refl, follows⟩
  | @step turns dialogue _ turn admitted inductionHypothesis =>
      obtain ⟨freshLast, freshRun, goesOn⟩ := inductionHypothesis
      rw [List.filterMap_append]
      cases since : turn.since? count with
      | none =>
          refine ⟨freshLast, ?_, goesOn.after_old since⟩
          simpa [since] using freshRun
      | some later =>
          obtain ⟨freshAdmitted, alike⟩ := goesOn.after since admitted
          refine ⟨freshLast.after later, ?_, alike⟩
          simpa [since] using freshRun.step later freshAdmitted

/-- A session that a key starts over goes on, turn by turn, like a fresh session with the
same rates, to which the key is pressed if it writes a digit or a point. The outcomes of
requests started before have no part in it. -/
theorem Reachable.run_renewed {converter : Converter} {dialogue : Dialogue}
    (reachable : Reachable converter dialogue) {key : Key}
    (resets : dialogue.session.Resets key) (now : Moment) {turns : List Turn} {last : Dialogue}
    (run : (dialogue.after ⟨now, .press key⟩).Runs turns last) :
    ∃ fresh,
      (renewed { converter with cache := dialogue.session.converter.cache } now key).Runs
        (turns.filterMap (·.since? dialogue.session.generation)) fresh ∧
      last.session.view = fresh.session.view ∧
      last.session.series = fresh.session.series ∧
      last.session.converter.cache = fresh.session.converter.cache := by
  have follows := reachable.numbered.follows_renewed resets now
  rw [reachable.converter_eq] at follows
  obtain ⟨fresh, freshRun, alike⟩ := follows.run run
  refine ⟨fresh, freshRun, ?_, ?_, ?_⟩
  · simp [Session.view, alike.session, Session.shift]
  · rw [alike.session]
    rfl
  · rw [alike.session]
    rfl

/-- A conversion of `7` is given up and one of `5` asked for. The late outcome of the first
is left out of the fresh run, which has three turns, and shows the same. -/
theorem run_renewed_late :
    let euro : Converter := ⟨"EUR".toList, ⟨28800, 0⟩, none⟩
    let dollar : Text := "USD".toList
    let pound : Text := "GBP".toList
    let rates := (Rates.empty.insert dollar 3).insert pound 2
    let reply : RatesReply Float := ⟨true, euro.base, rates⟩
    let seven := (start euro).after ⟨0, .press (.digit 7)⟩
    let old := seven.session.request dollar
    let asked := seven.after ⟨0, .convert dollar⟩
    let five := (asked.after ⟨1, .press .clear⟩).after ⟨2, .press (.digit 5)⟩
    let new := five.session.request pound
    let turns : List Turn :=
      [⟨2, .press (.digit 5)⟩, ⟨2, .convert pound⟩, ⟨4, .arrive old (.ok reply)⟩,
        ⟨5, .arrive new (.ok reply)⟩]
    let last := ((five.after ⟨2, .convert pound⟩).after ⟨4, .arrive old (.ok reply)⟩).after
      ⟨5, .arrive new (.ok reply)⟩
    let sinceClear := turns.filterMap (·.since? asked.session.generation)
    last.session.display.buffer = "10.00 GBP".toList ∧ sinceClear.length = 3 ∧
      ∃ fresh,
        (renewed { euro with cache := asked.session.converter.cache } 1 .clear).Runs
          sinceClear fresh ∧
        last.session.view = fresh.session.view ∧ last.session.series = fresh.session.series ∧
        last.session.converter.cache = fresh.session.converter.cache := by
  intro euro dollar pound rates reply seven old asked five new turns last sinceClear
  have asks : seven.session.convert dollar 0 = (seven.session.await, some old) :=
    Session.convert_of_not_fresh rfl (by decide +kernel) rfl
  have asksAgain : five.session.convert pound 2 = (five.session.await, some new) :=
    Session.convert_of_not_fresh (by decide +kernel) (by decide +kernel)
      (Option.isNone_iff_eq_none.1 (by decide +kernel))
  have started : old ∈ asked.outstanding := mem_outstanding_after (congrArg Prod.snd asks)
  have givenUp : old ∈ five.outstanding :=
    mem_outstanding_after_of_leaves (mem_outstanding_after_of_leaves started rfl) rfl
  have oldOutstanding : old ∈ (five.after ⟨2, .convert pound⟩).outstanding :=
    mem_outstanding_after_of_leaves givenUp rfl
  have startedAgain : new ∈ (five.after ⟨2, .convert pound⟩).outstanding :=
    mem_outstanding_after (congrArg Prod.snd asksAgain)
  have different : (Command.arrive old (.ok reply)).leaves new := by decide +kernel
  have newOutstanding : new ∈ ((five.after ⟨2, .convert pound⟩).after
      ⟨4, .arrive old (.ok reply)⟩).outstanding :=
    mem_outstanding_after_of_leaves startedAgain different
  have reachable : Reachable euro asked :=
    ⟨_, (Runs.refl.step ⟨0, .press (.digit 7)⟩ trivial).step ⟨0, .convert dollar⟩ trivial⟩
  have run : (asked.after ⟨1, .press .clear⟩).Runs turns last :=
    (((Runs.refl.step ⟨2, .press (.digit 5)⟩ trivial).step ⟨2, .convert pound⟩ trivial).step
      ⟨4, .arrive old (.ok reply)⟩ oldOutstanding).step ⟨5, .arrive new (.ok reply)⟩ newOutstanding
  refine ⟨by decide +kernel, by decide +kernel, ?_⟩
  exact reachable.run_renewed (.inl rfl) 1 run

end Dialogue

end Keypad
