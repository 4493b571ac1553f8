import Keypad.Proofs.Display.Soundness
import Keypad.Proofs.Session.Settling

/-!
# Sessions that are only typed on

As long as nobody asks for a conversion, a session is its display: no request is ever in
flight, no key is dropped, and what a key asks of the currency conversion changes nothing
that is shown. So a client that types keys and waits until the session has settled gets the
display that the same keys lead to one after the other, whatever its turns and the turns of
the session were (`Hub.HasTyped.eq_ok`). It is not left without an answer either: every list
of keys has a run in which the call returns (`Hub.exists_hasTyped_of_pressAll`), and only a
session that has stopped turns a call away.
-/

namespace Keypad

namespace Session

/-- No key starts a request. -/
theorem inFlight_press {session : Session} (idle : session.inFlight = none) (key : Key) :
    (session.press key).inFlight = none := by
  unfold press
  split
  · exact idle
  · split
    · exact idle
    · rfl
    · exact idle

/-- Without a request in flight, a key that the display takes shows the display after it. -/
theorem display_press {session : Session} (idle : session.inFlight = none) {key : Key}
    {display : Display} {signal : Option Signal}
    (pressed : session.display.press key = .ok (display, signal)) :
    (session.press key).display = display := by
  have notBusy : ¬(session.inFlight.isSome ∧ key ≠ .clear) := by simp [idle]
  rw [press, if_neg notBusy, pressed]
  cases signal with
  | none => rfl
  | some signal => cases signal <;> rfl

/-- Keys show on a session what they show on its display. -/
theorem handleAll_presses {session : Session} (idle : session.inFlight = none)
    (sound : session.display.Sound) {turns : List Turn} {keys : List Key}
    (presses : turns.map (·.command) = keys.map .press) :
    session.display.pressAll keys = .ok (session.handleAll turns).1.display := by
  induction keys generalizing session turns with
  | nil =>
      cases List.map_eq_nil_iff.1 presses
      rfl
  | cons key keys inductionHypothesis =>
      obtain ⟨turn, later, rfl, first, rest⟩ := List.map_eq_cons_iff.1 presses
      obtain ⟨now, _⟩ := turn
      cases first
      obtain ⟨display, signal, pressed, soundNext⟩ := sound.press key
      rw [Display.pressAll_cons pressed]
      rw [← display_press idle pressed] at soundNext ⊢
      exact inductionHypothesis (inFlight_press idle key) soundNext rest

end Session

/-- Whether a letter asks for a conversion. -/
def Letter.isConversion : Letter → Bool
  | .convert _ => true
  | _ => false

/-- Nothing but a conversion starts a request. -/
theorem Session.started_eq_none {letter : Letter} (other : letter.isConversion = false)
    (session : Session) (now : Moment) : (session.handle now letter.command).2 = none := by
  cases letter with
  | convert => cases other
  | _ => rfl

namespace Hub

/-- What clients have put into the queue: the letters that do not come from a task. -/
def posted (hub : Hub) : List Letter :=
  hub.sent.filter (!·.isReport)

/-- Without a conversion there is no task, and nothing comes from one. -/
theorem Runs.sent_eq_posted {converter : Converter} {hub : Hub} {events : List Event}
    (run : (start converter).Runs events hub)
    (noConversion : ∀ letter ∈ hub.sent, letter.isConversion = false) :
    hub.tasks = [] ∧ hub.posted = hub.sent := by
  suffices quiet : hub.tasks = [] ∧ ∀ letter ∈ hub.sent, letter.isReport = false by
    refine ⟨quiet.1, List.filter_eq_self.2 fun letter member => ?_⟩
    simp [quiet.2 letter member]
  induction run with
  | refl => exact ⟨rfl, nofun⟩
  | @step events hub prior event allowed inductionHypothesis =>
      obtain ⟨noTasks, noReports⟩ := inductionHypothesis fun letter member =>
        noConversion letter ((sent_prefix_after hub event).subset member)
      cases event with
      | clone | drop | publish | stop | read | close => exact ⟨noTasks, noReports⟩
      | lose request =>
          rw [Allows, noTasks] at allowed
          cases allowed.1
      | report request outcome =>
          rw [Allows, noTasks] at allowed
          cases allowed.1
      | send letter =>
          refine ⟨noTasks, fun other member => ?_⟩
          rcases List.mem_append.1 member with earlier | last
          · exact noReports other earlier
          · have order := allowed.2
            rw [List.mem_singleton.1 last]
            cases letter with
            | report => cases order
            | _ => rfl
      | call number =>
          refine ⟨noTasks, fun other member => ?_⟩
          rcases List.mem_append.1 member with earlier | last
          · exact noReports other earlier
          · rw [List.mem_singleton.1 last]
            rfl
      | handle now letter =>
          have inOrder := ((Sound.start converter).run prior).inOrder
          have waits : letter ∈ hub.sent := by
            rw [inOrder]
            exact List.mem_append_right _ (List.mem_of_mem_head? allowed.1)
          have silent := Session.started_eq_none
            (noConversion letter ((sent_prefix_after hub _).subset waits)) hub.session now
          have tasks : (hub.deliver now letter).tasks = [] := by
            simp [deliver, noTasks, silent]
          cases letter <;> exact ⟨tasks, noReports⟩

/-- All that clients did at a hub was to type keys and then to make a call. -/
def HasTyped (hub : Hub) (converter : Converter) (keys : List Key) (number : Nat) : Prop :=
  ∃ events, (start converter).Runs events hub ∧
    hub.posted = keys.map .press ++ [.inquiry number]

/-- A client that types keys and then waits gets the display that the keys lead to. -/
theorem HasTyped.pressAll_eq_ok {converter : Converter} {hub : Hub} {keys : List Key}
    {number : Nat} (typed : hub.HasTyped converter keys number) {display : Display}
    (returned : hub.calls number = .returned (.ok display)) :
    Display.initial.pressAll keys = .ok display := by
  obtain ⟨events, run, posted⟩ := typed
  have noConversion (letter : Letter) (member : letter ∈ hub.sent) :
      letter.isConversion = false := by
    cases letter with
    | convert target =>
        have among : Letter.convert target ∈ hub.posted := List.mem_filter.2 ⟨member, rfl⟩
        simp [posted] at among
    | _ => rfl
  have sent : hub.sent = keys.map .press ++ [.inquiry number] :=
    (run.sent_eq_posted noConversion).2.symm.trans posted
  have begins := Sound.start converter
  have informed : Informed (start converter) events hub number := .run begins (.inl rfl) run
  obtain ⟨first, rest, moment, -, reaches, leads, asked, shows, -⟩ :=
    informed.returned display returned
  have sound := begins.run reaches
  -- What was handled by then is all that was sent, because the inquiry was sent last.
  have handled : moment.letters = keys.map .press ++ [.inquiry number] := by
    have early : moment.letters <+: keys.map .press ++ [.inquiry number] :=
      sent ▸ List.IsPrefix.trans ⟨moment.queue, sound.inOrder.symm⟩ leads.sent_prefix
    rcases List.prefix_concat_iff.1 early with whole | before
    · exact whole
    · have among := before.subset asked
      simp at among
  obtain ⟨presses, last, split, pressed, asking⟩ := List.map_eq_append_iff.1 handled
  obtain ⟨inquiry, rfl, isInquiry⟩ := List.map_eq_singleton_iff.1 asking
  have session : moment.session =
      ((Session.start converter).handleAll (presses.map (·.turn))).1 := by
    rw [sound.replayed, split, List.map_append, List.map_singleton, Session.handleAll_concat,
      Delivery.turn, isInquiry]
    rfl
  have commands : (presses.map (·.turn)).map (·.command) = keys.map .press := by
    have letters := congrArg (List.map Letter.command) pressed
    simpa [Function.comp_def, Delivery.turn, Letter.command] using letters
  have typed : Display.initial.pressAll keys = .ok moment.session.display := by
    have idle : (Session.start converter).inFlight = none := rfl
    rw [session]
    exact Session.handleAll_presses idle Display.sound_initial commands
  have shown : moment.session.display = display := congrArg View.display shows
  rw [typed, shown]

/-- A call is turned away only by a session that has stopped. -/
theorem Runs.stopped_of_closed {converter : Converter} {hub : Hub} {events : List Event}
    (run : (start converter).Runs events hub) {number : Nat} {fault : SessionFault}
    (closed : hub.calls number = .returned (.error fault)) : hub.stopped := by
  induction run with
  | refl => cases closed
  | @step events hub _ event allowed inductionHypothesis =>
      cases event with
      | clone | drop | send | report | lose | publish => exact inductionHypothesis closed
      | stop => rfl
      | close => exact allowed.1
      | call other | read other =>
          by_cases same : number = other
          · subst same
            cases (calls_advance hub number _).symm.trans closed
          · exact inductionHypothesis ((calls_advance_of_ne hub same _).symm.trans closed)
      | handle now letter =>
          cases letter with
          | inquiry other =>
              by_cases same : number = other
              · subst same
                cases (calls_advance (hub.deliver now _) number _).symm.trans closed
              · exact inductionHypothesis ((calls_advance_of_ne _ same _).symm.trans closed)
          | _ => exact inductionHypothesis closed

/-- Nothing is under way at a hub, and no call has been made there. -/
structure Rests (hub : Hub) : Prop where
  held : 0 < hub.handles
  handled : hub.queue = []
  published : hub.publishing = false
  goes : hub.stopped = false
  idle : hub.session.inFlight = none
  uncalled : ∀ number, hub.calls number = .unmade

theorem Rests.accepts {hub : Hub} (rests : hub.Rests) : hub.Accepts :=
  ⟨rests.held, by rw [rests.handled]; decide, rests.goes⟩

/-- A client can wait after each key until it is handled. -/
theorem exists_runs_presses (converter : Converter) (keys : List Key) :
    ∃ events hub, (start converter).Runs events hub ∧ hub.sent = keys.map .press ∧
      hub.Rests := by
  induction keys using List.reverseRecOn with
  | nil => exact ⟨[], start converter, .refl, rfl, Nat.one_pos, rfl, rfl, rfl, rfl, fun _ => rfl⟩
  | append_singleton keys key inductionHypothesis =>
      obtain ⟨events, hub, run, sent, rests⟩ := inductionHypothesis
      have sending := run.step (.send (.press key)) ⟨rests.accepts, rfl⟩
      have handling := sending.step (.handle 0 (.press key))
        ⟨by simp [after, post, rests.handled], rests.published, rests.goes⟩
      refine ⟨_, _, handling.step .publish rfl, ?_, ?_⟩
      · change hub.sent ++ [.press key] = (keys ++ [key]).map .press
        rw [sent, List.map_append, List.map_singleton]
      · exact {
          held := rests.held
          handled := by simp [after, post, deliver, answer, rests.handled]
          published := rfl
          goes := rests.goes
          idle := Session.inFlight_press rests.idle key
          uncalled := rests.uncalled }

/-- A client that types keys and then waits can get an answer. -/
theorem exists_hasTyped (converter : Converter) (keys : List Key) :
    ∃ hub number display, HasTyped hub converter keys number ∧
      hub.calls number = .returned (.ok display) := by
  obtain ⟨events, hub, run, sent, rests⟩ := exists_runs_presses converter keys
  have calling := run.step (.call 0) ⟨rests.accepts, rests.uncalled 0⟩
  have handling := calling.step (.handle 0 (.inquiry 0))
    ⟨by simp [after, post, advance, rests.handled], rests.published, rests.goes⟩
  have publishing := handling.step .publish rfl
  have idle : hub.session.view.converting = false := by
    simp [Session.view, rests.idle]
  have watching : ((hub.after (.call 0)).after (.handle 0 (.inquiry 0))).calls 0 = .watching :=
    calls_advance ((hub.after (.call 0)).deliver 0 (.inquiry 0)) 0 .watching
  have reading := publishing.step (.read 0) ⟨watching, idle⟩
  refine ⟨_, 0, _, ⟨_, reading, ?_⟩, calls_advance ..⟩
  change (hub.sent ++ [Letter.inquiry 0]).filter (!·.isReport) = _
  rw [sent, List.filter_eq_self]
  intro letter member
  simp only [List.mem_append, List.mem_map, List.mem_singleton] at member
  rcases member with ⟨key, -, rfl⟩ | rfl <;> rfl

section Pressed

variable {converter : Converter} {keys : List Key} {display : Display}
  (pressed : Display.initial.pressAll keys = .ok display)

include pressed

/-- The display that keys lead to is an answer that a client can get. -/
theorem exists_hasTyped_of_pressAll (converter : Converter) :
    ∃ hub number, HasTyped hub converter keys number ∧
      hub.calls number = .returned (.ok display) := by
  obtain ⟨hub, number, shown, typed, returned⟩ := exists_hasTyped converter keys
  cases pressed.symm.trans (typed.pressAll_eq_ok returned)
  exact ⟨hub, number, typed, returned⟩

/-- It is the only answer that a client gets, unless the session has stopped. -/
theorem HasTyped.eq_ok {hub : Hub} {number : Nat} (typed : hub.HasTyped converter keys number)
    (goes : hub.stopped = false) {answer : Except SessionFault Display}
    (returned : hub.calls number = .returned answer) : answer = .ok display := by
  cases answer with
  | ok shown =>
      cases pressed.symm.trans (typed.pressAll_eq_ok returned)
      rfl
  | error fault =>
      obtain ⟨events, run, -⟩ := typed
      cases (run.stopped_of_closed returned).symm.trans goes

end Pressed

end Hub

end Keypad
