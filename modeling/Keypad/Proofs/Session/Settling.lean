import Keypad.Proofs.Session.Mailbox
import Keypad.Proofs.Session.Waiting
import Keypad.Session.Handle
import Mathlib.Logic.Function.Basic

/-!
# Waiting until a session has settled

A hub is a session with all that stands around it: the queue, the tasks, the view that was
published last, and the calls of clients that wait until the session has settled. Such a
call puts an inquiry into the queue. Once the inquiry has been handled, it watches the
published view and returns the first display it finds there without a request in flight.

Handling a letter and publishing the view after it are two steps, and a call may look at the
view between them. `Sound` says what is published then: the view of the session before the
letter. That is enough for a call, because an inquiry changes nothing, so the view that
stands when an inquiry is handled tells of everything that was put in the queue before it.

A mailbox is a hub without views and calls; what is said of handles, tasks and the length of
the queue there holds here too.
-/

namespace Keypad

/-- What is put into the queue of a session. -/
inductive Letter where
  | press (key : Key)
  | convert (target : Text)
  | dismissPicker
  /-- The outcome of a request, from its task. -/
  | report (request : Request) (outcome : Except ConversionFault (RatesReply Float))
  /-- The question of a call whether all that came before it has been handled. -/
  | inquiry (call : Nat)

namespace Letter

/-- The command that a letter brings. -/
def command : Letter → Command
  | .press key => .press key
  | .convert target => .convert target
  | .dismissPicker => .dismissPicker
  | .report request outcome => .arrive request outcome
  | .inquiry _ => .sync

/-- Whether a letter asks for something on behalf of a client. -/
def isOrder : Letter → Bool
  | .press _ | .convert _ | .dismissPicker => true
  | .report _ _ | .inquiry _ => false

/-- Whether a letter comes from a task. -/
def isReport : Letter → Bool
  | .report _ _ => true
  | _ => false

end Letter

/-- A letter, and the time at which it was handled. -/
structure Delivery where
  now : Moment
  letter : Letter

/-- The turn in which a letter was handled. -/
def Delivery.turn (delivery : Delivery) : Turn :=
  ⟨delivery.now, delivery.letter.command⟩

/-- How far a call has come. -/
inductive Stage where
  | unmade
  /-- Its inquiry waits in the queue. -/
  | inquiring
  /-- Its inquiry has been handled, and it waits for a view without a request in flight. -/
  | watching
  | returned (answer : Except SessionFault Display)
deriving DecidableEq

/-- A session with its queue, its tasks, the view it published last and the calls of its
clients. What was sent and what was handled is kept from the start. -/
structure Hub where
  session : Session
  /-- The view that clients see. -/
  published : View
  /-- A letter has been handled, and the view after it is not published yet. -/
  publishing : Bool
  tasks : List Request
  /-- The letters that wait for the session, the next one in front. -/
  queue : List Letter
  /-- All letters that were ever put into the queue, in that order. -/
  sent : List Letter
  /-- All letters that were handled, in that order. -/
  handled : List Delivery
  handles : Nat
  calls : Nat → Stage
  stopped : Bool

/-- The last of several turns is taken on what the others led to. -/
theorem Session.handleAll_concat (session : Session) (turns : List Turn) (turn : Turn) :
    (session.handleAll (turns ++ [turn])).1 =
      ((session.handleAll turns).1.handle turn.now turn.command).1 := by
  induction turns generalizing session with
  | nil => rfl
  | cons first turns inductionHypothesis => exact inductionHypothesis _

namespace Hub

/-- What can happen at a hub. -/
inductive Event where
  | clone
  | drop
  /-- A client puts a letter into the queue. -/
  | send (letter : Letter)
  /-- A client makes a call, which puts its inquiry into the queue. -/
  | call (number : Nat)
  /-- A task puts the outcome of its request into the queue. -/
  | report (request : Request) (outcome : Except ConversionFault (RatesReply Float))
  /-- A task finds the queue gone. -/
  | lose (request : Request)
  /-- The session takes the next letter out of the queue and handles it. -/
  | handle (now : Moment) (letter : Letter)
  /-- The session publishes its view. -/
  | publish
  /-- The session stops, because nobody holds a handle any more or from outside. -/
  | stop
  /-- A call finds a view without a request in flight and returns its display. -/
  | read (number : Nat)
  /-- A call finds that the session has stopped. -/
  | close (number : Nat)

/-- The hub of a session on which nothing has been done, with its first handle. -/
def start (converter : Converter) : Hub where
  session := .start converter
  published := (Session.start converter).view
  publishing := false
  tasks := []
  queue := []
  sent := []
  handled := []
  handles := 1
  calls _ := .unmade
  stopped := false

/-- The letters that were handled. -/
def letters (hub : Hub) : List Letter :=
  hub.handled.map (·.letter)

/-- Whether a client can put a letter into the queue. -/
def Accepts (hub : Hub) : Prop :=
  0 < hub.handles ∧ hub.queue.length < Mailbox.capacity ∧ hub.stopped = false

instance (hub : Hub) : Decidable hub.Accepts :=
  inferInstanceAs (Decidable (_ ∧ _ ∧ _))

/-- Whether something can happen. -/
def Allows (hub : Hub) : Event → Prop
  | .clone | .drop => 0 < hub.handles
  | .send letter => hub.Accepts ∧ letter.isOrder
  | .call number => hub.Accepts ∧ hub.calls number = .unmade
  | .report request _ =>
      request ∈ hub.tasks ∧ hub.queue.length < Mailbox.capacity ∧ hub.stopped = false
  | .lose request => request ∈ hub.tasks ∧ (hub.handles = 0 ∨ hub.stopped)
  | .handle _ letter =>
      hub.queue.head? = some letter ∧ hub.publishing = false ∧ hub.stopped = false
  | .publish => hub.publishing
  | .stop => hub.publishing = false
  | .read number => hub.calls number = .watching ∧ hub.published.converting = false
  | .close number => hub.stopped ∧
      (hub.calls number = .unmade ∨ hub.calls number = .inquiring ∨
        hub.calls number = .watching ∧ hub.published.converting)

/-- The hub with one more letter in its queue. -/
def post (hub : Hub) (letter : Letter) : Hub :=
  { hub with queue := hub.queue ++ [letter], sent := hub.sent ++ [letter] }

/-- The hub with a call at another stage. -/
def advance (hub : Hub) (number : Nat) (stage : Stage) : Hub :=
  { hub with calls := Function.update hub.calls number stage }

/-- The hub without the task of a request. -/
def dismiss (hub : Hub) (request : Request) : Hub :=
  { hub with tasks := hub.tasks.filter (·.generation != request.generation) }

/-- The hub whose session has handled the letter in front of the queue. -/
def deliver (hub : Hub) (now : Moment) (letter : Letter) : Hub :=
  { hub with
    session := (hub.session.handle now letter.command).1
    publishing := true
    tasks := hub.tasks ++ (hub.session.handle now letter.command).2.toList
    queue := hub.queue.tail
    handled := hub.handled ++ [⟨now, letter⟩] }

/-- The hub after a letter has been handled: the call that an inquiry belongs to is told. -/
def answer (hub : Hub) : Letter → Hub
  | .inquiry number => hub.advance number .watching
  | _ => hub

/-- The hub after something has happened. -/
def after (hub : Hub) : Event → Hub
  | .clone => { hub with handles := hub.handles + 1 }
  | .drop => { hub with handles := hub.handles - 1 }
  | .send letter => hub.post letter
  | .call number => (hub.advance number .inquiring).post (.inquiry number)
  | .report request outcome => (hub.post (.report request outcome)).dismiss request
  | .lose request => hub.dismiss request
  | .handle now letter => (hub.deliver now letter).answer letter
  | .publish => { hub with published := hub.session.view, publishing := false }
  | .stop => { hub with stopped := true }
  | .read number => hub.advance number (.returned (.ok hub.published.display))
  | .close number => hub.advance number (.returned (.error .closed))

/-- The hubs that events lead to, one event after the other. -/
inductive Runs (initial : Hub) : List Event → Hub → Prop where
  | refl : Runs initial [] initial
  | step {events : List Event} {hub : Hub} (prior : Runs initial events hub) (event : Event)
      (allowed : hub.Allows event) : Runs initial (events ++ [event]) (hub.after event)

/-- The queue hands out the letters as they were put in. Between two letters the view of the
session is published; a call that was not made has sent no inquiry; and the session is what
the letters made of it. -/
structure Sound (converter : Converter) (hub : Hub) : Prop where
  inOrder : hub.sent = hub.letters ++ hub.queue
  current : hub.publishing = false → hub.published = hub.session.view
  unasked : ∀ number, hub.calls number = .unmade → .inquiry number ∉ hub.sent
  replayed :
    hub.session = ((Session.start converter).handleAll (hub.handled.map (·.turn))).1

@[simp] theorem calls_advance (hub : Hub) (number : Nat) (stage : Stage) :
    (hub.advance number stage).calls number = stage :=
  Function.update_self ..

theorem calls_advance_of_ne (hub : Hub) {number other : Nat} (different : other ≠ number)
    (stage : Stage) : (hub.advance number stage).calls other = hub.calls other :=
  Function.update_of_ne different ..

@[simp] theorem letters_answer (hub : Hub) (letter : Letter) :
    (hub.answer letter).letters = hub.letters := by
  cases letter <;> rfl

@[simp] theorem letters_deliver (hub : Hub) (now : Moment) (letter : Letter) :
    (hub.deliver now letter).letters = hub.letters ++ [letter] := by
  simp [letters, deliver]

/-- What was handled stays handled. -/
theorem letters_prefix_after (hub : Hub) (event : Event) :
    hub.letters <+: (hub.after event).letters := by
  cases event with
  | handle now letter =>
      change hub.letters <+: ((hub.deliver now letter).answer letter).letters
      simp
  | _ => exact List.prefix_rfl

/-- What was sent stays sent. -/
theorem sent_prefix_after (hub : Hub) (event : Event) : hub.sent <+: (hub.after event).sent := by
  cases event with
  | send | call | report => exact List.prefix_append _ _
  | handle now letter => cases letter <;> exact List.prefix_rfl
  | _ => exact List.prefix_rfl

theorem Runs.sent_prefix {initial hub : Hub} {events : List Event}
    (run : initial.Runs events hub) : initial.sent <+: hub.sent := by
  induction run with
  | refl => exact List.prefix_rfl
  | step _ event _ inductionHypothesis =>
      exact inductionHypothesis.trans (sent_prefix_after _ event)

namespace Sound

theorem start (converter : Converter) : (start converter).Sound converter where
  inOrder := rfl
  current _ := rfl
  unasked _ _ := List.not_mem_nil
  replayed := rfl

variable {converter : Converter} {hub : Hub} (sound : hub.Sound converter)

include sound

/-- Another letter waits behind the others. -/
theorem post {letter : Letter}
    (asked : ∀ number, letter = .inquiry number → hub.calls number ≠ .unmade) :
    (hub.post letter).Sound converter where
  inOrder := by
    change hub.sent ++ [letter] = hub.letters ++ (hub.queue ++ [letter])
    rw [sound.inOrder, List.append_assoc]
  current := sound.current
  unasked := by
    intro number unmade member
    rcases List.mem_append.1 member with earlier | last
    · exact sound.unasked number unmade earlier
    · exact asked number (List.mem_singleton.1 last).symm unmade
  replayed := sound.replayed

/-- A call that has moved on is no longer unmade. -/
theorem advance {number : Nat} {stage : Stage} (made : stage ≠ .unmade) :
    (hub.advance number stage).Sound converter where
  inOrder := sound.inOrder
  current := sound.current
  unasked := by
    intro other unmade
    by_cases same : other = number
    · subst same
      exact absurd ((calls_advance ..).symm.trans unmade) made
    · exact sound.unasked other ((calls_advance_of_ne hub same stage).symm.trans unmade)
  replayed := sound.replayed

/-- The letter in front moves from what waits to what was handled. -/
theorem deliver {letter : Letter} (first : hub.queue.head? = some letter) (now : Moment) :
    (hub.deliver now letter).Sound converter where
  inOrder := by
    obtain ⟨rest, queue⟩ := List.head?_eq_some_iff.1 first
    rw [letters_deliver]
    simp [Hub.deliver, sound.inOrder, queue]
  current := nofun
  unasked := sound.unasked
  replayed := by
    change (hub.session.handle now letter.command).1 =
      ((Session.start converter).handleAll
        ((hub.handled ++ [Delivery.mk now letter]).map (·.turn))).1
    rw [List.map_append, List.map_singleton, Session.handleAll_concat, ← sound.replayed]
    rfl

theorem after {event : Event} (allowed : hub.Allows event) : (hub.after event).Sound converter := by
  cases event with
  | clone | drop | lose | stop =>
      exact ⟨sound.inOrder, sound.current, sound.unasked, sound.replayed⟩
  | send letter =>
      refine sound.post ?_
      rintro number rfl
      cases allowed.2
  | call number =>
      have advanced : (hub.advance number .inquiring).Sound converter := sound.advance nofun
      refine advanced.post ?_
      rintro _ ⟨⟩ unmade
      cases (calls_advance ..).symm.trans unmade
  | report request outcome =>
      have posted : (hub.post (.report request outcome)).Sound converter := sound.post nofun
      exact ⟨posted.inOrder, posted.current, posted.unasked, posted.replayed⟩
  | handle now letter =>
      have delivered := sound.deliver allowed.1 now
      cases letter with
      | inquiry number => exact delivered.advance nofun
      | _ => exact delivered
  | publish => exact ⟨sound.inOrder, fun _ => rfl, sound.unasked, sound.replayed⟩
  | read | close => exact sound.advance nofun

theorem run {final : Hub} {events : List Event} (run : hub.Runs events final) :
    final.Sound converter := by
  induction run with
  | refl => exact sound
  | step _ event allowed inductionHypothesis => exact inductionHypothesis.after allowed

end Sound

/-- On the way to a hub there was a moment at which a view was both published and the view of
the session, and at which the inquiry of a call had been handled. -/
def Showed (initial : Hub) (events : List Event) (hub : Hub) (number : Nat) (view : View) : Prop :=
  ∃ first rest moment, events = first ++ rest ∧ initial.Runs first moment ∧ moment.Runs rest hub ∧
    .inquiry number ∈ moment.letters ∧ moment.session.view = view ∧ moment.published = view

namespace Showed

variable {initial hub : Hub} {events : List Event} {number : Nat} {view : View}

theorem step (showed : Showed initial events hub number view) {event : Event}
    (allowed : hub.Allows event) :
    Showed initial (events ++ [event]) (hub.after event) number view := by
  obtain ⟨first, rest, moment, rfl, before, after, asked, shows⟩ := showed
  exact ⟨first, rest ++ [event], moment, List.append_assoc .., before, after.step event allowed,
    asked, shows⟩

theorem now (run : initial.Runs events hub) (asked : .inquiry number ∈ hub.letters)
    (current : hub.published = hub.session.view) :
    Showed initial events hub number hub.published :=
  ⟨events, [], hub, (List.append_nil _).symm, run, .refl, asked, current.symm, rfl⟩

theorem mem_letters (showed : Showed initial events hub number view) :
    .inquiry number ∈ hub.letters := by
  obtain ⟨first, rest, moment, -, -, after, asked, -⟩ := showed
  clear first
  induction after with
  | refl => exact asked
  | step _ event _ inductionHypothesis =>
      exact (letters_prefix_after _ event).subset inductionHypothesis

end Showed

/-- What a call has to go by: while it watches, what is published was once the view of the
session after its inquiry, and what it has returned was so too. -/
structure Informed (initial : Hub) (events : List Event) (hub : Hub) (number : Nat) : Prop where
  watching : hub.calls number = .watching →
    Showed initial events hub number hub.published
  returned : ∀ display, hub.calls number = .returned (.ok display) →
    Showed initial events hub number ⟨display, false⟩

namespace Informed

variable {initial hub : Hub} {events : List Event} {number : Nat}

/-- Nothing is promised at a stage at which a call has found no view. -/
theorem of_stage {stage : Stage} (reached : hub.calls number = stage) (unseen : stage ≠ .watching)
    (unanswered : ∀ display, stage ≠ .returned (.ok display)) :
    Informed initial events hub number where
  watching watches := absurd (reached.symm.trans watches) unseen
  returned display answered := absurd (reached.symm.trans answered) (unanswered display)

/-- An event that neither moves the call nor publishes a view. -/
theorem unmoved (informed : Informed initial events hub number) {event : Event}
    (allowed : hub.Allows event) (stage : (hub.after event).calls number = hub.calls number)
    (published : (hub.after event).published = hub.published) :
    Informed initial (events ++ [event]) (hub.after event) number where
  watching watches := by
    rw [published]
    exact (informed.watching (stage.symm.trans watches)).step allowed
  returned display answered := (informed.returned display (stage.symm.trans answered)).step allowed

theorem after {converter : Converter} (sound : hub.Sound converter)
    (run : initial.Runs events hub) (informed : Informed initial events hub number) {event : Event}
    (allowed : hub.Allows event) :
    Informed initial (events ++ [event]) (hub.after event) number := by
  have next := run.step event allowed
  cases event with
  | clone | drop | send | report | lose | stop => exact informed.unmoved allowed rfl rfl
  | publish =>
      refine ⟨fun watches => ?_, fun display answered => ?_⟩
      · exact .now next (informed.watching watches).mem_letters rfl
      · exact (informed.returned display answered).step allowed
  | handle now letter =>
      cases letter with
      | inquiry other =>
          by_cases same : number = other
          · subst same
            have reached : (hub.after (.handle now (.inquiry number))).calls number = .watching :=
              calls_advance ..
            refine ⟨fun _ => ?_, fun _ answered => ?_⟩
            · -- The inquiry changes nothing, so the view published before it is still current.
              exact .now next (by simp [Hub.after]) (sound.current allowed.2.1)
            · cases reached.symm.trans answered
          · exact informed.unmoved allowed (calls_advance_of_ne _ same _) rfl
      | _ => exact informed.unmoved allowed rfl rfl
  | call other =>
      by_cases same : number = other
      · subst same
        exact of_stage (calls_advance hub number .inquiring) nofun nofun
      · exact informed.unmoved allowed (calls_advance_of_ne hub same _) rfl
  | close other =>
      by_cases same : number = other
      · subst same
        exact of_stage (calls_advance ..) nofun nofun
      · exact informed.unmoved allowed (calls_advance_of_ne hub same _) rfl
  | read other =>
      by_cases same : number = other
      · subst same
        have reached : (hub.after (.read number)).calls number =
            .returned (.ok hub.published.display) := calls_advance ..
        refine ⟨fun again => ?_, fun display answered => ?_⟩
        · cases reached.symm.trans again
        · cases reached.symm.trans answered
          rw [← allowed.2]
          exact (informed.watching allowed.1).step allowed
      · exact informed.unmoved allowed (calls_advance_of_ne hub same _) rfl

/-- A call is informed all along a run from a hub at which it had not got anywhere yet. -/
theorem run {converter : Converter} (sound : initial.Sound converter)
    (pending : initial.calls number = .unmade ∨ initial.calls number = .inquiring)
    (run : initial.Runs events hub) : Informed initial events hub number := by
  induction run with
  | refl =>
      rcases pending with unmade | inquiring
      · exact of_stage unmade nofun nofun
      · exact of_stage inquiring nofun nofun
  | step prior event allowed inductionHypothesis =>
      exact inductionHypothesis.after (sound.run prior) prior allowed

end Informed

/-- A call never returns an early display. What it returns was published while no request was
in flight, at a moment when it was what the session showed and when everything that had been
sent before the call, by its client or by any other, had been handled. -/
theorem Runs.exists_settled {converter : Converter} {hub final : Hub} {earlier later : List Event}
    (before : (start converter).Runs earlier hub) {number : Nat} (asks : hub.Allows (.call number))
    (after : (hub.after (.call number)).Runs later final) {display : Display}
    (returned : final.calls number = .returned (.ok display)) :
    ∃ first rest moment, later = first ++ rest ∧
      (hub.after (.call number)).Runs first moment ∧ moment.Runs rest final ∧
      hub.sent <+: moment.letters ∧ moment.session.view = ⟨display, false⟩ ∧
      moment.published = ⟨display, false⟩ := by
  have sound := (Sound.start converter).run before
  have soundCall := sound.after asks
  have informed := Informed.run soundCall (.inr (calls_advance hub number _)) after
  obtain ⟨first, rest, moment, split, reaches, leads, asked, shows⟩ :=
    informed.returned display returned
  refine ⟨first, rest, moment, split, reaches, leads, ?_, shows⟩
  have sent : hub.sent <+: moment.sent := (sent_prefix_after hub _).trans reaches.sent_prefix
  have handled : moment.letters <+: moment.sent :=
    ⟨moment.queue, (soundCall.run reaches).inOrder.symm⟩
  -- Both are beginnings of one list, and the inquiry is in one of them only.
  rcases List.prefix_or_prefix_of_prefix sent handled with earlier | shorter
  · exact earlier
  · exact absurd (shorter.subset asked) (sound.unasked number asks.2)

/-- `7` is to be converted, and then a call is made. Its inquiry is handled while the request
is in flight, and another client types `5` meanwhile. The call returns the converted amount. -/
theorem exists_settled_busy :
    let euro : Converter := ⟨"EUR".toList, ⟨28800, 0⟩, none⟩
    let dollar : Text := "USD".toList
    let reply : RatesReply Float := ⟨true, euro.base, Rates.empty.insert dollar 3⟩
    let request := ((Session.start euro).press (.digit 7)).request dollar
    let typed := ((start euro).after .clone).after (.send (.press (.digit 7)))
    let seven := (typed.after (.handle 0 (.press (.digit 7)))).after .publish
    let hub := (seven.after (.send (.convert dollar))).after (.handle 1 (.convert dollar))
    let asked := ((hub.after (.call 0)).after .publish).after (.handle 2 (.inquiry 0))
    let five := (asked.after .publish).after (.send (.press (.digit 5)))
    let busy := (five.after (.handle 3 (.press (.digit 5)))).after .publish
    let reported := busy.after (.report request (.ok reply))
    let shown := (reported.after (.handle 4 (.report request (.ok reply)))).after .publish
    let final := shown.after (.read 0)
    let display := shown.published.display
    busy.published.converting ∧ final.calls 0 = .returned (.ok display) ∧
      display.buffer = "21.00 USD".toList ∧
      ∃ later first rest, ∃ moment : Hub, (hub.after (.call 0)).Runs later final ∧
        later = first ++ rest ∧ moment.Runs rest final ∧ hub.sent <+: moment.letters ∧
        moment.session.view = ⟨display, false⟩ ∧ moment.published = ⟨display, false⟩ := by
  intro euro dollar reply request typed seven hub asked five busy reported shown final display
  have asks : seven.session.convert dollar 1 = (seven.session.await, some request) :=
    Session.convert_of_not_fresh rfl (by decide +kernel) rfl
  have tasks : hub.tasks = [request] := by
    change (seven.session.convert dollar 1).2.toList = [request]
    rw [asks]
    rfl
  have working : request ∈ busy.tasks := by
    change request ∈ hub.tasks ++ [] ++ []
    simp [tasks]
  have begins : (start euro).Runs [] (start euro) := .refl
  have typing : (start euro).Runs _ typed :=
    (begins.step .clone Nat.one_pos).step (.send (.press (.digit 7))) ⟨by decide +kernel, rfl⟩
  have sevenTyped : (start euro).Runs _ seven :=
    (typing.step (.handle 0 (.press (.digit 7))) ⟨rfl, rfl, rfl⟩).step .publish rfl
  have converting : (start euro).Runs _ hub :=
    (sevenTyped.step (.send (.convert dollar)) ⟨by decide +kernel, rfl⟩).step
      (.handle 1 (.convert dollar)) ⟨rfl, rfl, rfl⟩
  have calls : hub.Allows (.call 0) := ⟨by decide +kernel, rfl⟩
  have called : (hub.after (.call 0)).Runs [] (hub.after (.call 0)) := .refl
  have asking : (hub.after (.call 0)).Runs _ asked :=
    (called.step .publish rfl).step (.handle 2 (.inquiry 0)) ⟨rfl, rfl, rfl⟩
  have typingFive : (hub.after (.call 0)).Runs _ five :=
    (asking.step .publish rfl).step (.send (.press (.digit 5))) ⟨by decide +kernel, rfl⟩
  have waiting : (hub.after (.call 0)).Runs _ busy :=
    (typingFive.step (.handle 3 (.press (.digit 5))) ⟨rfl, rfl, rfl⟩).step .publish rfl
  have reporting : (hub.after (.call 0)).Runs _ reported :=
    waiting.step (.report request (.ok reply)) ⟨working, by decide +kernel, rfl⟩
  have showing : (hub.after (.call 0)).Runs _ shown :=
    (reporting.step (.handle 4 (.report request (.ok reply))) ⟨rfl, rfl, rfl⟩).step .publish rfl
  have reading : (hub.after (.call 0)).Runs _ final :=
    showing.step (.read 0) ⟨rfl, by decide +kernel⟩
  obtain ⟨first, rest, moment, split, -, leads, handled, shows⟩ :=
    converting.exists_settled calls reading rfl
  exact ⟨by decide +kernel, rfl, by decide +kernel,
    _, first, rest, moment, reading, split, leads, handled, shows⟩

end Hub

end Keypad
