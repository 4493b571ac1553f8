import Keypad.Currency.Service
import Keypad.Session

/-!
# Sessions in time

A session together with the service it asks and a clock that moves only when it
is told to. Answers wait until the clock reaches them. A second clock stands still
and dates the rates that are kept.

The timeline records which bases were asked for and how often the view changed,
so that what happened between two moments can be read off the two timelines.
-/

namespace Keypad

/-- An answer under way. -/
structure Awaited where
  due : Nat
  request : Request
  outcome : Outcome

/-- A session with its service at one moment. -/
structure Timeline where
  session : Session
  service : Service
  /-- The milliseconds after which a request is given up. -/
  limit : Nat
  /-- The moment at which all rates are dated. -/
  date : Moment
  /-- The milliseconds passed so far. -/
  clock : Nat
  /-- The answers under way, in the order of their requests. -/
  awaited : List Awaited
  /-- The bases asked for so far. -/
  asked : List Text
  /-- How often the view changed so far. -/
  changes : Nat

namespace Timeline

/-- A timeline on which nothing has happened. -/
def start (session : Session) (service : Service) (limit : Nat) (date : Moment) : Timeline where
  session := session
  service := service
  limit := limit
  date := date
  clock := 0
  awaited := []
  asked := []
  changes := 0

/-- Sends off a request: the service is asked, and its answer is under way. -/
def send (timeline : Timeline) (request : Request) : Timeline :=
  let (answer, service) := timeline.service.ask request.base
  let bounded := answer.within timeline.limit
  { timeline with
    service := service
    asked := timeline.asked ++ [request.base]
    awaited := timeline.awaited ++ [⟨timeline.clock + bounded.delay, request, bounded.outcome⟩] }

/-- One command is handled, and the request it starts is sent off. -/
def perform (timeline : Timeline) (command : Command) : Timeline :=
  let (session, request) := timeline.session.handle timeline.date command
  let changed := session.view ≠ timeline.session.view
  let timeline :=
    { timeline with
      session := session
      changes := if changed then timeline.changes + 1 else timeline.changes }
  match request with
  | some request => timeline.send request
  | none => timeline

/-- The clock moves on to a time; the answers due by then arrive, the earliest
first and those due at once in the order of their requests. -/
def advanceTo (timeline : Timeline) (time : Nat) : Timeline :=
  let (arriving, later) := timeline.awaited.partition (·.due ≤ time)
  let moved := { timeline with clock := time, awaited := later }
  (arriving.mergeSort (·.due ≤ ·.due)).foldl
    (fun timeline answer => timeline.perform (.arrive answer.request answer.outcome)) moved

/-- Everything that needs no time happens. -/
def catchUp (timeline : Timeline) : Timeline :=
  timeline.advanceTo timeline.clock

/-- When the request in flight comes to its end; the present time if none is. -/
def settlingTime (timeline : Timeline) : Nat :=
  let inFlight := timeline.awaited.find? fun answer =>
    timeline.session.inFlight = some answer.request.generation
  match inFlight with
  | some answer => answer.due
  | none => timeline.clock

/-- The clock moves until no request is in flight. -/
def settle (timeline : Timeline) : Timeline :=
  let timeline := (timeline.perform .sync).catchUp
  timeline.advanceTo timeline.settlingTime

/-- What can be done to a session from outside. -/
inductive Action where
  | press (keys : List Key)
  | convert (target : Text)
  | dismissPicker
  | wait (millis : Nat)
  | settle

/-- The timeline after an action and all that follows from it without waiting. -/
def act (timeline : Timeline) : Action → Timeline
  | .press keys => (keys.foldl (fun timeline key => timeline.perform (.press key)) timeline).catchUp
  | .convert target => (timeline.perform (.convert target)).catchUp
  | .dismissPicker => (timeline.perform .dismissPicker).catchUp
  | .wait millis => timeline.advanceTo (timeline.clock + millis)
  | .settle => timeline.settle

/-- Handling a command takes no time. -/
@[simp] theorem clock_perform (timeline : Timeline) (command : Command) :
    (timeline.perform command).clock = timeline.clock := by
  simp only [perform]
  split <;> rfl

/-- Moving on to a time ends at that time. -/
@[simp] theorem clock_advanceTo (timeline : Timeline) (time : Nat) :
    (timeline.advanceTo time).clock = time := by
  have unmoved (answers : List Awaited) (timeline : Timeline) :
      (answers.foldl
        (fun timeline answer => timeline.perform (.arrive answer.request answer.outcome))
        timeline).clock = timeline.clock := by
    induction answers generalizing timeline with
    | nil => rfl
    | cons answer rest inductionHypothesis => simp [inductionHypothesis]
  simp [advanceTo, unmoved]

end Timeline

end Keypad
