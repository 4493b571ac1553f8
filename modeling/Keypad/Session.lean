import Keypad.Currency.Conversion
import Keypad.Display

/-!
# Sessions

A session owns a display and a converter and handles one command at a time. A
conversion that needs rates starts a request and leaves it in flight; its outcome
comes back as a command. Every request has its own generation, so an outcome that
arrives after its request was given up is recognised and dropped.

`handle` is the only transition. It does not wait for anything: the request it
starts is part of its result.
-/

namespace Keypad

/-- A request for rates, with the conversion it was started for. -/
structure Request where
  /-- What tells the request from all others of its session. -/
  generation : Nat
  base : Text
  target : Text
  amount : Float

/-- What a session is asked to do. -/
inductive Command where
  | press (key : Key)
  | convert (target : Text)
  | dismissPicker
  /-- A request has come to its end. -/
  | arrive (request : Request) (outcome : Except ConversionFault (RatesReply Float))
  /-- A command without effect, by which a client learns that all commands before
  it have been handled. -/
  | sync

/-- What an observer sees of a session. -/
structure View where
  display : Display
  /-- A request is in flight. -/
  converting : Bool
deriving DecidableEq, Repr

/-- The state of a session. -/
structure Session where
  display : Display
  converter : Converter
  series : Series
  /-- The number of requests started so far. It has no upper end; a counter in a word of
  64 bits is the same up to the first 2^64 requests. -/
  generation : Nat
  /-- The generation of the request being waited for. -/
  inFlight : Option Nat

namespace Session

/-- A session on which nothing has been done. -/
def start (converter : Converter) : Session where
  display := .initial
  converter := converter
  series := converter.newSeries
  generation := 0
  inFlight := none

/-- What an observer sees. -/
def view (session : Session) : View :=
  ⟨session.display, session.inFlight.isSome⟩

/-- The session that shows why a conversion failed. -/
def fail (session : Session) (fault : ConversionFault) : Session :=
  { session with display := session.display.showError fault.shown fault.clearsPrevious }

/-- The session that shows a converted amount. -/
def succeed (session : Session) (amount rate : Float) (target : Text) : Session :=
  { session with display := session.display.showConversion (conversionText amount rate target) }

/-- The session that forgets the series of conversions and the request in
flight. -/
def forget (session : Session) : Session :=
  { session with series := session.converter.newSeries, inFlight := none }

/-- A key reaches the display unless a request is in flight; the clear key always
does. A key that the display refuses changes nothing. -/
def press (session : Session) (key : Key) : Session :=
  if session.inFlight.isSome ∧ key ≠ .clear then session
  else match session.display.press key with
    | .error _ => session
    | .ok (display, some .resetCurrency) => { session with display := display }.forget
    | .ok (display, _) => { session with display := display }

/-- Converts the amount on display. The picker closes, and the amount is announced
above the line if it was pinned now. While a request is in flight nothing
happens, not even to the picker. -/
def convert (session : Session) (target : Text) (now : Moment) : Session × Option Request :=
  if session.inFlight.isSome then (session, none)
  else
    let closed := { session.display with pickerOpen := false }
    let (series, planned) :=
      session.converter.plan closed.leadingAmount target session.series now
    let session := { session with display := closed, series := series }
    match planned with
    | .error fault => (session.fail fault, none)
    | .ok (plan, news) =>
        let session :=
          { session with display := { closed with previous := news.getD closed.previous } }
        match plan with
        | .ready amount rate => (session.succeed amount rate target, none)
        | .fetch amount base =>
            let generation := session.generation + 1
            ({ session with generation := generation, inFlight := some generation },
              some ⟨generation, base, target, amount⟩)

/-- Takes in the outcome of a request, unless that request is no longer being
waited for. -/
def arrive (session : Session) (request : Request)
    (outcome : Except ConversionFault (RatesReply Float)) (now : Moment) : Session :=
  if session.inFlight ≠ some request.generation then session
  else
    let session := { session with inFlight := none }
    let accepted : Except ConversionFault (Converter × Float) := do
      session.converter.accept (← outcome) request.target now
    match accepted with
    | .ok (converter, rate) =>
        { session with converter := converter }.succeed request.amount rate request.target
    | .error fault => session.fail fault

/-- The session after a command, and the request that the command starts. -/
def handle (session : Session) (now : Moment) : Command → Session × Option Request
  | .press key => (session.press key, none)
  | .convert target => session.convert target now
  | .dismissPicker =>
      ({ session with display := { session.display with pickerOpen := false } }, none)
  | .arrive request outcome => (session.arrive request outcome now, none)
  | .sync => (session, none)

/-- While a request is in flight, no key but the clear key has an effect. -/
theorem press_of_inFlight {session : Session} (waiting : session.inFlight.isSome) {key : Key}
    (other : key ≠ .clear) : session.press key = session := by
  simp [press, waiting, other]

/-- While a request is in flight, no second one is started. -/
theorem convert_of_inFlight {session : Session} (waiting : session.inFlight.isSome)
    (target : Text) (now : Moment) : session.convert target now = (session, none) := by
  simp [convert, waiting]

/-- The outcome of a request that is not being waited for has no effect. -/
theorem arrive_of_ne {session : Session} {request : Request}
    (other : session.inFlight ≠ some request.generation)
    (outcome : Except ConversionFault (RatesReply Float)) (now : Moment) :
    session.arrive request outcome now = session := by
  simp [arrive, other]

end Session

end Keypad
