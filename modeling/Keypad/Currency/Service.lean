import Keypad.Currency.Conversion

/-!
# Rate services

A service answers each request for rates after a delay, with rates or with a
fault. A request is given up when its time is over, so what arrives is bounded in
time.
-/

namespace Keypad

/-- What a request for rates leads to. -/
abbrev Outcome := Except ConversionFault (RatesReply Float)

/-- An answer, and the milliseconds it takes. -/
structure Answer where
  delay : Nat
  outcome : Outcome

/-- An answer as it arrives within a time limit: one that takes longer than the
limit is a fault at the limit. -/
def Answer.within (limit : Nat) (answer : Answer) : Answer :=
  if answer.delay ≤ limit then answer else ⟨limit, .error .timedOut⟩

/-- A source of rates. -/
inductive Service where
  /-- A fixed list answers at once. -/
  | listed (list : RateList Float)
  /-- Prepared answers, one for each request; the last one repeats. -/
  | scripted (next : Answer) (later : List Answer)

/-- The answer to a request for rates against `base`, and the service after it. -/
def Service.ask (service : Service) (base : Text) : Answer × Service :=
  match service with
  | .listed list => (⟨0, .ok (list.reply base)⟩, service)
  | .scripted next [] => (next, service)
  | .scripted next (following :: later) => (next, .scripted following later)

end Keypad
