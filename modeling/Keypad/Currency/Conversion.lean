import Keypad.Currency.Freshness
import Keypad.Currency.RateList
import Keypad.Readout

/-!
# Conversions

A converter turns an amount into another currency with cached rates, or says
which rates it needs. The first amount of a series of conversions is pinned:
later conversions of the series convert that amount again, whatever is shown by
then.

Planning a conversion and accepting the rates for it are separate steps, because
time passes between them.
-/

namespace Keypad

/-- Why a conversion gave no amount. -/
inductive ConversionFault where
  | invalidAmount
  | unknownCurrency (code : Text)
  /-- The rate service answered without success. -/
  | serviceFailed
  | network (reason : Text)
  | timedOut
deriving DecidableEq, Repr

namespace ConversionFault

/-- The full wording of a fault. -/
def message : ConversionFault → Text
  | .invalidAmount => "Not valid amount".toList
  | .unknownCurrency code => "Invalid currency: ".toList ++ code
  | .serviceFailed => "Rate service reported a failure".toList
  | .network reason => "Network error: ".toList ++ reason
  | .timedOut => "Rate request timed out".toList

/-- The wording that fits on the display. -/
def shown : ConversionFault → Text
  | .invalidAmount => "Not valid amount".toList
  | .unknownCurrency _ => "Invalid currency!".toList
  | .serviceFailed => "API failed".toList
  | .network _ | .timedOut => "No network".toList

/-- Whether the amount shown above the line goes too. -/
def clearsPrevious : ConversionFault → Bool
  | .network _ | .timedOut => true
  | _ => false

end ConversionFault

/-- Rates from an earlier reply, and when it came. -/
structure CachedRates where
  rates : Rates Float
  stored : Moment

/-- A base currency, how long rates stay fresh, and the rates kept. -/
structure Converter where
  base : Text
  lifetime : Lifetime
  cache : Option CachedRates

/-- A series of conversions: the currency they start from and the amount pinned
by the first of them. -/
structure Series where
  base : Text
  pinned : Option Float

/-- How a conversion goes on. -/
inductive Plan where
  | ready (amount rate : Float)
  /-- Rates against `base` are needed first. -/
  | fetch (amount : Float) (base : Text)

/-- A series without a pinned amount. -/
def Series.start (base : Text) : Series := ⟨base, none⟩

/-- The rate of a code, or the fault that the code is not listed. -/
def Rates.find (rates : Rates Float) (code : Text) : Except ConversionFault Float :=
  match rates.get? code with
  | some rate => .ok rate
  | none => .error (.unknownCurrency code)

/-- A converted amount with its currency. -/
def conversionText (amount rate : Float) (target : Text) : Text :=
  Readout.amount (amount * rate) ++ ' ' :: target

/-- An amount that is about to be converted, with its currency. -/
def announcement (amount : Float) (base : Text) : Text :=
  Readout.result amount ++ ' ' :: base

/-- An amount can be converted if it is finite and not zero. -/
def isConvertible (amount : Float) : Bool :=
  Binary.isFinite amount && !(amount == 0)

namespace Converter

/-- A new series in the base currency of the converter. -/
def newSeries (converter : Converter) : Series := .start converter.base

/-- The cached rates, while they are fresh. -/
def freshRates? (converter : Converter) (now : Moment) : Option (Rates Float) :=
  match converter.cache with
  | some cached =>
      if Moment.isFresh cached.stored now converter.lifetime then some cached.rates else none
  | none => none

/-- Starts converting an amount into a target currency. Gives the series after
it, and either a fault or the plan, together with the text that announces the
amount if it was pinned now. The amount is pinned before its rate is looked up. -/
def plan (converter : Converter) (amount : Float) (target : Text) (series : Series)
    (now : Moment) : Series × Except ConversionFault (Plan × Option Text) :=
  if !isConvertible amount then (series, .error .invalidAmount)
  else
    let (pinned, news) :=
      match series.pinned with
      | some earlier => (earlier, none)
      | none => (amount, some (announcement amount series.base))
    ({ series with pinned := some pinned },
      match converter.freshRates? now with
      | some rates => return (.ready pinned (← rates.find target), news)
      | none => .ok (.fetch pinned series.base, news))

/-- Takes in a reply: keeps its rates and gives the rate of the target. A reply
without success or without the target is not kept. -/
def accept (converter : Converter) (reply : RatesReply Float) (target : Text)
    (now : Moment) : Except ConversionFault (Converter × Float) :=
  if reply.success then do
    let rate ← reply.rates.find target
    return ({ converter with cache := some ⟨reply.rates, now⟩ }, rate)
  else .error .serviceFailed

/-- An amount that cannot be converted leaves the series alone. -/
theorem plan_of_not_isConvertible {amount : Float} (refused : isConvertible amount = false)
    (converter : Converter) (target : Text) (series : Series) (now : Moment) :
    converter.plan amount target series now = (series, .error .invalidAmount) := by
  simp [plan, refused]

/-- A series keeps the currency it starts from. -/
@[simp] theorem base_plan (converter : Converter) (amount : Float) (target : Text)
    (series : Series) (now : Moment) :
    (converter.plan amount target series now).1.base = series.base := by
  unfold plan
  split <;> rfl

/-- A reply without success is refused, whatever it carries. -/
theorem accept_of_not_success {reply : RatesReply Float} (failed : reply.success = false)
    (converter : Converter) (target : Text) (now : Moment) :
    converter.accept reply target now = .error .serviceFailed := by
  simp [accept, failed]

end Converter

end Keypad
