import Keypad.Settings.Overrides
import Keypad.Toml.Document

/-!
# Settings in a document

A reader of settings. Keys of a document that name no setting do not count. A key that
names one has to have a value of its kind.
-/

namespace Keypad.Toml

/-- A setting that is a text. -/
def textOf? : Node → Option Text
  | .scalar (.text value) => some value
  | _ => none

/-- A setting that is a whole number of 64 bits. -/
def wordOf? : Node → Option UInt64
  | .scalar (.integer value) =>
      if 0 ≤ value ∧ value < Int.pow 2 64 then some (UInt64.ofNat value.toNat) else none
  | _ => none

/-- A rate: a floating number, or an integer of 64 bits with or without a sign. -/
def rateOf? : Node → Option Float
  | .scalar (.float value) => some value
  | .scalar (.integer value) =>
      if -Int.pow 2 63 ≤ value ∧ value < Int.pow 2 64 then
        some (Binary.ofDecimal (value < 0) value.natAbs 0)
      else none
  | _ => none

/-- A setting that is a table of rates. -/
def ratesOf? : Node → Option (Rates Float)
  | .table _ entries => do
      return Rates.ofList (← entries.mapM fun entry => do return (entry.1, ← rateOf? entry.2))
  | _ => none

/-- What the entries give a setting, if anything, or nothing if that is a value of the
wrong kind. -/
def override? {α : Type} (entries : Entries) (name : String) (convert : Node → Option α) :
    Option (Option α) :=
  match entries.get? name.toList with
  | some node => (convert node).map some
  | none => some none

/-- The settings that the entries of a document give. -/
def overridesOf? (entries : Entries) : Option Settings.Overrides := do
  return {
    baseCurrency := ← override? entries "base_currency" textOf?
    lifetimeSeconds := ← override? entries "cache_ttl_secs" wordOf?
    timeoutMillis := ← override? entries "conversion_timeout_ms" wordOf?
    logLevel := ← override? entries "log_level" textOf?
    rates := ← override? entries "rates" ratesOf? }

/-- The settings that a text gives. -/
def overrides? : Settings.Reader := fun text =>
  (read? text).bind overridesOf?

end Keypad.Toml
