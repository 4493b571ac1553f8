import Keypad.Currency.Freshness
import Keypad.Currency.RateList
import Keypad.Settings.Overrides
import Keypad.Toml.Overrides

/-!
# Settings

The settings of the calculator, with those that a document gives. Every setting that the
document leaves out has its default; a table of rates in the document replaces the default
table as a whole.

How a text is read is left to a `Settings.Reader`, and what is said here about settings
holds with every reader. The program reads its documents with `Toml.overrides?`.
-/

namespace Keypad

/-- The settings of the calculator. -/
structure Settings where
  baseCurrency : Text
  /-- How long rates stay fresh, in seconds. -/
  lifetimeSeconds : UInt64
  /-- How long a request for rates may take, in milliseconds. -/
  timeoutMillis : UInt64
  logLevel : Text
  /-- Rates against the base currency. -/
  rates : Rates Float

/-- Why there are no settings. -/
inductive SettingsFault where
  /-- The document could not be had. -/
  | unreadable (path reason : Text)
  /-- The text is no document, or a setting has a value of the wrong kind. -/
  | malformed
  | emptyBaseCurrency
  | zeroTimeout
deriving DecidableEq, Repr

/-- The wording of a fault. -/
def SettingsFault.message : SettingsFault → Text
  | .unreadable path reason => "Failed to read ".toList ++ path ++ ": ".toList ++ reason
  | .malformed => "Failed to parse config".toList
  | .emptyBaseCurrency => "Invalid config: base_currency is empty".toList
  | .zeroTimeout => "Invalid config: conversion_timeout_ms must be positive".toList

namespace Settings

/-- The settings without a document: euros, eight hours, ten seconds. -/
def default : Settings where
  baseCurrency := "EUR".toList
  lifetimeSeconds := 28800
  timeoutMillis := 10000
  logLevel := "warn".toList
  rates := Rates.ofList
    [("EUR".toList, 1.0), ("USD".toList, 1.08), ("GBP".toList, 0.85),
     ("JPY".toList, 161.5), ("TRY".toList, 35.2), ("CHF".toList, 0.95)]

/-- How long rates stay fresh. -/
def lifetime (settings : Settings) : Lifetime :=
  ⟨settings.lifetimeSeconds, 0⟩

/-- The list that quotes the rates of the settings. -/
def rateList (settings : Settings) : RateList Float :=
  ⟨settings.baseCurrency, settings.rates⟩

/-- The settings with those that a document gives, whether or not they make sense. Each
setting has its default for itself. -/
def Overrides.settings (given : Overrides) : Settings where
  baseCurrency := given.baseCurrency.getD default.baseCurrency
  lifetimeSeconds := given.lifetimeSeconds.getD default.lifetimeSeconds
  timeoutMillis := given.timeoutMillis.getD default.timeoutMillis
  logLevel := given.logLevel.getD default.logLevel
  rates := given.rates.getD default.rates

/-- The rates of a document replace the default rates as a whole. -/
theorem Overrides.rates_settings (given : Overrides) :
    given.settings.rates = given.rates.getD default.rates := rfl

/-- Settings that make sense: there is a base currency, and requests have time. -/
def check (settings : Settings) : Except SettingsFault Settings :=
  if settings.baseCurrency = [] then .error .emptyBaseCurrency
  else if settings.timeoutMillis = 0 then .error .zeroTimeout
  else .ok settings

/-- Settings pass the check exactly when they make sense, and then unchanged. -/
theorem check_eq_ok_iff {settings checked : Settings} :
    settings.check = .ok checked ↔
      checked = settings ∧ settings.baseCurrency ≠ [] ∧ settings.timeoutMillis ≠ 0 := by
  unfold check
  split
  · simp_all
  · split <;> simp_all [eq_comm]

/-- The settings of a text, as a reader finds them there. -/
def ofText (text : Text) (read : Reader := Toml.overrides?) : Except SettingsFault Settings :=
  match read text with
  | some given => given.settings.check
  | none => .error .malformed

/-- A text that is read has settings exactly if those make sense. -/
theorem ofText_eq_ok_iff_of_read {read : Reader} {text : Text} {given : Overrides}
    (isRead : read text = some given) {settings : Settings} :
    ofText text read = .ok settings ↔
      settings = given.settings ∧ given.settings.baseCurrency ≠ [] ∧
        given.settings.timeoutMillis ≠ 0 := by
  rw [ofText, isRead]
  exact check_eq_ok_iff

end Settings

end Keypad
