import Keypad.Currency.Rates

/-!
# What a document says about the settings

A document may give any of the settings and leave out any others. How a text comes to
be a document is not decided here: that is left to a reader.
-/

namespace Keypad.Settings

/-- The settings that a document gives. Those that it leaves out are `none`. -/
structure Overrides where
  baseCurrency : Option Text
  /-- How long rates stay fresh, in seconds. -/
  lifetimeSeconds : Option UInt64
  /-- How long a request for rates may take, in milliseconds. -/
  timeoutMillis : Option UInt64
  logLevel : Option Text
  /-- All rates that the document gives. -/
  rates : Option (Rates Float)

/-- What a text gives, or nothing if it is no document or gives a setting a value of the
wrong kind. -/
abbrev Reader := Text → Option Overrides

end Keypad.Settings
