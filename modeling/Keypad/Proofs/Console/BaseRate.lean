import Keypad.Proofs.Console.Arguments
import Keypad.Proofs.Console.Choosing
import Keypad.Proofs.Number.Unit

/-!
# The rate of the base currency

Rates are against the base currency, so its own rate should be one, and an amount that is
converted from the base currency into it should stay what it was. A document can give that rate
itself, and then it is what the document says. This module is about all other documents, whatever
reads them.

The settings default one by one. A document that gives rates gives all of them, so its base
currency has no rate unless it is among them. But a document that gives no rates gets the default
rates, which are against the euro, whatever base currency it names. So the amounts are kept
exactly in the cases that `keepsAmounts_iff` lists.
-/

namespace Keypad

/-- A code that is not listed has no rate. -/
theorem Rates.get?_eq_none {α : Type} {rates : Rates α} {code : Text}
    (unlisted : code ∉ rates.codes) : rates.get? code = none := by
  refine List.lookup_eq_none_iff.2 fun entry member => ?_
  have different : code ≠ entry.1 := by
    rintro rfl
    exact unlisted (List.mem_map_of_mem member)
  simpa using different

deriving instance DecidableEq for Rates, Settings, Settings.Overrides

namespace Settings

/-- The base currency has the rate one, if it has a rate at all. -/
def RatesBaseAtOne (settings : Settings) : Prop :=
  ∀ rate, settings.rates.get? settings.baseCurrency = some rate → rate = 1

/-- Of the default rates, the one of the default base currency is one, and no other. -/
theorem rate_default {code : Text} {rate : Float} (listed : default.rates.get? code = some rate) :
    rate = 1 ↔ code = default.baseCurrency := by
  have quoted : ∀ code ∈ default.rates.codes,
      default.rates.get? code = some 1 ↔ code = default.baseCurrency := by
    decide +kernel
  have member : code ∈ default.rates.codes := by
    by_contra unlisted
    cases (Rates.get?_eq_none unlisted).symm.trans listed
  rw [← quoted code member, listed, Option.some_inj]

/-- Settings of a document that gives no rate to their base currency quote it at one exactly if
the document gives rates, or names no base currency of the default rates but their own. -/
theorem ratesBaseAtOne_iff {given : Overrides}
    (unrated : ∀ rates, given.rates = some rates → given.settings.baseCurrency ∉ rates.codes) :
    given.settings.RatesBaseAtOne ↔
      given.rates.isSome ∨ given.settings.baseCurrency = default.baseCurrency ∨
        given.settings.baseCurrency ∉ default.rates.codes := by
  cases stated : given.rates with
  | some rates =>
      have noRate : given.settings.rates.get? given.settings.baseCurrency = none := by
        rw [Overrides.rates_settings, stated]
        exact Rates.get?_eq_none (unrated rates stated)
      simp [RatesBaseAtOne, noRate]
  | none =>
      rw [RatesBaseAtOne, Overrides.rates_settings, stated, Option.getD_none]
      by_cases listed : given.settings.baseCurrency ∈ default.rates.codes
      · obtain ⟨rate, isRate⟩ := Rates.exists_get?_eq_some listed
        simp [isRate, rate_default isRate, listed]
      · simp [Rates.get?_eq_none listed, listed]

end Settings

namespace Console

variable {settings : Settings} {session : Session}

/-- A key pins no amount. -/
theorem pinned_press (key : Key) (unpinned : session.series.pinned = none) :
    (session.press key).series.pinned = none := by
  by_cases resets : session.Resets key
  · rw [Session.press_of_resets resets]
    rfl
  · rcases Session.press_of_not_resets resets with same | ⟨-, -, display, signal, -, pressed⟩
    · rw [same]
      exact unpinned
    · rw [pressed]
      exact unpinned

theorem pinned_pressAll (times : Times) (keys : List Key) (unpinned : session.series.pinned = none) :
    (pressAll settings times session keys).series.pinned = none := by
  induction keys generalizing session with
  | nil => exact unpinned
  | cons key keys inductionHypothesis => exact inductionHypothesis (pinned_press key unpinned)

/-- An amount converted from the base currency into the base currency, if that is listed, is
shown as it is, in any session. -/
def KeepsAmounts (settings : Settings) : Prop :=
  ∀ lines outputs session times, Serves settings (newSession settings) lines outputs session →
    isConvertible session.display.leadingAmount →
    settings.baseCurrency ∈ settings.rates.codes →
    (perform settings times session (.convert settings.baseCurrency)).display.buffer =
      Readout.amount session.amount ++ ' ' :: settings.baseCurrency

/-- A base currency with the rate one keeps the amounts. -/
theorem keepsAmounts_of_ratesBaseAtOne (atOne : settings.RatesBaseAtOne) :
    KeepsAmounts settings := by
  intro lines outputs session times serves convertible listed
  obtain ⟨rate, isRate⟩ := Rates.exists_get?_eq_some listed
  have tended := serves.tended (tended_newSession settings)
  rw [tended.buffer_perform_convert convertible isRate, conversionText, atOne rate isRate,
    Binary.mul_one]

/-- A hundred can be typed, whatever the settings are. -/
theorem exists_serves_hundred (settings : Settings) :
    ∃ outputs session, Serves settings (newSession settings) [(⟨0, 0⟩, "100".toList)] outputs session ∧
      isConvertible session.display.leadingAmount ∧ session.amount = 100 := by
  let keys : List Key := [.digit 1, .digit 0, .digit 0]
  let hundred := pressAll settings ⟨0, 0⟩ (newSession settings) keys
  have typed : Line.ofText "100".toList = .ok (.keys keys) := by decide +kernel
  have shown : hundred.display.leadingAmount = 100 := by
    have amount : (Display.initial.pressAll keys).toOption.map (·.leadingAmount) = some 100 := by
      decide +kernel
    rw [pressAll_newSession settings ⟨0, 0⟩ keys] at amount
    exact Option.some_inj.1 amount
  have unpinned : hundred.series.pinned = none := pinned_pressAll ⟨0, 0⟩ keys rfl
  refine ⟨_, hundred, .cons (handleLine_of_ok typed) .nil, ?_, ?_⟩
  · rw [shown]
    decide +kernel
  · rw [Session.amount, Series.amount, unpinned]
    exact shown

/-- With the default rates, a hundred of a base currency of theirs that is not their own are
shown as something else. -/
theorem not_keepsAmounts (rates : settings.rates = Settings.default.rates)
    (listed : settings.baseCurrency ∈ Settings.default.rates.codes)
    (foreign : settings.baseCurrency ≠ Settings.default.baseCurrency) :
    ¬KeepsAmounts settings := by
  intro keeps
  have repriced : ∀ code ∈ Settings.default.rates.codes, code ≠ Settings.default.baseCurrency →
      (Settings.default.rates.get? code).map (fun rate => Readout.amount (100 * rate)) ≠
        some (Readout.amount 100) := by
    decide +kernel
  obtain ⟨outputs, hundred, serves, convertible, amount⟩ := exists_serves_hundred settings
  obtain ⟨rate, isRate⟩ := Rates.exists_get?_eq_some listed
  have tended := serves.tended (tended_newSession settings)
  have kept := keeps _ _ hundred ⟨0, 0⟩ serves convertible (rates ▸ listed)
  rw [tended.buffer_perform_convert convertible (rates ▸ isRate), amount, conversionText,
    List.append_left_inj] at kept
  apply repriced _ listed foreign
  rw [isRate, Option.map_some, kept]

/-- For the settings of a text that gives no rate to their base currency, these come to the same:
the rate of the base currency is one if there is one, amounts converted into the base currency
are shown as they are, and the text gives rates or names no base currency of the default rates
but their own. The text may be read in any way. -/
theorem keepsAmounts_iff {read : Settings.Reader} {text : Text} {given : Settings.Overrides}
    (isRead : read text = some given) (loaded : Settings.ofText text read = .ok settings)
    (unrated : ∀ rates, given.rates = some rates → settings.baseCurrency ∉ rates.codes) :
    let proper := given.rates.isSome ∨
      settings.baseCurrency = Settings.default.baseCurrency ∨
      settings.baseCurrency ∉ Settings.default.rates.codes
    (settings.RatesBaseAtOne ↔ proper) ∧ (KeepsAmounts settings ↔ proper) := by
  obtain ⟨rfl, -⟩ := (Settings.ofText_eq_ok_iff_of_read isRead).1 loaded
  have atOne := Settings.ratesBaseAtOne_iff unrated
  refine ⟨atOne, fun keeps => ?_, fun proper => keepsAmounts_of_ratesBaseAtOne (atOne.2 proper)⟩
  by_contra improper
  obtain ⟨silent, foreign, listed⟩ : given.rates = none ∧
      given.settings.baseCurrency ≠ Settings.default.baseCurrency ∧
      given.settings.baseCurrency ∈ Settings.default.rates.codes := by
    simpa using improper
  have rates : given.settings.rates = Settings.default.rates := by
    rw [Settings.Overrides.rates_settings, silent, Option.getD_none]
  exact not_keepsAmounts rates listed foreign keeps

/-- A document that names no base currency and gives no rates. After a conversion to pounds, five
euros are five euros. -/
theorem keepsAmounts_euro :
    let document := "log_level = \"info\"\n".toList
    let given : Settings.Overrides := ⟨none, none, none, some "info".toList, none⟩
    let settings := { Settings.default with logLevel := "info".toList }
    let lines : List (Times × Text) :=
      [(⟨0, 0⟩, "5".toList), (⟨1000, 1200⟩, ":convert gbp".toList)]
    Toml.overrides? document = some given ∧
      Settings.ofText document Toml.overrides? = .ok settings ∧
      (∀ rates, given.rates = some rates → settings.baseCurrency ∉ rates.codes) ∧
      settings.RatesBaseAtOne ∧ settings.baseCurrency ∈ settings.rates.codes ∧
      ∃ outputs session, Serves settings (newSession settings) lines outputs session ∧
        session.display.buffer = "4.25 GBP".toList ∧
        (perform settings ⟨2000, 2000⟩ session
          (.convert settings.baseCurrency)).display.buffer = "5.00 EUR".toList := by
  intro document given settings lines
  have isRead : Toml.overrides? document = some given := by decide +kernel
  have loaded : Settings.ofText document Toml.overrides? = .ok settings := by decide +kernel
  have unrated : ∀ rates, given.rates = some rates → settings.baseCurrency ∉ rates.codes := by
    simp [given]
  have listed : settings.baseCurrency ∈ settings.rates.codes := by decide +kernel
  obtain ⟨atOne, keeps⟩ := keepsAmounts_iff isRead loaded unrated
  let five := (carryOut settings ⟨0, 0⟩ (newSession settings) (.keys [.digit 5])).1
  let pounds := (carryOut settings ⟨1000, 1200⟩ five (.convert "GBP".toList)).1
  have typed : Line.ofText "5".toList = .ok (.keys [.digit 5]) := by decide +kernel
  have converted : Line.ofText ":convert gbp".toList = .ok (.convert "GBP".toList) := by
    decide +kernel
  have serves : Serves settings (newSession settings) lines _ pounds :=
    .cons (handleLine_of_ok typed) <| .cons (handleLine_of_ok converted) .nil
  have convertible : isConvertible pounds.display.leadingAmount := by decide +kernel
  have written : Readout.amount pounds.amount ++ ' ' :: settings.baseCurrency =
      "5.00 EUR".toList := by
    decide +kernel
  refine ⟨isRead, loaded, unrated, atOne.2 (.inr (.inl rfl)), listed, _, pounds, serves,
    by decide +kernel, ?_⟩
  rw [keeps.2 (.inr (.inl rfl)) lines _ pounds ⟨2000, 2000⟩ serves convertible listed, written]

/-- A document that makes the dollar the base currency and says nothing about rates. A hundred
dollars converted to dollars are then a hundred and eight. -/
theorem exists_not_keepsAmounts :
    let document := "base_currency = \"USD\"\n".toList
    let given : Settings.Overrides := ⟨some "USD".toList, none, none, none, none⟩
    let settings := { Settings.default with baseCurrency := "USD".toList }
    Toml.overrides? document = some given ∧
      Settings.ofText document Toml.overrides? = .ok settings ∧
      (∀ rates, given.rates = some rates → settings.baseCurrency ∉ rates.codes) ∧
      settings.rates.get? settings.baseCurrency = some 1.08 ∧ ¬settings.RatesBaseAtOne ∧
      ∃ outputs session,
        Serves settings (newSession settings) [(⟨0, 0⟩, "100".toList)] outputs session ∧
          isConvertible session.display.leadingAmount ∧ session.amount = 100 ∧
          (perform settings ⟨0, 0⟩ session (.convert settings.baseCurrency)).display.buffer =
            "108.00 USD".toList := by
  intro document given settings
  have isRead : Toml.overrides? document = some given := by decide +kernel
  have loaded : Settings.ofText document Toml.overrides? = .ok settings := by decide +kernel
  have isRate : settings.rates.get? settings.baseCurrency = some 1.08 := by decide +kernel
  have notOne : (1.08 : Float) ≠ 1 := by decide +kernel
  have written : conversionText 100 1.08 settings.baseCurrency = "108.00 USD".toList := by
    decide +kernel
  obtain ⟨outputs, hundred, serves, convertible, amount⟩ := exists_serves_hundred settings
  have tended := serves.tended (tended_newSession settings)
  refine ⟨isRead, loaded, by simp [given], isRate, fun atOne => notOne (atOne _ isRate), outputs,
    hundred, serves, convertible, amount, ?_⟩
  rw [tended.buffer_perform_convert convertible isRate, amount, written]

end Console

end Keypad
