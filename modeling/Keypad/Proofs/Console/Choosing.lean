import Keypad.Proofs.Console.Lines
import Keypad.Proofs.Readout.Shape
import Keypad.Proofs.Session.Commands
import Mathlib.Data.List.DropRight

/-!
# Choosing a currency

The rates that a session keeps are those of the settings, because it asks for the rates
against its own base currency only (`Tended`). So a code of the settings that can be typed is
found, whether or not rates are kept, and the amount on display is converted with its rate.

What is typed behind `:convert` is trimmed and put in upper case, and must not be empty then;
the codes of the settings stay as the document has them. So a code may be listed although
nothing that is typed names it.
-/

namespace Keypad

namespace Text

/-- Nothing but the blanks at the ends is trimmed. -/
theorem trim_append_cons {blanks : Text} (areBlank : ∀ b ∈ blanks, isBlank b) {c : Char}
    (solid : isBlank c = false) (after : Text) :
    trim (blanks ++ c :: after) = c :: dropEndWhile isBlank after := by
  have start : (blanks ++ c :: after).dropWhile isBlank = c :: after := by
    rw [List.dropWhile_append_of_pos areBlank, List.dropWhile_cons_of_neg (by simp [solid])]
  rw [trim, start]
  exact dropEndWhile_append_cons_of_not solid [] after

/-- A text that is not all blank starts with blanks and goes on with another character. -/
theorem exists_eq_append_cons {text : Text} (notBlank : trim text ≠ []) :
    ∃ blanks c after, text = blanks ++ c :: after ∧ (∀ b ∈ blanks, isBlank b) ∧
      isBlank c = false := by
  cases start : text.dropWhile isBlank with
  | nil =>
      have blank : trim text = [] := by
        rw [trim, start]
        rfl
      exact absurd blank notBlank
  | cons c after =>
      refine ⟨text.takeWhile isBlank, c, after, ?_, fun b => List.mem_takeWhile_imp, ?_⟩
      · rw [← start, List.takeWhile_append_dropWhile]
      · have head := List.head?_dropWhile_not isBlank text
        simpa [start] using head

end Text

/-- Every code that a table lists has a rate. -/
theorem Rates.exists_get?_eq_some {α : Type} {rates : Rates α} {code : Text}
    (listed : code ∈ rates.codes) : ∃ rate, rates.get? code = some rate := by
  obtain ⟨entry, member, rfl⟩ := List.mem_map.1 listed
  exact Option.isSome_iff_exists.1 (List.lookup_isSome_iff.2 ⟨entry, member, BEq.rfl⟩)

namespace Console

/-- What follows `:convert` on a line names a currency, in upper case and without the blanks
around it. -/
theorem Line.ofText_convert {typed : Text} (named : Text.uppercase (Text.trim typed) ≠ []) :
    Line.ofText (":convert ".toList ++ typed) =
      .ok (.convert (Text.uppercase (Text.trim typed))) := by
  have notBlank : Text.trim typed ≠ [] := by
    intro nothing
    rw [nothing] at named
    exact named rfl
  obtain ⟨blanks, c, after, rfl, areBlank, solid⟩ := Text.exists_eq_append_cons notBlank
  let argument := blanks ++ c :: Text.dropEndWhile Text.isBlank after
  have trimmed : Text.trim (":convert ".toList ++ (blanks ++ c :: after)) =
      ":convert".toList ++ ' ' :: argument := by
    have kept := Text.dropEndWhile_append_cons_of_not solid (":convert ".toList ++ blanks) after
    rw [List.append_assoc] at kept
    exact kept
  have same : Text.trim argument = Text.trim (blanks ++ c :: after) := by
    rw [Text.trim_append_cons areBlank solid, Text.trim_append_cons areBlank solid]
    exact congrArg (c :: ·) (List.rdropWhile_idempotent Text.isBlank after)
  have cut : Text.cut ' ' (":convert".toList ++ ' ' :: argument) = (":convert".toList, argument) :=
    Text.cut_append_cons (by decide) argument
  simp only [Line.ofText, trimmed, cut, if_pos, same]

/-- A session without a request in flight, in the base currency of the settings, with no rates
but those of the settings. -/
structure Tended (settings : Settings) (session : Session) : Prop where
  idle : session.inFlight = none
  converterBase : session.converter.base = settings.baseCurrency
  seriesBase : session.series.base = settings.baseCurrency
  kept : ∀ cached, session.converter.cache = some cached → cached.rates = settings.rates

variable {settings : Settings} {session : Session}

theorem tended_newSession (settings : Settings) : Tended settings (newSession settings) where
  idle := rfl
  converterBase := rfl
  seriesBase := rfl
  kept := nofun

/-- The answer of the rate service to a request for rates against the base currency. -/
def answer (settings : Settings) : Except ConversionFault (RatesReply Float) :=
  .ok ⟨true, settings.baseCurrency, settings.rates⟩

namespace Tended

variable (tended : Tended settings session)

include tended

theorem press (key : Key) : Tended settings (session.press key) := by
  by_cases resets : session.Resets key
  · rw [Session.press_of_resets resets]
    exact ⟨rfl, tended.converterBase, tended.converterBase, tended.kept⟩
  · rcases Session.press_of_not_resets resets with same | ⟨-, -, display, signal, -, pressed⟩
    · rw [same]
      exact tended
    · rw [pressed]
      exact ⟨tended.idle, tended.converterBase, tended.seriesBase, tended.kept⟩

theorem pressAll (times : Times) (keys : List Key) :
    Tended settings (pressAll settings times session keys) := by
  induction keys generalizing session with
  | nil => exact tended
  | cons key keys inductionHypothesis => exact inductionHypothesis (tended.press key)

/-- The rates that are used are those of the settings. -/
theorem eq_of_freshRates? {now : Moment} {rates : Rates Float}
    (fresh : session.converter.freshRates? now = some rates) : rates = settings.rates := by
  obtain ⟨cached, isKept, rfl⟩ := Converter.exists_cache_of_freshRates? fresh
  exact tended.kept cached isKept

/-- A conversion without fresh rates ends with the answer to its request. -/
theorem perform_convert_of_not_fresh (convertible : isConvertible session.display.leadingAmount)
    {times : Times} (notFresh : session.converter.freshRates? times.asked = none)
    (target : Text) :
    perform settings times session (.convert target) = { session.await with
      display := session.await.display.conclude (session.request target) (answer settings)
      converter := session.converter.learn (session.request target) (answer settings) times.answered
      inFlight := none } := by
  have handled : session.handle times.asked (.convert target) =
      (session.await, some (session.request target)) :=
    Session.convert_of_not_fresh tended.idle convertible notFresh
  have base : (session.request target).base = settings.rateList.base := tended.seriesBase
  have answered :
      .ok (settings.rateList.reply (session.request target).base) = answer settings := by
    rw [base, RateList.reply_base]
    rfl
  have waiting : session.await.inFlight = some (session.request target).generation := rfl
  rw [perform, handled]
  simp only [answered]
  exact Session.arrive_of_inFlight waiting _

/-- A listed code converts the amount. -/
theorem buffer_perform_convert (convertible : isConvertible session.display.leadingAmount)
    {times : Times} {code : Text} {rate : Float} (listed : settings.rates.get? code = some rate) :
    (perform settings times session (.convert code)).display.buffer =
      conversionText session.amount rate code := by
  cases fresh : session.converter.freshRates? times.asked with
  | some rates =>
      rw [← tended.eq_of_freshRates? fresh] at listed
      have handled : session.handle times.asked (.convert code) =
          (session.announce.succeed session.amount rate code, none) :=
        Session.convert_of_listed tended.idle convertible fresh listed
      rw [perform, handled]
      rfl
  | none =>
      have rated : (session.request code).rate (answer settings) = .ok rate :=
        Request.rate_eq_ok_iff.2 ⟨_, rfl, rfl, listed⟩
      rw [tended.perform_convert_of_not_fresh convertible fresh]
      simp only [Display.conclude, rated]
      rfl

/-- What is learned from an answer are the rates of the settings. -/
theorem kept_learn (request : Request) (now : Moment) (cached : CachedRates)
    (learned : (session.converter.learn request (answer settings) now).cache = some cached) :
    cached.rates = settings.rates := by
  cases rated : request.rate (answer settings) with
  | ok rate =>
      rw [answer, Converter.learn_of_rate rated] at learned
      cases learned
      rfl
  | error fault =>
      rw [Converter.learn_of_fault rated] at learned
      exact tended.kept cached learned

theorem convert (times : Times) (target : Text) :
    Tended settings (perform settings times session (.convert target)) := by
  cases convertible : isConvertible session.display.leadingAmount with
  | false =>
      have handled : session.handle times.asked (.convert target) = (session.fail .invalidAmount, none) :=
        Session.convert_of_not_isConvertible tended.idle convertible
      rw [perform, handled]
      exact ⟨tended.idle, tended.converterBase, tended.seriesBase, tended.kept⟩
  | true =>
      cases fresh : session.converter.freshRates? times.asked with
      | none =>
          rw [tended.perform_convert_of_not_fresh convertible fresh, Converter.learn_eq]
          exact ⟨rfl, tended.converterBase, tended.seriesBase, tended.kept_learn _ _⟩
      | some rates =>
          cases listed : rates.get? target with
          | some rate =>
              have handled : session.handle times.asked (.convert target) =
                  (session.announce.succeed session.amount rate target, none) :=
                Session.convert_of_listed tended.idle convertible fresh listed
              rw [perform, handled]
              exact ⟨tended.idle, tended.converterBase, tended.seriesBase, tended.kept⟩
          | none =>
              have handled : session.handle times.asked (.convert target) =
                  (session.pin.fail (.unknownCurrency target), none) :=
                Session.convert_of_not_listed tended.idle convertible fresh listed
              rw [perform, handled]
              exact ⟨tended.idle, tended.converterBase, tended.seriesBase, tended.kept⟩

/-- Lines leave a session tended. -/
theorem carryOut (times : Times) (line : Line) :
    Tended settings (carryOut settings times session line).1 := by
  cases line with
  | keys keys => exact tended.pressAll times keys
  | convert code => exact tended.convert times code
  | listRates => exact tended

end Tended

theorem Serves.tended {lines : List (Times × Text)} {outputs : List (List Text)} {last : Session}
    (serves : Serves settings session lines outputs last) (tended : Tended settings session) :
    Tended settings last := by
  induction serves with
  | nil => exact tended
  | @cons _ _ _ times text _ _ _ first _ inductionHypothesis =>
      refine inductionHypothesis ?_
      cases understood : Line.ofText text with
      | error failure => cases (handleLine_of_error understood).symm.trans first
      | ok line =>
          have carried := Except.ok.inj ((handleLine_of_ok understood).symm.trans first)
          have next := tended.carryOut times line
          rwa [carried] at next

/-- The line that names a currency converts the amount on display with the rate of a code. -/
def Chooses (settings : Settings) (times : Times) (session : Session) (typed code : Text) : Prop :=
  ∃ rate next printed, settings.rates.get? code = some rate ∧
    handleLine settings times session (":convert ".toList ++ typed) = .ok (next, printed) ∧
    next.display.buffer = conversionText session.display.leadingAmount rate code

instance (settings : Settings) (times : Times) (session : Session) (typed code : Text) :
    Decidable (Chooses settings times session typed code) :=
  match listed : settings.rates.get? code,
    handled : handleLine settings times session (":convert ".toList ++ typed) with
  | some rate, .ok (next, _) =>
      decidable_of_iff
        (next.display.buffer = conversionText session.display.leadingAmount rate code) <| by
          rw [Chooses, listed, handled]
          simp
  | none, _ => .isFalse <| by
      rw [Chooses, listed]
      simp
  | some _, .error _ => .isFalse <| by
      rw [Chooses, handled]
      simp

/-- Every code of the settings can be chosen that is in upper case, has no blanks around it and
is not empty, and it can be typed in any way that comes to the same when it is trimmed and put
in upper case. -/
theorem Serves.chooses {lines : List (Times × Text)} {outputs : List (List Text)}
    (serves : Serves settings (newSession settings) lines outputs session)
    (unpinned : session.series.pinned = none)
    (convertible : isConvertible session.display.leadingAmount) {code : Text}
    (listed : code ∈ settings.rates.codes) (someCode : code ≠ []) {typed : Text}
    (names : Text.uppercase (Text.trim typed) = code) (times : Times) :
    Chooses settings times session typed code := by
  subst names
  have tended := serves.tended (tended_newSession settings)
  obtain ⟨rate, isRate⟩ := Rates.exists_get?_eq_some listed
  refine ⟨rate, _, _, isRate, handleLine_of_ok (Line.ofText_convert someCode), ?_⟩
  have amount : session.amount = session.display.leadingAmount := by
    rw [Session.amount, Series.amount, unpinned]
    rfl
  rw [← amount]
  exact tended.buffer_perform_convert convertible isRate

/-- `5` was converted, and `12` was typed after a `c`. Then `usd` chooses the dollar, with the
rates that were kept for the first conversion. -/
theorem chooses_dollar :
    let dollar : Text := "USD".toList
    let lines : List (Times × Text) :=
      [(⟨0, 0⟩, "5".toList), (⟨1000, 1200⟩, ":convert gbp".toList), (⟨2000, 2000⟩, "c12".toList)]
    ∃ outputs session, Serves .default (newSession .default) lines outputs session ∧
      session.display.buffer = "12".toList ∧ session.converter.cache.isSome ∧
      session.series.pinned = none ∧ isConvertible session.display.leadingAmount ∧
      dollar ∈ Settings.default.rates.codes ∧ dollar ≠ [] ∧
      Text.uppercase (Text.trim "usd ".toList) = dollar ∧
      Chooses .default ⟨3000, 3100⟩ session "usd ".toList dollar := by
  intro dollar lines
  let five := (carryOut .default ⟨0, 0⟩ (newSession .default) (.keys [.digit 5])).1
  let pounds := (carryOut .default ⟨1000, 1200⟩ five (.convert "GBP".toList)).1
  let twelve := (carryOut .default ⟨2000, 2000⟩ pounds (.keys [.clear, .digit 1, .digit 2])).1
  have typed : Line.ofText "5".toList = .ok (.keys [.digit 5]) := by decide +kernel
  have converted : Line.ofText ":convert gbp".toList = .ok (.convert "GBP".toList) := by
    decide +kernel
  have typedAgain : Line.ofText "c12".toList = .ok (.keys [.clear, .digit 1, .digit 2]) := by
    decide +kernel
  have serves : Serves .default (newSession .default) lines _ twelve :=
    .cons (handleLine_of_ok typed) <|
      .cons (handleLine_of_ok converted) <| .cons (handleLine_of_ok typedAgain) .nil
  have unpinned : twelve.series.pinned = none :=
    Option.isNone_iff_eq_none.1 (by decide +kernel)
  have convertible : isConvertible twelve.display.leadingAmount := by decide +kernel
  have listed : dollar ∈ Settings.default.rates.codes := by decide +kernel
  have someCode : dollar ≠ [] := List.cons_ne_nil _ _
  have names : Text.uppercase (Text.trim "usd ".toList) = dollar := by decide +kernel
  exact ⟨_, twelve, serves, by decide +kernel, by decide +kernel, unpinned, convertible, listed,
    someCode, names, serves.chooses unpinned convertible listed someCode names ⟨3000, 3100⟩⟩

/-- The settings of a document list three codes, and none of them can be chosen: one is empty,
one ends with a blank, and one is in lower case. -/
theorem exists_serves_not_chooses :
    let document := "[rates]\n\"\" = 2.0\n\"GBP \" = 0.85\nusd = 1.5\n".toList
    ∃ settings outputs session, Settings.ofText document Toml.overrides? = .ok settings ∧
      Serves settings (newSession settings) [(⟨0, 0⟩, "12".toList)] outputs session ∧
      session.series.pinned = none ∧ isConvertible session.display.leadingAmount ∧
      settings.rates.codes = [[], "GBP ".toList, "usd".toList] ∧
      ∀ code ∈ settings.rates.codes, ¬Chooses settings ⟨0, 0⟩ session code code := by
  intro document
  have twelve : Line.ofText "12".toList = .ok (.keys [.digit 1, .digit 2]) := by decide +kernel
  have checked : (Settings.ofText document Toml.overrides?).toOption.any fun settings =>
      let session := (carryOut settings ⟨0, 0⟩ (newSession settings) (.keys [.digit 1, .digit 2])).1
      session.series.pinned.isNone ∧ isConvertible session.display.leadingAmount ∧
        settings.rates.codes = [[], "GBP ".toList, "usd".toList] ∧
        ∀ code ∈ settings.rates.codes, ¬Chooses settings ⟨0, 0⟩ session code code := by
    decide +kernel
  obtain ⟨settings, isLoaded, good⟩ := (Option.any_eq_true _ _).1 checked
  obtain ⟨unpinned, convertible, codes, refuses⟩ := of_decide_eq_true good
  have loaded : Settings.ofText document Toml.overrides? = .ok settings := by
    cases outcome : Settings.ofText document Toml.overrides? with
    | error => cases (congrArg Except.toOption outcome).symm.trans isLoaded
    | ok other =>
        cases (congrArg Except.toOption outcome).symm.trans isLoaded
        rfl
  exact ⟨settings, _, _, loaded, .cons (handleLine_of_ok twelve) .nil,
    Option.isNone_iff_eq_none.1 unpinned, convertible, codes, refuses⟩

end Console

end Keypad
