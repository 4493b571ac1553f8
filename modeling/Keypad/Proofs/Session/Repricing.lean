import Keypad.Proofs.Readout.Amount
import Keypad.Proofs.Session.Waiting

/-!
# One currency after another

While a converted amount is on display, the next currency that is picked gets the pinned
amount, not the one that is shown. What is shown decides one thing only: an amount that is
shown as zero, or that is not finite, is refused, and the series ends there.

So the order of several picks does not matter, as long as each of them leaves an amount that
can be read. One that does not is a dead end, although the pinned amount is still there.
-/

namespace Keypad

open Readout (isLegible)

/-- A currency that is picked, with the rate that it has at that time. -/
structure Pick where
  now : Moment
  target : Text
  rate : Float

/-- The turn in which a currency is picked. -/
def Pick.turn (pick : Pick) : Turn :=
  ⟨pick.now, .convert pick.target⟩

namespace Session

/-- Fresh rates are there for a pick, and give it its rate. -/
def Quotes (session : Session) (pick : Pick) : Prop :=
  ∃ rates, session.converter.freshRates? pick.now = some rates ∧
    rates.get? pick.target = some pick.rate

/-- The pinned amount is on display at a rate, and nothing is in flight. -/
structure Displays (session : Session) (amount rate : Float) : Prop where
  idle : session.inFlight = none
  pinned : session.series.pinned = some amount
  buffer : ∃ target, session.display.buffer = conversionText amount rate target

/-- The rates that are kept quote a pick while they are fresh. -/
theorem quotes_of_isFresh {session : Session} {pick : Pick} {cached : CachedRates}
    (kept : session.converter.cache = some cached)
    (fresh : Moment.isFresh cached.stored pick.now session.converter.lifetime)
    (listed : cached.rates.get? pick.target = some pick.rate) : session.Quotes pick :=
  ⟨cached.rates, Converter.freshRates?_of_isFresh kept fresh, listed⟩

/-- A conversion leaves the rates that are kept alone. -/
theorem converter_convert (session : Session) (target : Text) (now : Moment) :
    (session.convert target now).1.converter = session.converter := by
  have step : session.Step ⟨now, .convert target⟩ (session.convert target now).1
      (session.convert target now).2 := session.step_handle ⟨now, .convert target⟩
  generalize (session.convert target now).1 = next at step ⊢
  generalize (session.convert target now).2 = started at step
  cases step <;> rfl

/-- What is shown later takes the place of what was shown before. -/
theorem succeed_succeed (session : Session) (amount rate : Float) (target : Text)
    (later : Float) (next : Text) :
    (session.succeed amount rate target).succeed amount later next =
      session.succeed amount later next := rfl

/-- An amount that is pinned is announced already, and shown in place of what is shown. -/
theorem announce_succeed {session : Session} {amount : Float}
    (pinned : session.series.pinned = some amount) (rate : Float) (target : Text) :
    session.announce.succeed session.amount rate target = session.succeed amount rate target := by
  obtain ⟨display, converter, ⟨base, _⟩, generation, inFlight⟩ := session
  cases pinned
  rfl

namespace Displays

variable {session : Session} {amount rate : Float} (displays : session.Displays amount rate)

include displays

/-- What is shown can be converted exactly when it is legible. -/
theorem isConvertible_leadingAmount :
    isConvertible session.display.leadingAmount = isLegible (amount * rate) := by
  obtain ⟨target, shown⟩ := displays.buffer
  rw [Display.leadingAmount, shown, conversionText, Readout.isConvertible_leadingAmount]

/-- Showing the amount at another rate leaves it pinned. -/
theorem succeed (pick : Pick) :
    (session.succeed amount pick.rate pick.target).Displays amount pick.rate where
  idle := displays.idle
  pinned := displays.pinned
  buffer := ⟨pick.target, rfl⟩

/-- What is not legible is refused. -/
theorem handle_of_not_legible (illegible : isLegible (amount * rate) = false) (now : Moment)
    (target : Text) :
    session.handle now (.convert target) = (session.fail .invalidAmount, none) :=
  convert_of_not_isConvertible displays.idle
    (displays.isConvertible_leadingAmount.trans illegible)

variable (legible : isLegible (amount * rate))

include legible

/-- A pick shows the pinned amount in its currency. -/
theorem handle_of_quotes {pick : Pick} (quoted : session.Quotes pick) :
    session.handle pick.now (.convert pick.target) =
      (session.succeed amount pick.rate pick.target, none) := by
  obtain ⟨rates, fresh, listed⟩ := quoted
  have convertible : isConvertible session.display.leadingAmount :=
    displays.isConvertible_leadingAmount.trans legible
  change session.convert pick.target pick.now = _
  rw [convert_of_listed displays.idle convertible fresh listed, announce_succeed displays.pinned]

/-- Whatever is picked before, the last pick shows what it would show by itself. -/
theorem handleAll_append {picks : List Pick}
    (quoted : ∀ pick ∈ picks, session.Quotes pick ∧ isLegible (amount * pick.rate))
    {last : Pick} (quotedLast : session.Quotes last) :
    session.handleAll (picks.map Pick.turn ++ [last.turn]) =
      (session.succeed amount last.rate last.target, []) := by
  induction picks generalizing session rate with
  | nil =>
      have handled := displays.handle_of_quotes legible quotedLast
      simp [handleAll, Pick.turn, handled]
  | cons pick picks inductionHypothesis =>
      obtain ⟨⟨quotedFirst, legibleFirst⟩, quotedRest⟩ := List.forall_mem_cons.1 quoted
      have handled := displays.handle_of_quotes legible quotedFirst
      have later := inductionHypothesis (displays.succeed pick) legibleFirst quotedRest quotedLast
      rw [succeed_succeed] at later
      simpa [handleAll, Pick.turn, handled] using later

end Displays

end Session

namespace Dialogue

/-- A display that shows a converted amount shows the pinned one. -/
theorem Reachable.exists_displays {converter : Converter} {dialogue : Dialogue}
    (reachable : Reachable converter dialogue)
    (conversion : dialogue.session.display.flags.conversion)
    (noError : dialogue.session.display.flags.error = false)
    (idle : dialogue.session.inFlight = none) :
    ∃ amount rate, dialogue.session.Displays amount rate := by
  obtain ⟨turns, run⟩ := reachable
  obtain ⟨amount, ⟨pinned, -⟩, -, -, target, rate, -, shown⟩ :=
    run.coherent_and_pins.1.conversion conversion noError
  exact ⟨amount, rate, idle, pinned, target, shown⟩

/-- Later conversions convert the pinned amount. While the amount that is shown is finite
and not shown as zero, any picks that leave it so can come before a last one, which shows
what it would show by itself. An amount that is not legible is refused, whatever is picked,
and it stays pinned. -/
theorem Reachable.handleAll_picks {converter : Converter} {dialogue : Dialogue}
    (reachable : Reachable converter dialogue)
    (conversion : dialogue.session.display.flags.conversion)
    (noError : dialogue.session.display.flags.error = false)
    (idle : dialogue.session.inFlight = none) :
    let display := dialogue.session.display
    ∃ amount rate, dialogue.session.Displays amount rate ∧
      (isLegible (amount * rate) → ∀ (picks : List Pick) (last : Pick),
        (∀ pick ∈ picks, dialogue.session.Quotes pick ∧ isLegible (amount * pick.rate)) →
        dialogue.session.Quotes last →
          dialogue.session.handleAll (picks.map Pick.turn ++ [last.turn]) =
            ({ dialogue.session with
              display :=
                { buffer := conversionText amount last.rate last.target
                  previous := display.previous
                  flags := { display.flags with conversion := true }
                  pickerOpen := false } }, [])) ∧
      (isLegible (amount * rate) = false → ∀ now target,
        dialogue.session.handle now (.convert target) =
          ({ dialogue.session with
            display :=
              { buffer := "Not valid amount".toList
                previous := display.previous
                flags := { display.flags with error := true }
                pickerOpen := false } }, none)) := by
  obtain ⟨amount, rate, displays⟩ := reachable.exists_displays conversion noError idle
  refine ⟨amount, rate, displays, ?_, displays.handle_of_not_legible⟩
  intro legible picks last quoted quotedLast
  exact displays.handleAll_append legible quoted quotedLast

/-- `1` is shown as `0.80 GBP`, and then picked as yen and as dollars. Shown as `0.00 TIN`, it
is refused in dollars, although it is still pinned. -/
theorem handleAll_picks_dollars :
    let dollar : Text := "USD".toList
    let pound : Text := "GBP".toList
    let yen : Text := "JPY".toList
    let tin : Text := "TIN".toList
    let rates :=
      (((Rates.empty.insert dollar 1.1).insert pound 0.8).insert yen 160).insert tin 0.001
    let euro : Converter := ⟨"EUR".toList, ⟨28800, 0⟩, some ⟨rates, 0⟩⟩
    let one := (start euro).after ⟨0, .press (.digit 1)⟩
    let shown := one.after ⟨1, .convert pound⟩
    let faded := one.after ⟨1, .convert tin⟩
    let picks : List Pick := [⟨2, yen, 160⟩, ⟨3, pound, 0.8⟩]
    let last : Pick := ⟨4, dollar, 1.1⟩
    let refused := (faded.session.handle 2 (.convert dollar)).1
    shown.session.display.buffer = "0.80 GBP".toList ∧
      (shown.session.handleAll (picks.map Pick.turn ++ [last.turn])).1.display.buffer =
        "1.10 USD".toList ∧
      faded.session.display.buffer = "0.00 TIN".toList ∧
      refused.display =
        ⟨"Not valid amount".toList, "1 EUR".toList, ⟨false, true, true⟩, false⟩ ∧
      refused.series.pinned = some 1 := by
  intro dollar pound yen tin rates euro one shown faded picks last refused
  have typed : (start euro).Runs _ one := Runs.refl.step ⟨0, .press (.digit 1)⟩ trivial
  have reachable : Reachable euro shown := ⟨_, typed.step ⟨1, .convert pound⟩ trivial⟩
  have reachableFaded : Reachable euro faded := ⟨_, typed.step ⟨1, .convert tin⟩ trivial⟩
  obtain ⟨amount, rate, displays, converts, -⟩ :=
    reachable.handleAll_picks (by decide +kernel) (by decide +kernel) (by decide +kernel)
  obtain ⟨fadedAmount, fadedRate, displaysFaded, -, refuses⟩ :=
    reachableFaded.handleAll_picks (by decide +kernel) (by decide +kernel) (by decide +kernel)
  have pinned : shown.session.series.pinned = some 1 := by decide +kernel
  cases displays.pinned.symm.trans pinned
  have legible : isLegible (1 * rate) :=
    displays.isConvertible_leadingAmount.symm.trans (by decide +kernel)
  have illegible : isLegible (fadedAmount * fadedRate) = false :=
    displaysFaded.isConvertible_leadingAmount.symm.trans (by decide +kernel)
  have kept : shown.session.converter.cache = some ⟨rates, 0⟩ :=
    congrArg Converter.cache (Session.converter_convert _ pound 1)
  have quoted : ∀ pick ∈ picks, shown.session.Quotes pick ∧ isLegible (1 * pick.rate) := by
    refine List.forall_mem_cons.2 ⟨⟨?_, by decide +kernel⟩,
      List.forall_mem_singleton.2 ⟨?_, by decide +kernel⟩⟩
    · exact Session.quotes_of_isFresh kept (by decide +kernel) (by decide +kernel)
    · exact Session.quotes_of_isFresh kept (by decide +kernel) (by decide +kernel)
  have quotedLast : shown.session.Quotes last :=
    Session.quotes_of_isFresh kept (by decide +kernel) (by decide +kernel)
  have refusal := congrArg Prod.fst (refuses illegible 2 dollar)
  refine ⟨by decide +kernel, ?_, by decide +kernel, ?_, ?_⟩
  · rw [converts legible picks last quoted quotedLast]
    decide +kernel
  · refine (congrArg Session.display refusal).trans ?_
    decide +kernel
  · refine (congrArg (·.series.pinned) refusal).trans ?_
    decide +kernel

/-- What is converted before does matter. `1` is shown as `0.00 TIN` where a tin is worth a
thousandth, and then it cannot be shown in dollars. -/
theorem not_forall_buffer_handle_pick :
    ¬∀ (converter : Converter) (dialogue : Dialogue), Reachable converter dialogue →
      dialogue.session.display.flags.conversion → dialogue.session.display.flags.error = false →
      dialogue.session.inFlight = none →
      ∀ amount, dialogue.session.series.pinned = some amount →
        ∀ pick, dialogue.session.Quotes pick →
          (dialogue.session.handle pick.now (.convert pick.target)).1.display.buffer =
            conversionText amount pick.rate pick.target := by
  intro always
  let tin : Text := "TIN".toList
  let dollar : Text := "USD".toList
  let rates := (Rates.empty.insert tin 0.001).insert dollar 1.1
  let euro : Converter := ⟨"EUR".toList, ⟨28800, 0⟩, some ⟨rates, 0⟩⟩
  let shown := ((start euro).after ⟨0, .press (.digit 1)⟩).after ⟨1, .convert tin⟩
  have reachable : Reachable euro shown :=
    ⟨_, (Runs.refl.step ⟨0, .press (.digit 1)⟩ trivial).step ⟨1, .convert tin⟩ trivial⟩
  have kept : shown.session.converter.cache = some ⟨rates, 0⟩ :=
    congrArg Converter.cache (Session.converter_convert _ tin 1)
  have quoted : shown.session.Quotes ⟨2, dollar, 1.1⟩ :=
    Session.quotes_of_isFresh kept (by decide +kernel) (by decide +kernel)
  have shows := always euro shown reachable (by decide +kernel) (by decide +kernel)
    (by decide +kernel) 1 (by decide +kernel) ⟨2, dollar, 1.1⟩ quoted
  exact absurd shows (by decide +kernel)

end Dialogue

end Keypad
