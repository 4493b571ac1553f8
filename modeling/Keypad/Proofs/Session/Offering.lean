import Keypad.Proofs.Entry.Amount
import Keypad.Proofs.Session.Pinning

/-!
# What a display offers for conversion

Conversions start from what is read off the display, whatever it shows. `Display.Candid` is what
makes that safe: unless the next key starts it over, the display shows a line in the grammar, and
with an error it shows a notice. A line offers its own value or nothing, and a notice offers
nothing, an infinity or a NaN, which no plan accepts. Every turn keeps the display candid.
-/

namespace Keypad

namespace Display

/-- The texts that are shown with an error: why a conversion failed, or a value that is not
finite. -/
inductive IsNotice : Text → Prop where
  | fault (fault : ConversionFault) : IsNotice fault.shown
  | value {x : Float} (infinite : Binary.isFinite x = false) : IsNotice (Readout.result x)

/-- No notice starts with a finite number other than zero. -/
theorem IsNotice.leadingAmount {text : Text} (notice : IsNotice text) :
    Entry.leadingAmount text = 0 ∨ (Entry.leadingAmount text).isInf ∨
      (Entry.leadingAmount text).isNaN := by
  cases notice with
  | fault fault => exact .inl fault.leadingAmount_shown
  | value infinite =>
      have shown := Readout.isFinite_leadingAmount_result infinite
      exact .inr ((Binary.isFinite_eq_false_iff _).1 shown).symm

theorem IsNotice.isConvertible {text : Text} (notice : IsNotice text) :
    isConvertible (Entry.leadingAmount text) = false := by
  cases notice with
  | fault fault => exact fault.isConvertible_shown
  | value infinite => exact Readout.isConvertible_result infinite

/-- A display that shows a line in the grammar or waits for a reset, and a notice with an
error. -/
structure Candid (display : Display) : Prop where
  sound : display.Sound
  notice : display.flags.error → IsNotice display.buffer

namespace Candid

theorem initial : Display.initial.Candid := ⟨sound_initial, nofun⟩

theorem restarted (key : Key) : (Display.restarted key).Candid where
  sound := sound_restarted key
  notice error := by
    rw [Display.restarted] at error
    split at error <;> cases error

theorem showError (display : Display) (fault : ConversionFault) (clearPrevious : Bool) :
    (display.showError fault.shown clearPrevious).Candid where
  sound := sound_of_needsReset (Bool.or_true _)
  notice _ := .fault fault

theorem showConversion {display : Display} (noError : display.flags.error = false) (text : Text) :
    (display.showConversion text).Candid where
  sound := sound_of_needsReset rfl
  notice error := by
    have noError : (display.showConversion text).flags.error = false := noError
    simp [noError] at error

variable {display : Display} (candid : display.Candid)

include candid

/-- An amount that can be converted is not a notice. -/
theorem error_eq_false (convertible : isConvertible display.leadingAmount) :
    display.flags.error = false := by
  cases error : display.flags.error with
  | false => rfl
  | true =>
      have refused : isConvertible display.leadingAmount = false :=
        (candid.notice error).isConvertible
      simp [convertible] at refused

theorem act (noReset : display.flags.needsReset = false) {key : Key} {next : Display}
    {signal : Option Signal} (acts : display.act key = .ok (next, signal)) : next.Candid where
  sound := by
    obtain ⟨next', signal', pressed, sound⟩ := candid.sound.press key
    have unreset : ¬(display.flags.needsReset ∧ key ≠ .clear) := by simp [noReset]
    rw [press, if_neg unreset, acts] at pressed
    cases pressed
    exact sound
  notice error := by
    obtain ⟨value, infinite, rfl⟩ := (error_of_act noReset acts).2 error
    exact .value infinite

end Candid

end Display

namespace Session

variable {session next : Session} {turn : Turn} {started : Option Request}

/-- Every turn keeps the display candid, if the display shows no error while a request is in
flight. -/
theorem Step.candid (step : session.Step turn next started) (candid : session.display.Candid)
    (waits : session.inFlight.isSome → session.display.flags.error = false) :
    next.display.Candid := by
  cases step with
  | unchanged => exact candid
  | restarts => exact .restarted _
  | acts noReset idle acts => exact candid.act (unreset_of_not_resets noReset idle) acts
  | refuses => exact .showError _ _ _
  | misses => exact .showError _ _ _
  | converts idle convertible =>
      have noError : session.announce.display.flags.error = false :=
        candid.error_eq_false convertible
      exact .showConversion noError _
  | requests => exact ⟨⟨candid.sound.isLine, candid.sound.result⟩, candid.notice⟩
  | dismisses => exact ⟨⟨candid.sound.isLine, candid.sound.result⟩, candid.notice⟩
  | @concludes now request outcome waiting =>
      have noError := waits (by simp [waiting])
      change (session.display.conclude request outcome).Candid
      unfold Display.conclude
      split
      · exact .showConversion noError _
      · exact .showError _ _ _

end Session

namespace Dialogue

/-- Every run leads to a candid display. -/
theorem Runs.candid {converter : Converter} {turns : List Turn} {dialogue : Dialogue}
    (run : (start converter).Runs turns dialogue) : dialogue.session.display.Candid := by
  induction run with
  | refl => exact .initial
  | @step turns dialogue prior turn admitted inductionHypothesis =>
      have coherent := prior.coherent_and_pins.1
      exact (dialogue.session.step_handle turn).candid inductionHypothesis fun waiting =>
        (coherent.inFlight waiting).2.2

/-- On every session that a run leads to, a line offers its own value if it is a single
numeral, and nothing otherwise. With an error the display offers nothing, an infinity or a NaN,
which every plan refuses, so that a conversion only shows that the amount is not valid. -/
theorem Reachable.offers {converter : Converter} {dialogue : Dialogue}
    (reachable : Reachable converter dialogue) :
    let display := dialogue.session.display
    (display.flags.conversion = false → display.flags.error = false →
      (∀ text, Token.ofText display.buffer = .ok [.numeral text] →
        Expression.evaluate display.buffer = .ok display.leadingAmount) ∧
      ((∀ text, Token.ofText display.buffer ≠ .ok [.numeral text]) →
        display.leadingAmount = 0)) ∧
    (display.flags.error →
      (display.leadingAmount = 0 ∨ display.leadingAmount.isInf ∨ display.leadingAmount.isNaN) ∧
      (∀ (converter : Converter) target series now,
        converter.plan display.leadingAmount target series now =
          (series, .error .invalidAmount)) ∧
      ∀ target now,
        dialogue.session.convert target now =
          ({ dialogue.session with
            display :=
              { buffer := "Not valid amount".toList
                previous := display.previous
                flags := { display.flags with error := true }
                pickerOpen := false } }, none)) := by
  intro display
  obtain ⟨turns, run⟩ := reachable
  have candid : display.Candid := run.candid
  have coherent := run.coherent_and_pins.1
  refine ⟨fun noConversion noError => ?_, fun error => ?_⟩
  · have noReset : display.flags.needsReset = false :=
      Bool.or_eq_false_iff.2 ⟨noConversion, noError⟩
    exact Entry.leadingAmount_of_ofText (candid.sound.isLine noReset)
  · have refused : isConvertible display.leadingAmount = false :=
      (candid.notice error).isConvertible
    have idle : dialogue.session.inFlight = none := by
      cases waiting : dialogue.session.inFlight with
      | none => rfl
      | some generation =>
          have noError := (coherent.inFlight (by simp [waiting])).2.2
          cases noError.symm.trans error
    exact ⟨(candid.notice error).leadingAmount,
      fun converter target series now =>
        Converter.plan_of_not_isConvertible refused converter target series now,
      fun target now => Session.convert_of_not_isConvertible idle refused⟩

/-- `1÷` is not finished and offers nothing. Its value with a zero behind it offers an infinity,
and choosing a currency then shows that the amount is not valid. -/
theorem offers_infinity :
    let euro : Converter := ⟨"EUR".toList, ⟨28800, 0⟩, none⟩
    let typed := ((start euro).after ⟨0, .press (.digit 1)⟩).after ⟨0, .press (.operator .div)⟩
    let shown := (typed.after ⟨0, .press (.digit 0)⟩).after ⟨0, .press .evaluate⟩
    typed.session.display.buffer = "1÷".toList ∧ typed.session.display.leadingAmount = 0 ∧
      shown.session.display.buffer = "Infinity".toList ∧
      shown.session.convert "USD".toList 0 = (shown.session.fail .invalidAmount, none) ∧
      (shown.session.convert "USD".toList 0).1.display =
        ⟨"Not valid amount".toList, "1÷0".toList, ⟨true, false, true⟩, false⟩ := by
  intro euro typed shown
  have typing : (start euro).Runs _ typed :=
    (Runs.refl.step ⟨0, .press (.digit 1)⟩ trivial).step ⟨0, .press (.operator .div)⟩ trivial
  have run : (start euro).Runs _ shown :=
    (typing.step ⟨0, .press (.digit 0)⟩ trivial).step ⟨0, .press .evaluate⟩ trivial
  have scanned : Token.ofText typed.session.display.buffer =
      .ok [.numeral ['1'], .operator .div] := by decide +kernel
  have unfinished : ∀ text, Token.ofText typed.session.display.buffer ≠ .ok [.numeral text] := by
    intro text single
    cases scanned.symm.trans single
  obtain ⟨onLine, -⟩ := Reachable.offers ⟨_, typing⟩
  obtain ⟨-, onError⟩ := Reachable.offers ⟨_, run⟩
  obtain ⟨-, -, refused⟩ := onError (by decide +kernel)
  refine ⟨by decide +kernel, (onLine (by decide +kernel) (by decide +kernel)).2 unfinished,
    by decide +kernel, refused _ _, ?_⟩
  rw [refused]
  decide +kernel

end Dialogue

end Keypad
