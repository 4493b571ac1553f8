import Keypad.Proofs.Session.Pinning

/-!
# Waiting for an outcome

While a request is in flight, a session does not move: no command but the clear key and
the outcome of that very request changes anything. When that outcome comes, it finds the
session as it was, and what it puts on display is the amount and the target of the request
it belongs to, or the reason why there is no rate.

The commands may be any commands here, whether or not they could come in a dialogue. Only
the session that they meet has to be one that a dialogue leads to, because a session that
waits has closed its picker.
-/

namespace Keypad

/-- Whether a command leaves the request of a generation alone: it is not the clear key,
and not the outcome of that request. -/
def Command.spares (generation : Nat) : Command → Bool
  | .press key => key ≠ .clear
  | .arrive request _ => request.generation ≠ generation
  | .convert _ | .dismissPicker | .sync => true

namespace Session

/-- The session after several turns, and the requests that they start. -/
def handleAll (session : Session) : List Turn → Session × List Request
  | [] => (session, [])
  | turn :: turns =>
      let (next, started) := session.handle turn.now turn.command
      let (last, later) := next.handleAll turns
      (last, started.toList ++ later)

section Waiting

variable {session : Session} {generation : Nat} (waiting : session.inFlight = some generation)

include waiting

/-- A command that leaves the request in flight alone changes nothing. -/
theorem handle_of_spares (closed : session.display.pickerOpen = false) {command : Command}
    (spares : command.spares generation) (now : Moment) :
    session.handle now command = (session, none) := by
  have busy : session.inFlight.isSome := by simp [waiting]
  cases command with
  | press key => rw [handle, press_of_inFlight busy (of_decide_eq_true spares)]
  | convert target => exact convert_of_inFlight busy target now
  | dismissPicker =>
      have same : { session.display with pickerOpen := false } = session.display := by
        rw [← closed]
      rw [handle, same]
  | arrive request outcome =>
      have other : session.inFlight ≠ some request.generation := by
        simpa [waiting] using Ne.symm (of_decide_eq_true spares)
      rw [handle, arrive_of_ne other]
  | sync => rfl

/-- Commands that leave the request in flight alone change nothing. -/
theorem handleAll_of_spares (closed : session.display.pickerOpen = false) {turns : List Turn}
    (spares : ∀ turn ∈ turns, turn.command.spares generation) :
    session.handleAll turns = (session, []) := by
  induction turns with
  | nil => rfl
  | cons turn turns inductionHypothesis =>
      obtain ⟨first, rest⟩ := List.forall_mem_cons.1 spares
      rw [handleAll, handle_of_spares waiting closed first]
      simp [inductionHypothesis rest]

end Waiting

end Session

namespace Dialogue

/-- While a request is in flight, nothing but the clear key and its own outcome changes the
session or starts another request. Its outcome then shows its own amount in its own target
currency and leaves its rates to be kept, or it shows why there is none, and after a failure of
the network the line above goes too. -/
theorem Reachable.handleAll_of_inFlight {converter : Converter} {dialogue : Dialogue}
    (reachable : Reachable converter dialogue) {generation : Nat}
    (waiting : dialogue.session.inFlight = some generation) :
    ∃ request ∈ dialogue.outstanding, request.generation = generation ∧
      (∀ other ∈ dialogue.outstanding, other.generation = generation → other = request) ∧
      ∀ turns, (∀ turn ∈ turns, turn.command.spares generation) →
        dialogue.session.handleAll turns = (dialogue.session, []) ∧
        ∀ now outcome,
          let display := dialogue.session.display
          let arrived :=
            (dialogue.session.handleAll turns).1.handle now (.arrive request outcome)
          (∃ reply rate, outcome = .ok reply ∧ reply.success ∧
            reply.rates.get? request.target = some rate ∧
            arrived = ({ dialogue.session with
              display :=
                { buffer := conversionText request.amount rate request.target
                  previous := display.previous
                  flags := { display.flags with conversion := true }
                  pickerOpen := false }
              converter := { dialogue.session.converter with cache := some ⟨reply.rates, now⟩ }
              inFlight := none }, none)) ∨
          ∃ fault, request.Fails outcome fault ∧
            arrived = ({ dialogue.session with
              display :=
                { buffer := fault.shown
                  previous := if fault.clearsPrevious then [] else display.previous
                  flags := { display.flags with error := true }
                  pickerOpen := false }
              inFlight := none }, none) := by
  have numbered := reachable.numbered
  obtain ⟨turns, run⟩ := reachable
  obtain ⟨-, request, member, same⟩ := numbered.inFlight generation waiting
  have closed : dialogue.session.display.pickerOpen = false :=
    (run.coherent_and_pins.1.inFlight (by simp [waiting])).2.1
  refine ⟨request, member, same, ?_, ?_⟩
  · intro other otherMember alike
    exact numbered.eq_of_generation_eq otherMember member (alike.trans same.symm)
  · intro turns spares
    have unmoved := Session.handleAll_of_spares waiting closed spares
    refine ⟨unmoved, ?_⟩
    intro now outcome display arrived
    have waited : dialogue.session.inFlight = some request.generation :=
      waiting.trans (congrArg some same.symm)
    have handled : arrived = (dialogue.session.arrive request outcome now, none) := by
      simp only [arrived, unmoved]
      rfl
    rw [handled]
    rcases Session.arrive_cases waited outcome now with
      ⟨reply, rate, isReply, success, listed, shown⟩ | ⟨fault, fails, shown⟩
    · exact .inl ⟨reply, rate, isReply, success, listed, congrArg (·, none) shown⟩
    · exact .inr ⟨fault, fails, congrArg (·, none) shown⟩

/-- A conversion of `7` is given up and one of `5` asked for. Keys, a third conversion and
the late outcome of the first change nothing, and then `5` is converted. After a failure, or
with a reply that does not list the pound, the display says so instead. -/
theorem handleAll_of_inFlight_late :
    let euro : Converter := ⟨"EUR".toList, ⟨28800, 0⟩, none⟩
    let dollar : Text := "USD".toList
    let pound : Text := "GBP".toList
    let dollars := Rates.empty.insert dollar 3
    let reply : RatesReply Float := ⟨true, euro.base, dollars.insert pound 2⟩
    let refused : RatesReply Float := ⟨false, euro.base, reply.rates⟩
    let unlisted : RatesReply Float := ⟨true, euro.base, dollars⟩
    let noNetwork : ConversionFault := .network "unreachable".toList
    let seven := (start euro).after ⟨0, .press (.digit 7)⟩
    let cleared := (seven.after ⟨0, .convert dollar⟩).after ⟨1, .press .clear⟩
    let five := cleared.after ⟨2, .press (.digit 5)⟩
    let request := five.session.request pound
    let asked := five.after ⟨2, .convert pound⟩
    let turns : List Turn :=
      [⟨3, .press (.digit 9)⟩, ⟨3, .convert dollar⟩, ⟨3, .dismissPicker⟩,
        ⟨4, .arrive (seven.session.request dollar) (.ok reply)⟩, ⟨4, .sync⟩]
    let shown (outcome : Except ConversionFault (RatesReply Float)) : Display :=
      ((asked.session.handleAll turns).1.handle 5 (.arrive request outcome)).1.display
    asked.session.inFlight = some 2 ∧ asked.session.display.previous = "5 EUR".toList ∧
      asked.session.handleAll turns = (asked.session, []) ∧
      shown (.ok reply) =
        ⟨"10.00 GBP".toList, "5 EUR".toList, ⟨false, true, false⟩, false⟩ ∧
      shown (.ok refused) = ⟨"API failed".toList, "5 EUR".toList, ⟨false, false, true⟩, false⟩ ∧
      shown (.ok unlisted) =
        ⟨"Invalid currency!".toList, "5 EUR".toList, ⟨false, false, true⟩, false⟩ ∧
      shown (.error noNetwork) = ⟨"No network".toList, [], ⟨false, false, true⟩, false⟩ := by
  intro euro dollar pound dollars reply refused unlisted noNetwork seven cleared five request
    asked turns shown
  have asks : five.session.convert pound 2 = (five.session.await, some request) :=
    Session.convert_of_not_fresh (by decide +kernel) (by decide +kernel)
      (Option.isNone_iff_eq_none.1 (by decide +kernel))
  have run : (start euro).Runs _ asked :=
    ((((Runs.refl.step ⟨0, .press (.digit 7)⟩ trivial).step ⟨0, .convert dollar⟩ trivial).step
      ⟨1, .press .clear⟩ trivial).step ⟨2, .press (.digit 5)⟩ trivial).step
      ⟨2, .convert pound⟩ trivial
  have waiting : asked.session.inFlight = some 2 := by decide +kernel
  obtain ⟨waited, -, -, unique, frozen⟩ :=
    Reachable.handleAll_of_inFlight ⟨_, run⟩ waiting
  cases unique _ (mem_outstanding_after (congrArg Prod.snd asks)) (by decide +kernel)
  have spares : ∀ turn ∈ turns, turn.command.spares 2 := by decide +kernel
  obtain ⟨unmoved, ends⟩ := frozen turns spares
  have shows {outcome : Except ConversionFault (RatesReply Float)}
      {next : Session × Option Request}
      (arrived : (asked.session.handleAll turns).1.handle 5 (.arrive request outcome) = next) :
      shown outcome = next.1.display := congrArg (·.1.display) arrived
  refine ⟨waiting, by decide +kernel, unmoved, ?_, ?_, ?_, ?_⟩
  · rcases ends 5 (.ok reply) with ⟨_, rate, ⟨⟩, -, listed, arrived⟩ | ⟨fault, fails, -⟩
    · cases listed
      rw [shows arrived]
      decide +kernel
    · cases fails with
      | refused noSuccess => cases noSuccess
      | unlisted success notListed => cases notListed
  · rcases ends 5 (.ok refused) with ⟨_, rate, ⟨⟩, success, -⟩ | ⟨fault, fails, arrived⟩
    · cases success
    · cases fails with
      | refused =>
          rw [shows arrived]
          decide +kernel
      | unlisted success => cases success
  · rcases ends 5 (.ok unlisted) with ⟨_, rate, ⟨⟩, -, listed, -⟩ | ⟨fault, fails, arrived⟩
    · cases listed
    · cases fails with
      | refused noSuccess => cases noSuccess
      | unlisted =>
          rw [shows arrived]
          decide +kernel
  · rcases ends 5 (.error noNetwork) with ⟨_, rate, ⟨⟩, -⟩ | ⟨fault, ⟨⟩, arrived⟩
    rw [shows arrived]
    decide +kernel

end Dialogue

end Keypad
