import Keypad.Session

/-!
# What each command does to a session

One equation for each way a command can turn out, and `Session.Step`, which lists these
ways. An invariant of sessions is a case analysis on `Session.Step`, one case for each
way; it needs neither `Session.press` nor `Session.convert` nor `Session.arrive`.
-/

namespace Keypad

/-- The rate that the outcome of a request gives for its target. -/
def Request.rate (request : Request) (outcome : Except ConversionFault (RatesReply Float)) :
    Except ConversionFault Float := do
  let reply ← outcome
  if reply.success then reply.rates.find request.target else .error .serviceFailed

/-- The display that shows the outcome of a request: the amount of the request in its
target currency, or why there is none. -/
def Display.conclude (display : Display) (request : Request)
    (outcome : Except ConversionFault (RatesReply Float)) : Display :=
  match request.rate outcome with
  | .ok rate => display.showConversion (conversionText request.amount rate request.target)
  | .error fault => display.showError fault.shown fault.clearsPrevious

/-- The converter that keeps the rates of a reply, if they list the target of the request. -/
def Converter.learn (converter : Converter) (request : Request)
    (outcome : Except ConversionFault (RatesReply Float)) (now : Moment) : Converter :=
  match outcome, request.rate outcome with
  | .ok reply, .ok _ => { converter with cache := some ⟨reply.rates, now⟩ }
  | _, _ => converter

/-- Learning changes the rates that are kept, and nothing else. -/
theorem Converter.learn_eq (converter : Converter) (request : Request)
    (outcome : Except ConversionFault (RatesReply Float)) (now : Moment) :
    converter.learn request outcome now =
      { converter with cache := (converter.learn request outcome now).cache } := by
  unfold learn
  split <;> rfl

/-- An outcome gives a rate exactly when it is a reply with success that lists the target. -/
theorem Request.rate_eq_ok_iff {request : Request}
    {outcome : Except ConversionFault (RatesReply Float)} {rate : Float} :
    request.rate outcome = .ok rate ↔
      ∃ reply, outcome = .ok reply ∧ reply.success ∧
        reply.rates.get? request.target = some rate := by
  cases outcome with
  | error fault => simp [Request.rate, bind, Except.bind]
  | ok reply =>
      cases success : reply.success <;> cases listed : reply.rates.get? request.target <;>
        simp [Request.rate, bind, Except.bind, Rates.find, success, listed]

/-- Why the outcome of a request gives no rate: there is no reply, or one without success, or
one that does not list the target. -/
inductive Request.Fails (request : Request) :
    Except ConversionFault (RatesReply Float) → ConversionFault → Prop where
  | unanswered (fault : ConversionFault) : Fails request (.error fault) fault
  | refused {reply : RatesReply Float} (noSuccess : reply.success = false) :
      Fails request (.ok reply) .serviceFailed
  | unlisted {reply : RatesReply Float} (success : reply.success)
      (notListed : reply.rates.get? request.target = none) :
      Fails request (.ok reply) (.unknownCurrency request.target)

/-- An outcome that gives no rate fails for the reason that is reported. -/
theorem Request.fails_of_rate {request : Request}
    {outcome : Except ConversionFault (RatesReply Float)} {fault : ConversionFault}
    (faulted : request.rate outcome = .error fault) : request.Fails outcome fault := by
  cases outcome with
  | error fault =>
      cases faulted
      exact .unanswered fault
  | ok reply =>
      have found : (if reply.success then reply.rates.find request.target
          else .error .serviceFailed) = .error fault := faulted
      split at found
      · rename_i success
        unfold Rates.find at found
        split at found
        · cases found
        · rename_i notListed
          cases found
          exact .unlisted success notListed
      · rename_i noSuccess
        cases found
        exact .refused (eq_false_of_ne_true noSuccess)

theorem Converter.learn_of_rate {converter : Converter} {request : Request}
    {reply : RatesReply Float} {rate : Float} (rated : request.rate (.ok reply) = .ok rate)
    (now : Moment) :
    converter.learn request (.ok reply) now =
      { converter with cache := some ⟨reply.rates, now⟩ } := by
  simp only [learn, rated]

theorem Converter.learn_of_fault {converter : Converter} {request : Request}
    {outcome : Except ConversionFault (RatesReply Float)} {fault : ConversionFault}
    (faulted : request.rate outcome = .error fault) (now : Moment) :
    converter.learn request outcome now = converter := by
  cases outcome with
  | error => rfl
  | ok reply => simp only [learn, faulted]

/-- Fresh rates are the rates that are kept. -/
theorem Converter.exists_cache_of_freshRates? {converter : Converter} {now : Moment}
    {rates : Rates Float} (fresh : converter.freshRates? now = some rates) :
    ∃ cached, converter.cache = some cached ∧ cached.rates = rates := by
  unfold freshRates? at fresh
  split at fresh
  · rename_i cached kept
    split at fresh
    · exact ⟨cached, kept, Option.some.inj fresh⟩
    · cases fresh
  · cases fresh

/-- The rates that are kept are used while they are fresh. -/
theorem Converter.freshRates?_of_isFresh {converter : Converter} {now : Moment}
    {cached : CachedRates} (kept : converter.cache = some cached)
    (fresh : Moment.isFresh cached.stored now converter.lifetime) :
    converter.freshRates? now = some cached.rates := by
  simp [freshRates?, kept, fresh]

/-- No rates are used when none are kept or those are not fresh. -/
theorem Converter.freshRates?_eq_none_iff {converter : Converter} {now : Moment} :
    converter.freshRates? now = none ↔
      ∀ cached, converter.cache = some cached →
        Moment.isFresh cached.stored now converter.lifetime = false := by
  unfold freshRates?
  split
  · rename_i cached kept
    simp [kept]
  · rename_i nothing
    simp [nothing]

/-- Nothing but the clear key asks to forget the pinned amount on a display that needs no
reset. -/
theorem Display.signal_ne_resetCurrency_of_act {display next : Display} {key : Key}
    {signal : Option Signal} (other : key ≠ .clear) (acts : display.act key = .ok (next, signal)) :
    signal ≠ some .resetCurrency := by
  cases key with
  | clear => exact absurd rfl other
  | evaluate =>
      cases shown : display.evaluate with
      | error fault =>
          rw [act, shown] at acts
          cases acts
      | ok result =>
          rw [act, shown] at acts
          cases acts
          simp
  | _ =>
      cases acts
      simp

namespace Series

/-- The amount that a conversion converts: the pinned one, or else the one on display. -/
def amount (series : Series) (displayed : Float) : Float :=
  series.pinned.getD displayed

/-- The series with that amount pinned. -/
def pin (series : Series) (displayed : Float) : Series :=
  { series with pinned := some (series.amount displayed) }

/-- The text that announces the amount, if it is pinned now. -/
def news? (series : Series) (displayed : Float) : Option Text :=
  if series.pinned.isSome then none else some (announcement displayed series.base)

end Series

namespace Converter

section Plan

variable {displayed : Float} (convertible : isConvertible displayed) {converter : Converter}
  {series : Series} {target : Text} {now : Moment}

include convertible

theorem plan_of_listed {rates : Rates Float} {rate : Float}
    (fresh : converter.freshRates? now = some rates) (listed : rates.get? target = some rate) :
    converter.plan displayed target series now =
      (series.pin displayed,
        .ok (.ready (series.amount displayed) rate, series.news? displayed)) := by
  cases pinned : series.pinned <;>
    simp [plan, convertible, fresh, Rates.find, listed, Series.pin, Series.amount,
      Series.news?, pinned, Functor.map, Except.map]

theorem plan_of_not_listed {rates : Rates Float}
    (fresh : converter.freshRates? now = some rates) (notListed : rates.get? target = none) :
    converter.plan displayed target series now =
      (series.pin displayed, .error (.unknownCurrency target)) := by
  cases pinned : series.pinned <;>
    simp [plan, convertible, fresh, Rates.find, notListed, Series.pin, Series.amount, pinned,
      Functor.map, Except.map]

theorem plan_of_not_fresh (notFresh : converter.freshRates? now = none) :
    converter.plan displayed target series now =
      (series.pin displayed,
        .ok (.fetch (series.amount displayed) series.base, series.news? displayed)) := by
  cases pinned : series.pinned <;>
    simp [plan, convertible, notFresh, Series.pin, Series.amount, Series.news?, pinned]

end Plan

end Converter

namespace Session

variable {session : Session} {key : Key} {target : Text} {now : Moment}

/-- Whether a key starts the session over. -/
def Resets (session : Session) (key : Key) : Prop :=
  key = .clear ∨ session.inFlight = none ∧ session.display.flags.needsReset

theorem unreset_of_not_resets (noReset : ¬session.Resets key) (idle : session.inFlight = none) :
    session.display.flags.needsReset = false := by
  simpa [idle] using (not_or.1 noReset).2

/-- The session started over by a key. -/
def restart (session : Session) (key : Key) : Session :=
  { session with display := .restarted key }.forget

theorem press_of_resets (resets : session.Resets key) :
    session.press key = session.restart key := by
  rcases resets with rfl | ⟨idle, reset⟩
  · simp [press, restart, Display.restarted, Key.isLiteral]
  · by_cases clear : key = .clear
    · subst clear
      simp [press, restart, Display.restarted, Key.isLiteral]
    · simp [press, idle, Display.press_of_needsReset reset clear, restart]

/-- A key that does not start the session over changes the display alone, if anything. -/
theorem press_of_not_resets (noReset : ¬session.Resets key) :
    session.press key = session ∨
      session.inFlight = none ∧ session.display.flags.needsReset = false ∧
        ∃ display signal, session.display.act key = .ok (display, signal) ∧
          session.press key = { session with display := display } := by
  have other : key ≠ .clear := (not_or.1 noReset).1
  cases waiting : session.inFlight with
  | some generation => exact .inl (press_of_inFlight (by simp [waiting]) other)
  | none =>
      have unreset := unreset_of_not_resets noReset waiting
      have pressed : session.display.press key = session.display.act key := by
        simp [Display.press, unreset]
      cases acts : session.display.act key with
      | error fault =>
          left
          simp [press, waiting, pressed, acts]
      | ok result =>
          obtain ⟨display, signal⟩ := result
          refine .inr ⟨rfl, unreset, display, signal, rfl, ?_⟩
          have noSignal := Display.signal_ne_resetCurrency_of_act other acts
          have notBusy : ¬(session.inFlight.isSome ∧ key ≠ .clear) := by simp [waiting]
          rw [press, if_neg notBusy, pressed, acts]
          split
          · rename_i faulted
            cases faulted
          · rename_i resets
            cases resets
            exact absurd rfl noSignal
          · rename_i shown
            cases shown
            rw [← waiting]

/-- The amount that a conversion converts. -/
def amount (session : Session) : Float :=
  session.series.amount session.display.leadingAmount

/-- The session with its amount pinned. -/
def pin (session : Session) : Session :=
  { session with series := session.series.pin session.display.leadingAmount }

/-- The session with its amount pinned, and announced above the line if it is pinned now. -/
def announce (session : Session) : Session :=
  { session.pin with
    display := { session.display with
      previous :=
        (session.series.news? session.display.leadingAmount).getD session.display.previous
      pickerOpen := false } }

/-- The request that a conversion without fresh rates starts. -/
def request (session : Session) (target : Text) : Request :=
  ⟨session.generation + 1, session.series.base, target, session.amount⟩

/-- The session that waits for the outcome of its next request. -/
def await (session : Session) : Session :=
  { session.announce with
    generation := session.generation + 1
    inFlight := some (session.generation + 1) }

/-- What a session does with the series and the plan of a conversion. -/
def proceed (session : Session) (target : Text) :
    Series × Except ConversionFault (Plan × Option Text) → Session × Option Request
  | (series, .error fault) => ({ session with series := series }.fail fault, none)
  | (series, .ok (.ready amount rate, news)) =>
      ({ session with
          display := { session.display with previous := news.getD session.display.previous }
          series := series }.succeed amount rate target, none)
  | (series, .ok (.fetch amount base, news)) =>
      ({ session with
          display :=
            { session.display with
              previous := news.getD session.display.previous
              pickerOpen := false }
          series := series
          generation := session.generation + 1
          inFlight := some (session.generation + 1) },
        some ⟨session.generation + 1, base, target, amount⟩)

/-- Without a request in flight, a conversion plans with the amount on display. -/
theorem convert_of_idle (idle : session.inFlight = none) :
    session.convert target now =
      session.proceed target
        (session.converter.plan session.display.leadingAmount target session.series now) := by
  have closed : ({ session.display with pickerOpen := false } : Display).leadingAmount =
      session.display.leadingAmount := rfl
  have notBusy : ¬session.inFlight.isSome := by simp [idle]
  rw [convert, if_neg notBusy]
  simp only [closed]
  generalize session.converter.plan session.display.leadingAmount target session.series now =
    planned
  obtain ⟨series, fault | ⟨plan | plan, news⟩⟩ := planned <;> rfl

section Convert

variable (idle : session.inFlight = none)

include idle

theorem convert_of_not_isConvertible
    (refused : isConvertible session.display.leadingAmount = false) :
    session.convert target now = (session.fail .invalidAmount, none) := by
  rw [convert_of_idle idle, Converter.plan_of_not_isConvertible refused]
  rfl

variable (convertible : isConvertible session.display.leadingAmount)

include convertible

theorem convert_of_listed {rates : Rates Float} {rate : Float}
    (fresh : session.converter.freshRates? now = some rates)
    (listed : rates.get? target = some rate) :
    session.convert target now = (session.announce.succeed session.amount rate target, none) := by
  rw [convert_of_idle idle, Converter.plan_of_listed convertible fresh listed]
  rfl

theorem convert_of_not_listed {rates : Rates Float}
    (fresh : session.converter.freshRates? now = some rates)
    (notListed : rates.get? target = none) :
    session.convert target now = (session.pin.fail (.unknownCurrency target), none) := by
  rw [convert_of_idle idle, Converter.plan_of_not_listed convertible fresh notListed]
  rfl

theorem convert_of_not_fresh (notFresh : session.converter.freshRates? now = none) :
    session.convert target now = (session.await, some (session.request target)) := by
  rw [convert_of_idle idle, Converter.plan_of_not_fresh convertible notFresh]
  rfl

end Convert

/-- The outcome of the request in flight is shown, and nothing is in flight any more. -/
theorem arrive_of_inFlight {request : Request}
    (waiting : session.inFlight = some request.generation)
    (outcome : Except ConversionFault (RatesReply Float)) :
    session.arrive request outcome now =
      { session with
        display := session.display.conclude request outcome
        converter := session.converter.learn request outcome now
        inFlight := none } := by
  have current : ¬session.inFlight ≠ some request.generation := by simp [waiting]
  rw [arrive, if_neg current]
  cases outcome with
  | error fault => rfl
  | ok reply =>
      obtain ⟨success, base, rates⟩ := reply
      cases success with
      | false => rfl
      | true =>
          have learned : request.rate (.ok ⟨true, base, rates⟩) = rates.find request.target := rfl
          simp only [Display.conclude, Converter.learn, learned]
          cases listed : rates.find request.target <;>
            simp [Converter.accept, listed, bind, Except.bind, pure, Except.pure, succeed, fail]

/-- The outcome of the request in flight either gives a rate and puts the amount of the request
on display, or it fails and puts the reason there. -/
theorem arrive_cases {request : Request} (waiting : session.inFlight = some request.generation)
    (outcome : Except ConversionFault (RatesReply Float)) (now : Moment) :
    (∃ reply rate, outcome = .ok reply ∧ reply.success ∧
      reply.rates.get? request.target = some rate ∧
      session.arrive request outcome now =
        { session with
          display :=
            { buffer := conversionText request.amount rate request.target
              previous := session.display.previous
              flags := { session.display.flags with conversion := true }
              pickerOpen := false }
          converter := { session.converter with cache := some ⟨reply.rates, now⟩ }
          inFlight := none }) ∨
    ∃ fault, request.Fails outcome fault ∧
      session.arrive request outcome now =
        { session with
          display :=
            { buffer := fault.shown
              previous := if fault.clearsPrevious then [] else session.display.previous
              flags := { session.display.flags with error := true }
              pickerOpen := false }
          inFlight := none } := by
  have arrived : session.arrive request outcome now = _ := arrive_of_inFlight waiting outcome
  cases rated : request.rate outcome with
  | ok rate =>
      obtain ⟨reply, rfl, success, listed⟩ := Request.rate_eq_ok_iff.1 rated
      refine .inl ⟨reply, rate, rfl, success, listed, arrived.trans ?_⟩
      simp only [Display.conclude, rated, Converter.learn_of_rate rated]
      rfl
  | error fault =>
      refine .inr ⟨fault, Request.fails_of_rate rated, arrived.trans ?_⟩
      simp only [Display.conclude, rated, Converter.learn_of_fault rated]
      rfl

end Session

/-- A command, and the time at which it is handled. -/
structure Turn where
  now : Moment
  command : Command

namespace Session

/-- The ways a turn can change a session, with the request that it starts. -/
inductive Step (session : Session) : Turn → Session → Option Request → Prop where
  | unchanged {turn : Turn}
      (stale : ∀ request outcome, turn.command = .arrive request outcome →
        session.inFlight ≠ some request.generation) :
      Step session turn session none
  | restarts {now : Moment} {key : Key} (resets : session.Resets key) :
      Step session ⟨now, .press key⟩ (session.restart key) none
  | acts {now : Moment} {key : Key} {display : Display} {signal : Option Signal}
      (noReset : ¬session.Resets key) (idle : session.inFlight = none)
      (acts : session.display.act key = .ok (display, signal)) :
      Step session ⟨now, .press key⟩ { session with display := display } none
  | refuses {now : Moment} {target : Text} (idle : session.inFlight = none)
      (refused : isConvertible session.display.leadingAmount = false) :
      Step session ⟨now, .convert target⟩ (session.fail .invalidAmount) none
  | converts {now : Moment} {target : Text} {rates : Rates Float} {rate : Float}
      (idle : session.inFlight = none)
      (convertible : isConvertible session.display.leadingAmount)
      (fresh : session.converter.freshRates? now = some rates)
      (listed : rates.get? target = some rate) :
      Step session ⟨now, .convert target⟩
        (session.announce.succeed session.amount rate target) none
  | misses {now : Moment} {target : Text} {rates : Rates Float}
      (idle : session.inFlight = none)
      (convertible : isConvertible session.display.leadingAmount)
      (fresh : session.converter.freshRates? now = some rates)
      (notListed : rates.get? target = none) :
      Step session ⟨now, .convert target⟩ (session.pin.fail (.unknownCurrency target)) none
  | requests {now : Moment} {target : Text} (idle : session.inFlight = none)
      (convertible : isConvertible session.display.leadingAmount)
      (notFresh : session.converter.freshRates? now = none) :
      Step session ⟨now, .convert target⟩ session.await (some (session.request target))
  | dismisses {now : Moment} :
      Step session ⟨now, .dismissPicker⟩
        { session with display := { session.display with pickerOpen := false } } none
  | concludes {now : Moment} {request : Request}
      {outcome : Except ConversionFault (RatesReply Float)}
      (waiting : session.inFlight = some request.generation) :
      Step session ⟨now, .arrive request outcome⟩
        { session with
          display := session.display.conclude request outcome
          converter := session.converter.learn request outcome now
          inFlight := none } none

/-- Every turn goes one of these ways. -/
theorem step_handle (session : Session) (turn : Turn) :
    session.Step turn (session.handle turn.now turn.command).1
      (session.handle turn.now turn.command).2 := by
  obtain ⟨now, command⟩ := turn
  cases command with
  | press key =>
      change session.Step _ (session.press key) none
      by_cases resets : session.Resets key
      · rw [press_of_resets resets]
        exact .restarts resets
      · obtain same | ⟨idle, -, display, signal, acts, pressed⟩ := press_of_not_resets resets
        · rw [same]
          exact .unchanged nofun
        · rw [pressed]
          exact .acts resets idle acts
  | convert target =>
      change session.Step _ (session.convert target now).1 (session.convert target now).2
      cases waiting : session.inFlight with
      | some generation =>
          rw [convert_of_inFlight (by simp [waiting])]
          exact .unchanged nofun
      | none =>
          cases convertible : isConvertible session.display.leadingAmount with
          | false =>
              rw [convert_of_not_isConvertible waiting convertible]
              exact .refuses waiting convertible
          | true =>
              cases fresh : session.converter.freshRates? now with
              | none =>
                  rw [convert_of_not_fresh waiting convertible fresh]
                  exact .requests waiting convertible fresh
              | some rates =>
                  cases listed : rates.get? target with
                  | none =>
                      rw [convert_of_not_listed waiting convertible fresh listed]
                      exact .misses waiting convertible fresh listed
                  | some rate =>
                      rw [convert_of_listed waiting convertible fresh listed]
                      exact .converts waiting convertible fresh listed
  | dismissPicker => exact .dismisses
  | arrive request outcome =>
      change session.Step _ (session.arrive request outcome now) none
      by_cases waiting : session.inFlight = some request.generation
      · rw [arrive_of_inFlight waiting]
        exact .concludes waiting
      · rw [arrive_of_ne waiting]
        refine .unchanged ?_
        rintro _ _ ⟨rfl, rfl⟩
        exact waiting
  | sync => exact .unchanged nofun

end Session

end Keypad
