import Keypad.Proofs.Display.Soundness
import Keypad.Proofs.Session.Dialogue

/-!
# The pinned amount

An amount is pinned as long as a conversion of it is under way or on display, and no
longer. `Session.Coherent` says this of the state, which is spread over the flags of the
display, the series of conversions and the request in flight. Every turn keeps it, so it
holds after every run.

Refusals are what ties the parts together: a display that shows an error offers no amount
that can be converted, so a request never starts from it.
-/

namespace Keypad

/-- No error message starts with an amount. -/
theorem ConversionFault.leadingAmount_shown (fault : ConversionFault) :
    Entry.leadingAmount fault.shown = 0 := by
  cases fault with
  | unknownCurrency =>
      change Entry.leadingAmount "Invalid currency!".toList = 0
      decide +kernel
  | network =>
      change Entry.leadingAmount "No network".toList = 0
      decide +kernel
  | invalidAmount | serviceFailed | timedOut => decide +kernel

theorem ConversionFault.isConvertible_shown (fault : ConversionFault) :
    isConvertible (Entry.leadingAmount fault.shown) = false := by
  rw [fault.leadingAmount_shown]
  decide +kernel

/-- The text of a value that is not finite is read as one that is not. -/
theorem Readout.isFinite_leadingAmount_result {x : Float} (infinite : Binary.isFinite x = false) :
    Binary.isFinite (Entry.leadingAmount (result x)) = false := by
  unfold Binary.isFinite at infinite
  unfold result
  split at infinite
  · cases infinite
  · rename_i other
    cases view : Binary.view x with
    | finite negative significand exponent => exact absurd view (other _ _ _)
    | notANumber => decide +kernel
    | infinite negative => cases negative <;> decide +kernel

theorem Readout.isConvertible_result {x : Float} (infinite : Binary.isFinite x = false) :
    isConvertible (Entry.leadingAmount (result x)) = false := by
  rw [isConvertible, isFinite_leadingAmount_result infinite, Bool.false_and]

namespace Display

/-- A display that shows an error offers no amount that can be converted. -/
def Refuses (display : Display) : Prop :=
  display.flags.error → isConvertible display.leadingAmount = false

theorem refuses_of_error {display : Display} (noError : display.flags.error = false) :
    display.Refuses := by
  intro error
  simp [noError] at error

theorem refuses_showError (display : Display) (fault : ConversionFault) (clearPrevious : Bool) :
    (display.showError fault.shown clearPrevious).Refuses :=
  fun _ => fault.isConvertible_shown

section Keys

variable {display : Display}

@[simp] theorem conversion_withLine? (line? : Option Text) :
    (display.withLine? line?).flags.conversion = display.flags.conversion := by
  cases line? <;> rfl

@[simp] theorem error_withLine? (line? : Option Text) :
    (display.withLine? line?).flags.error = display.flags.error := by
  cases line? <;> rfl

@[simp] theorem conversion_type (key : Key) :
    (display.type key).flags.conversion = display.flags.conversion := by
  unfold type
  split
  · rfl
  · simp
  · split
    · rfl
    · simp

@[simp] theorem error_type (key : Key) :
    (display.type key).flags.error = display.flags.error := by
  unfold type
  split
  · rfl
  · simp
  · split
    · rfl
    · simp

/-- A key on a display that needs no reset brings no error but a value that is not finite. -/
theorem error_of_act (noReset : display.flags.needsReset = false) {key : Key} {next : Display}
    {signal : Option Signal} (acts : display.act key = .ok (next, signal)) :
    next.flags.conversion = false ∧ (next.flags.error →
      ∃ value, Binary.isFinite value = false ∧ next = display.showResult value) := by
  obtain ⟨noConversion, noError⟩ := Bool.or_eq_false_iff.1 noReset
  cases key with
  | evaluate =>
      cases valued : Expression.evaluate (Entry.expression display.buffer) with
      | error fault =>
          have faulted : display.evaluate = .error fault := by
            rw [evaluate, valued]
            rfl
          rw [act, faulted] at acts
          cases acts
      | ok value =>
          rw [act, evaluate_eq valued] at acts
          cases acts
          refine ⟨noConversion, fun error => ⟨value, ?_, rfl⟩⟩
          simpa [showResult, noError] using error
  | backspace =>
      cases acts
      unfold backspace
      split
      · exact ⟨noConversion, fun error => by simp [noError] at error⟩
      · exact ⟨noConversion, fun error => by simp [noError] at error⟩
  | clear =>
      cases acts
      exact ⟨rfl, fun error => absurd error Bool.false_ne_true⟩
  | decoration | convert =>
      cases acts
      exact ⟨noConversion, fun error => by simp [noError] at error⟩
  | operator _ | digit _ | point =>
      cases acts
      exact ⟨by simpa using noConversion, fun error => by simp [noError] at error⟩

/-- A key on a display that needs no reset brings no conversion on display, and no error
beside an amount that can be converted. -/
theorem refuses_of_act (noReset : display.flags.needsReset = false) {key : Key} {next : Display}
    {signal : Option Signal} (acts : display.act key = .ok (next, signal)) :
    next.flags.conversion = false ∧ next.Refuses := by
  obtain ⟨noConversion, shows⟩ := error_of_act noReset acts
  refine ⟨noConversion, fun error => ?_⟩
  obtain ⟨value, infinite, rfl⟩ := shows error
  exact Readout.isConvertible_result infinite

end Keys

end Display

/-- The rates that a turn brings: those of a reply with success. -/
def Turn.rates? (turn : Turn) : Option (Rates Float) :=
  match turn.command with
  | .arrive _ (.ok reply) => if reply.success then some reply.rates else none
  | _ => none

/-- The rate tables that come up in some turns: the one a converter kept from before, and
those of the replies with success. -/
def Converter.tables (converter : Converter) (turns : List Turn) : List (Rates Float) :=
  (converter.cache.map (·.rates)).toList ++ turns.filterMap (·.rates?)

theorem Converter.tables_concat (converter : Converter) (turns : List Turn) (turn : Turn) :
    converter.tables (turns ++ [turn]) = converter.tables turns ++ turn.rates?.toList := by
  rw [tables, tables, List.filterMap_append, List.append_assoc, List.filterMap_cons,
    List.filterMap_nil]
  cases turn.rates? <;> rfl

namespace Session

variable {session : Session}

/-- The amount is pinned, and stands above the line with the base currency. -/
def Announces (session : Session) (amount : Float) : Prop :=
  session.series.pinned = some amount ∧
    session.display.previous = announcement amount session.series.base

/-- The line shows an amount in another currency, at a rate from one of the tables. -/
def Shows (session : Session) (tables : List (Rates Float)) (amount : Float) : Prop :=
  ∃ table ∈ tables, ∃ target rate, table.get? target = some rate ∧
    session.display.buffer = conversionText amount rate target

/-- What ties the display, the series and the request in flight together. The last two
parts carry the others through a conversion: no request starts from a display that shows an
error, and a conversion that asks for no rates finds its rate in a table that came up. -/
structure Coherent (converter : Converter) (tables : List (Rates Float)) (session : Session) :
    Prop where
  base : session.series.base = converter.base ∧ session.converter.base = converter.base
  convertible : ∀ amount, session.series.pinned = some amount → isConvertible amount
  pinned : session.series.pinned.isSome →
    session.inFlight.isSome ∨ session.display.flags.conversion ∨ session.display.flags.error
  inFlight : session.inFlight.isSome → (∃ amount, session.Announces amount) ∧
    session.display.pickerOpen = false ∧ session.display.flags.error = false
  conversion : session.display.flags.conversion → session.display.flags.error = false →
    ∃ amount, session.Announces amount ∧ session.Shows tables amount
  refuses : session.display.Refuses
  cached : ∀ cached, session.converter.cache = some cached → cached.rates ∈ tables

namespace Coherent

theorem start (converter : Converter) :
    Coherent converter (converter.tables []) (.start converter) where
  base := ⟨rfl, rfl⟩
  convertible := nofun
  pinned := nofun
  inFlight := nofun
  conversion := nofun
  refuses := nofun
  cached := by
    intro cached kept
    have kept : converter.cache = some cached := kept
    simp [Converter.tables, kept]

section After

variable (session) {converter : Converter} {tables : List (Rates Float)}
  (idle : session.inFlight = none)
  (base : session.series.base = converter.base ∧ session.converter.base = converter.base)
  (convertible : ∀ amount, session.series.pinned = some amount → isConvertible amount)
  (cached : ∀ cached, session.converter.cache = some cached → cached.rates ∈ tables)

include idle base convertible cached

/-- A session that shows why a conversion failed. -/
theorem fail (fault : ConversionFault) : (session.fail fault).Coherent converter tables where
  base := base
  convertible := convertible
  pinned _ := .inr (.inr rfl)
  inFlight waiting := by simp [Session.fail, idle] at waiting
  conversion _ noError := nomatch noError
  refuses := Display.refuses_showError session.display fault fault.clearsPrevious
  cached := cached

/-- A session that shows the announced amount in another currency. -/
theorem succeed {amount rate : Float} {target : Text} {table : Rates Float}
    (noError : session.display.flags.error = false) (announces : session.Announces amount)
    (member : table ∈ tables) (listed : table.get? target = some rate) :
    (session.succeed amount rate target).Coherent converter tables where
  base := base
  convertible := convertible
  pinned _ := .inr (.inl rfl)
  inFlight waiting := by simp [Session.succeed, idle] at waiting
  conversion _ _ := ⟨amount, announces, table, member, target, rate, listed, rfl⟩
  refuses := Display.refuses_of_error noError
  cached := cached

end After

variable {converter : Converter} {tables : List (Rates Float)}
  (coherent : session.Coherent converter tables)

include coherent

/-- More tables do not matter. -/
theorem mono {more : List (Rates Float)} (subset : tables ⊆ more) :
    session.Coherent converter more where
  base := coherent.base
  convertible := coherent.convertible
  pinned := coherent.pinned
  inFlight := coherent.inFlight
  conversion := by
    intro conversion noError
    obtain ⟨amount, announces, table, member, shows⟩ := coherent.conversion conversion noError
    exact ⟨amount, announces, table, subset member, shows⟩
  refuses := coherent.refuses
  cached := fun cached kept => subset (coherent.cached cached kept)

/-- Closing the picker touches nothing else. -/
theorem dismissPicker :
    { session with display := { session.display with pickerOpen := false } }.Coherent
      converter tables where
  base := coherent.base
  convertible := coherent.convertible
  pinned := coherent.pinned
  inFlight waiting := by
    obtain ⟨announces, -, noError⟩ := coherent.inFlight waiting
    exact ⟨announces, rfl, noError⟩
  conversion := coherent.conversion
  refuses := coherent.refuses
  cached := coherent.cached

/-- A session that is started over keeps nothing but its converter. -/
theorem restart (key : Key) : (session.restart key).Coherent converter tables where
  base := ⟨coherent.base.2, coherent.base.2⟩
  convertible := nofun
  pinned := nofun
  inFlight := nofun
  conversion := by
    intro conversion
    rw [Session.restart, Session.forget, Display.restarted] at conversion
    split at conversion <;> cases conversion
  refuses := by
    apply Display.refuses_of_error
    rw [Session.restart, Session.forget, Display.restarted]
    split <;> rfl
  cached := coherent.cached

section Convertible

variable (convertible : isConvertible session.display.leadingAmount)

include convertible

theorem error_eq_false : session.display.flags.error = false := by
  cases error : session.display.flags.error with
  | false => rfl
  | true =>
      have refused := coherent.refuses error
      simp [convertible] at refused

theorem isConvertible_amount : isConvertible session.amount := by
  cases pinned : session.series.pinned with
  | none => simpa [amount, Series.amount, pinned] using convertible
  | some earlier =>
      simpa [amount, Series.amount, pinned] using coherent.convertible earlier pinned

end Convertible

section Idle

variable (idle : session.inFlight = none)

include idle

/-- Without a request in flight, nothing is pinned on a display that waits for no reset. -/
theorem pinned_eq_none (noReset : session.display.flags.needsReset = false) :
    session.series.pinned = none := by
  obtain ⟨noConversion, noError⟩ := Bool.or_eq_false_iff.1 noReset
  cases pinned : session.series.pinned with
  | none => rfl
  | some amount =>
      have tied := coherent.pinned (by simp [pinned])
      simp [idle, noConversion, noError] at tied

/-- What is typed is what gets converted. -/
theorem amount_eq_leadingAmount (noReset : session.display.flags.needsReset = false) :
    session.amount = session.display.leadingAmount := by
  rw [amount, Series.amount, coherent.pinned_eq_none idle noReset]
  rfl

/-- A key on a display that needs no reset works on a session with nothing pinned. -/
theorem act (noReset : session.display.flags.needsReset = false) {key : Key} {display : Display}
    {signal : Option Signal} (acts : session.display.act key = .ok (display, signal)) :
    { session with display := display }.Coherent converter tables := by
  have nothing := coherent.pinned_eq_none idle noReset
  obtain ⟨noConversion, refuses⟩ := Display.refuses_of_act noReset acts
  exact {
    base := coherent.base
    convertible := coherent.convertible
    pinned := fun pinned => by simp [nothing] at pinned
    inFlight := fun waiting => by simp [idle] at waiting
    conversion := fun conversion => by simp [noConversion] at conversion
    refuses := refuses
    cached := coherent.cached }

variable (convertible : isConvertible session.display.leadingAmount)

include convertible

/-- The amount to be converted is announced. -/
theorem announces_announce : session.announce.Announces session.amount := by
  refine ⟨rfl, ?_⟩
  cases pinned : session.series.pinned with
  | none =>
      simp [announce, pin, Series.pin, Series.news?, amount, Series.amount, pinned]
  | some earlier =>
      have noError := coherent.error_eq_false convertible
      have tied := coherent.pinned (by simp [pinned])
      have conversion : session.display.flags.conversion := by
        simpa [idle, noError] using tied
      obtain ⟨amount, ⟨same, announced⟩, -⟩ := coherent.conversion conversion noError
      cases same.symm.trans pinned
      simpa [announce, pin, Series.pin, Series.news?, Session.amount, Series.amount, pinned]
        using announced

/-- A session that waits for rates announces the amount and has closed its picker. -/
theorem await : session.await.Coherent converter tables where
  base := coherent.base
  convertible := by
    rintro amount ⟨⟩
    exact coherent.isConvertible_amount convertible
  pinned _ := .inl rfl
  inFlight _ :=
    ⟨⟨_, coherent.announces_announce idle convertible⟩, rfl, coherent.error_eq_false convertible⟩
  conversion := by
    intro conversion noError
    obtain ⟨amount, ⟨pinned, _⟩, shows⟩ := coherent.conversion conversion noError
    have same : session.amount = amount := by simp [Session.amount, Series.amount, pinned]
    refine ⟨amount, ?_, shows⟩
    rw [← same]
    exact coherent.announces_announce idle convertible
  refuses := Display.refuses_of_error (coherent.error_eq_false convertible)
  cached := coherent.cached

end Idle

/-- The outcome of the request in flight is shown, with the amount that is pinned. -/
theorem conclude {request : Request} {outcome : Except ConversionFault (RatesReply Float)}
    {now : Moment} (waiting : session.inFlight.isSome)
    (pinned : session.series.pinned = some request.amount)
    (known : ∀ reply, outcome = .ok reply → reply.success → reply.rates ∈ tables) :
    { session with
      display := session.display.conclude request outcome
      converter := session.converter.learn request outcome now
      inFlight := none }.Coherent converter tables := by
  obtain ⟨⟨amount, announces⟩, -, noError⟩ := coherent.inFlight waiting
  cases announces.1.symm.trans pinned
  cases rated : request.rate outcome with
  | error fault =>
      rw [Converter.learn_of_fault rated, Display.conclude, rated]
      exact fail { session with inFlight := none } rfl coherent.base coherent.convertible
        coherent.cached fault
  | ok rate =>
      obtain ⟨reply, rfl, success, listed⟩ := Request.rate_eq_ok_iff.1 rated
      have member := known reply rfl success
      rw [Converter.learn_of_rate rated, Display.conclude, rated]
      refine succeed
        { session with
          converter := { session.converter with cache := some ⟨reply.rates, now⟩ }
          inFlight := none }
        rfl coherent.base coherent.convertible ?_ noError announces member listed
      rintro cached ⟨⟩
      exact member

/-- A conversion of what is typed converts what is typed, now or once the rates are there. -/
theorem convert_typed (idle : session.inFlight = none)
    (noReset : session.display.flags.needsReset = false) (target : Text) (now : Moment) :
    (∀ request, (session.convert target now).2 = some request →
      request.amount = session.display.leadingAmount) ∧
    ((session.convert target now).1.display.flags.conversion →
      ∃ rate, (session.convert target now).1.display.buffer =
        conversionText session.display.leadingAmount rate target) := by
  have typed := coherent.amount_eq_leadingAmount idle noReset
  have noConversion : session.display.flags.conversion = false :=
    (Bool.or_eq_false_iff.1 noReset).1
  have step : session.Step ⟨now, .convert target⟩ (session.convert target now).1
      (session.convert target now).2 := session.step_handle ⟨now, .convert target⟩
  generalize (session.convert target now).1 = next at step ⊢
  generalize (session.convert target now).2 = started at step ⊢
  cases step with
  | requests =>
      refine ⟨?_, fun conversion => ?_⟩
      · rintro request ⟨⟩
        exact typed
      · cases noConversion.symm.trans conversion
  | @converts now target rates rate =>
      refine ⟨nofun, fun _ => ⟨rate, ?_⟩⟩
      rw [← typed]
      rfl
  | unchanged | refuses | misses =>
      refine ⟨nofun, fun conversion => ?_⟩
      cases noConversion.symm.trans conversion

/-- Every turn keeps a session coherent, if the outcome that is waited for belongs to the
pinned amount. -/
theorem step {turn : Turn} {next : Session} {started : Option Request}
    (step : session.Step turn next started)
    (answers : ∀ request outcome, turn.command = .arrive request outcome →
      session.inFlight = some request.generation →
        session.series.pinned = some request.amount) :
    next.Coherent converter (tables ++ turn.rates?.toList) := by
  have coherent := coherent.mono (List.subset_append_left tables turn.rates?.toList)
  cases step with
  | unchanged => exact coherent
  | restarts => exact coherent.restart _
  | acts noReset idle acts =>
      exact coherent.act idle (unreset_of_not_resets noReset idle) acts
  | refuses idle =>
      exact fail session idle coherent.base coherent.convertible coherent.cached _
  | converts idle convertible fresh listed =>
      obtain ⟨cached, kept, rfl⟩ := Converter.exists_cache_of_freshRates? fresh
      refine succeed session.announce idle coherent.base ?_ coherent.cached
        (coherent.error_eq_false convertible) (coherent.announces_announce idle convertible)
        (coherent.cached cached kept) listed
      rintro amount ⟨⟩
      exact coherent.isConvertible_amount convertible
  | misses idle convertible =>
      refine fail session.pin idle coherent.base ?_ coherent.cached _
      rintro amount ⟨⟩
      exact coherent.isConvertible_amount convertible
  | requests idle convertible => exact coherent.await idle convertible
  | dismisses => exact coherent.dismissPicker
  | @concludes now request outcome waiting =>
      refine coherent.conclude (by simp [waiting]) (answers request outcome rfl waiting) ?_
      rintro reply rfl success
      simp [Turn.rates?, success]

end Coherent

end Session

namespace Dialogue

/-- The request in flight converts the amount that is pinned. -/
def Pins (dialogue : Dialogue) : Prop :=
  ∀ request ∈ dialogue.outstanding, dialogue.session.inFlight = some request.generation →
    dialogue.session.series.pinned = some request.amount

theorem Pins.after {dialogue : Dialogue} (pins : dialogue.Pins) (numbered : dialogue.Numbered)
    (turn : Turn) : (dialogue.after turn).Pins := by
  obtain ⟨session, started, step, equal⟩ := dialogue.exists_step_after turn
  rw [equal]
  intro request member waiting
  rcases List.mem_append.1 member with earlier | new
  · have outstanding := (List.mem_filter.1 earlier).1
    cases step with
    | unchanged | dismisses => exact pins request outstanding waiting
    | restarts | concludes => cases waiting
    | acts _ idle | refuses idle | converts idle | misses idle =>
        cases idle.symm.trans waiting
    | requests =>
        have bounded := numbered.bounded request outstanding
        have next : dialogue.session.generation + 1 = request.generation :=
          Option.some.inj waiting
        omega
  · cases step with
    | requests =>
        cases List.mem_singleton.1 new
        rfl
    | _ => cases new

/-- Every run from a fresh session leads to a coherent session. -/
theorem Runs.coherent_and_pins {converter : Converter} {turns : List Turn} {dialogue : Dialogue}
    (run : (start converter).Runs turns dialogue) :
    dialogue.session.Coherent converter (converter.tables turns) ∧ dialogue.Pins := by
  induction run with
  | refl => exact ⟨.start converter, nofun⟩
  | @step turns dialogue prior turn admitted inductionHypothesis =>
      obtain ⟨coherent, pins⟩ := inductionHypothesis
      refine ⟨?_, pins.after (Reachable.numbered ⟨turns, prior⟩) turn⟩
      rw [Converter.tables_concat]
      refine coherent.step (dialogue.session.step_handle turn) ?_
      intro request outcome command waiting
      rw [command] at admitted
      exact pins request admitted waiting

/-- On every session that a run leads to, what is pinned is under way or on display, so
that what is typed next is what gets converted next. -/
theorem Runs.coherent {converter : Converter} {turns : List Turn} {dialogue : Dialogue}
    (run : (start converter).Runs turns dialogue) :
    dialogue.session.Coherent converter (converter.tables turns) ∧
      (dialogue.session.inFlight = none → dialogue.session.display.flags.needsReset = false →
        ∀ target now,
          (∀ request, (dialogue.session.convert target now).2 = some request →
            request.amount = dialogue.session.display.leadingAmount) ∧
          ((dialogue.session.convert target now).1.display.flags.conversion →
            ∃ rate, (dialogue.session.convert target now).1.display.buffer =
              conversionText dialogue.session.display.leadingAmount rate target)) := by
  have coherent := run.coherent_and_pins.1
  exact ⟨coherent, coherent.convert_typed⟩

/-- `12` typed and converted with rates that have to be asked for. -/
theorem coherent_dollars :
    let euro : Converter := ⟨"EUR".toList, ⟨28800, 0⟩, none⟩
    let dollar : Text := "USD".toList
    let reply : RatesReply Float := ⟨true, euro.base, Rates.empty.insert dollar 1.1⟩
    let typed := ((start euro).after ⟨0, .press (.digit 1)⟩).after ⟨0, .press (.digit 2)⟩
    let request := typed.session.request dollar
    let asked := typed.after ⟨0, .convert dollar⟩
    let shown := asked.after ⟨1000, .arrive request (.ok reply)⟩
    shown.session.display.buffer = "13.20 USD".toList ∧
      shown.session.display.previous = "12 EUR".toList ∧ request.amount = 12 ∧
      ∃ amount, shown.session.Announces amount ∧ shown.session.Shows [reply.rates] amount := by
  intro euro dollar reply typed request asked shown
  have starts : typed.session.convert dollar 0 = (typed.session.await, some request) :=
    Session.convert_of_not_fresh rfl (by decide +kernel) rfl
  have outstanding : request ∈ asked.outstanding :=
    mem_outstanding_after (congrArg Prod.snd starts)
  have typing : (start euro).Runs _ typed :=
    (Runs.refl.step ⟨0, .press (.digit 1)⟩ trivial).step ⟨0, .press (.digit 2)⟩ trivial
  have run : (start euro).Runs _ shown :=
    (typing.step ⟨0, .convert dollar⟩ trivial).step ⟨1000, .arrive request (.ok reply)⟩ outstanding
  obtain ⟨coherent, -⟩ := run.coherent
  refine ⟨by decide +kernel, by decide +kernel, by decide +kernel, ?_⟩
  exact coherent.conversion (by decide +kernel) (by decide +kernel)

end Dialogue

end Keypad
