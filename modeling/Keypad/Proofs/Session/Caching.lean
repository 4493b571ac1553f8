import Keypad.Proofs.Session.Chronicle
import Keypad.Proofs.Session.Pinning

/-!
# The rates that are kept

A session keeps the rates of the last reply that it took in: one with success, that lists
the target of its request, and whose request was not given up. `Chronicle.kept?` reads them
off the chronicle, and `LeadsTo.converter_eq` says that the session has them. Nothing else
that is done to a session touches them.

Fresh rates stand for a request. A conversion that finds them shows what it would show if it
had asked for rates and been given the same ones, but for one thing: a first conversion into
a currency that they do not list leaves its amount unannounced.
-/

namespace Keypad

/-- The rates that a deed leaves to be kept, if any: those of a reply with success that lists
the target of its request, unless the request was given up before. -/
def Deed.kept? (deed : Deed) (earlier : Chronicle) : Option CachedRates :=
  match deed.turn.command with
  | .arrive request (.ok reply) =>
      if reply.success ∧ (reply.rates.get? request.target).isSome ∧
          earlier.abandons request = false then
        some ⟨reply.rates, deed.turn.now⟩
      else none
  | _ => none

/-- The rates left to be kept by the last deed that left any. -/
def Chronicle.kept? : Chronicle → Option CachedRates
  | [] => none
  | deed :: earlier => (deed.kept? earlier).or (kept? earlier)

namespace Chronicle

section Kept

variable {chronicle : Chronicle} {request : Request}
  {outcome : Except ConversionFault (RatesReply Float)} {started : Option Request} {now : Moment}

/-- The outcome of a request that was given up leaves no rates. -/
theorem kept?_of_abandons (abandoned : chronicle.abandons request) :
    Deed.kept? ⟨⟨now, .arrive request outcome⟩, started⟩ chronicle = none := by
  cases outcome <;> simp [Deed.kept?, abandoned]

/-- What a converter learns from an outcome is what the outcome leaves to be kept. -/
theorem learn_eq_of_not_abandons (waitedFor : chronicle.abandons request = false)
    (converter : Converter) :
    converter.learn request outcome now =
      { converter with
        cache := (Deed.kept? ⟨⟨now, .arrive request outcome⟩, started⟩ chronicle).or
          converter.cache } := by
  cases outcome with
  | error fault => rfl
  | ok reply =>
      cases success : reply.success <;> cases listed : reply.rates.get? request.target <;>
        simp [Converter.learn, Deed.kept?, Request.rate, Rates.find, bind, Except.bind, success,
          listed, waitedFor]

end Kept

/-- A turn keeps what it leaves to be kept, and otherwise what was kept before. -/
theorem Accounts.converter_after {chronicle : Chronicle} {dialogue : Dialogue}
    (accounts : Accounts chronicle dialogue) {turn : Turn}
    (admitted : dialogue.Admits turn.command) :
    (dialogue.after turn).session.converter =
      { dialogue.session.converter with
        cache := ((dialogue.deed turn).kept? chronicle).or dialogue.session.converter.cache } := by
  obtain ⟨now, command⟩ := turn
  cases command with
  | arrive request outcome =>
      change (dialogue.session.arrive request outcome now).converter = _
      by_cases waiting : dialogue.session.inFlight = some request.generation
      · rw [Session.arrive_of_inFlight waiting]
        exact learn_eq_of_not_abandons ((accounts.inFlight request admitted).1 waiting) _
      · rw [Session.arrive_of_ne waiting, Dialogue.deed,
          kept?_of_abandons (accounts.abandons_of_ne admitted waiting)]
        rfl
  | _ =>
      obtain ⟨session, started, step, equal⟩ := dialogue.exists_step_after ⟨now, _⟩
      rw [equal]
      cases step <;> rfl

/-- A session keeps the rates left by the last deed that left any, and before that those it
started with. -/
theorem LeadsTo.converter_eq {converter : Converter} {chronicle : Chronicle} {dialogue : Dialogue}
    (leads : LeadsTo converter chronicle dialogue) :
    dialogue.session.converter =
      { converter with cache := chronicle.kept?.or converter.cache } := by
  induction leads with
  | start => rfl
  | turn prior turn admitted inductionHypothesis =>
      rw [prior.accounts.converter_after admitted, inductionHypothesis, kept?, Option.or_assoc]

/-- The rates that a session of a converter keeps after a chronicle. -/
def cache (chronicle : Chronicle) (converter : Converter) : Option CachedRates :=
  chronicle.kept?.or converter.cache

end Chronicle

namespace Session

variable {session : Session} (idle : session.inFlight = none)
  (convertible : isConvertible session.display.leadingAmount) (target : Text) (now : Moment)

include idle convertible

/-- Without a request in flight, an amount that can be converted is converted with fresh
rates, or it starts a request for rates against the currency of its series. -/
theorem handle_convert :
    session.handle now (.convert target) =
      match session.converter.freshRates? now with
      | none => (session.await, some (session.request target))
      | some rates =>
          match rates.get? target with
          | some rate => (session.announce.succeed session.amount rate target, none)
          | none => (session.pin.fail (.unknownCurrency target), none) := by
  change session.convert target now = _
  cases fresh : session.converter.freshRates? now with
  | none => exact convert_of_not_fresh idle convertible fresh
  | some rates =>
      cases listed : rates.get? target with
      | none => simp only [convert_of_not_listed idle convertible fresh listed, listed]
      | some rate => simp only [convert_of_listed idle convertible fresh listed, listed]

end Session

namespace Chronicle

/-- What is kept is what the last reply to a request that was not given up left, if it had
success and listed its target, dated when it came. Fresh rates serve a conversion, and
without them it asks for rates against the currency of the converter. -/
theorem LeadsTo.cache_eq {converter : Converter} {chronicle : Chronicle} {dialogue : Dialogue}
    (leads : LeadsTo converter chronicle dialogue) :
    dialogue.session.converter.cache = chronicle.cache converter ∧
    (dialogue.session.inFlight = none → isConvertible dialogue.session.display.leadingAmount →
      ∀ target now,
        ((dialogue.session.handle now (.convert target)).2.isSome ↔
          ∀ cached, chronicle.cache converter = some cached →
            Moment.isFresh cached.stored now converter.lifetime = false) ∧
        (∀ request, (dialogue.session.handle now (.convert target)).2 = some request →
          request.base = converter.base ∧ request.target = target) ∧
        ∀ cached, chronicle.cache converter = some cached →
          Moment.isFresh cached.stored now converter.lifetime →
            (dialogue.session.handle now (.convert target)).1 =
              let display := dialogue.session.display
              match cached.rates.get? target with
              | some rate =>
                  { dialogue.session.announce with
                    display :=
                      { buffer := conversionText dialogue.session.amount rate target
                        previous := dialogue.session.announce.display.previous
                        flags := { display.flags with conversion := true }
                        pickerOpen := false } }
              | none =>
                  { dialogue.session.pin with
                    display :=
                      { buffer := "Invalid currency!".toList
                        previous := display.previous
                        flags := { display.flags with error := true }
                        pickerOpen := false } }) := by
  have converterEq := leads.converter_eq
  have kept : dialogue.session.converter.cache = chronicle.cache converter := by
    rw [converterEq, cache]
  have lifetime : dialogue.session.converter.lifetime = converter.lifetime := by
    rw [converterEq]
  have base := leads.runs.coherent_and_pins.1.base.1
  refine ⟨kept, ?_⟩
  intro idle convertible target now
  rw [← kept, ← lifetime, ← Converter.freshRates?_eq_none_iff,
    Session.handle_convert idle convertible]
  refine ⟨?_, ?_, ?_⟩
  · cases fresh : dialogue.session.converter.freshRates? now with
    | none => simp
    | some rates => cases listed : rates.get? target <;> simp [listed]
  · intro request starts
    split at starts
    · cases starts
      exact ⟨base, rfl⟩
    · split at starts <;> cases starts
  · intro cached isKept fresh
    rw [Converter.freshRates?_of_isFresh isKept fresh]
    cases listed : cached.rates.get? target <;> (simp only [listed]; rfl)

/-- A conversion of `7` is given up and one of `5` asked for. The late reply to the first
leaves nothing, the reply to the second is kept, and a third conversion uses it, whether or not
it lists the target. -/
theorem cache_eq_late :
    let euro : Converter := ⟨"EUR".toList, ⟨28800, 0⟩, none⟩
    let dollar : Text := "USD".toList
    let pound : Text := "GBP".toList
    let yen : Text := "JPY".toList
    let dear : RatesReply Float := ⟨true, euro.base, (Rates.empty.insert dollar 9).insert pound 9⟩
    let cheap : RatesReply Float := ⟨true, euro.base, (Rates.empty.insert dollar 3).insert pound 2⟩
    let seven := (Dialogue.start euro).after ⟨0, .press (.digit 7)⟩
    let old := seven.session.request dollar
    let five := ((seven.after ⟨1, .convert dollar⟩).after ⟨2, .press .clear⟩).after
      ⟨3, .press (.digit 5)⟩
    let new := five.session.request pound
    let asked := five.after ⟨4, .convert pound⟩
    let late := asked.after ⟨5, .arrive old (.ok dear)⟩
    let shown := late.after ⟨6, .arrive new (.ok cheap)⟩
    shown.session.converter.cache = some ⟨cheap.rates, 6⟩ ∧
      (shown.session.handle 7 (.convert dollar)).2 = none ∧
      (shown.session.handle 7 (.convert dollar)).1.display =
        ⟨"15.00 USD".toList, "5 EUR".toList, ⟨false, true, false⟩, false⟩ ∧
      (shown.session.handle 7 (.convert yen)).1.display =
        ⟨"Invalid currency!".toList, "5 EUR".toList, ⟨false, true, true⟩, false⟩ := by
  intro euro dollar pound yen dear cheap seven old five new asked late shown
  have asks : seven.session.convert dollar 1 = (seven.session.await, some old) :=
    Session.convert_of_not_fresh rfl (by decide +kernel) rfl
  have asksAgain : five.session.convert pound 4 = (five.session.await, some new) :=
    Session.convert_of_not_fresh (by decide +kernel) (by decide +kernel)
      (Option.isNone_iff_eq_none.1 (by decide +kernel))
  have started : old ∈ (seven.after ⟨1, .convert dollar⟩).outstanding :=
    Dialogue.mem_outstanding_after (congrArg Prod.snd asks)
  have givenUp : old ∈ asked.outstanding :=
    Dialogue.mem_outstanding_after_of_leaves (Dialogue.mem_outstanding_after_of_leaves
      (Dialogue.mem_outstanding_after_of_leaves started rfl) rfl) rfl
  have startedAgain : new ∈ asked.outstanding :=
    Dialogue.mem_outstanding_after (congrArg Prod.snd asksAgain)
  have different : (Command.arrive old (.ok dear)).leaves new := by decide +kernel
  have waitedFor : new ∈ late.outstanding :=
    Dialogue.mem_outstanding_after_of_leaves startedAgain different
  obtain ⟨earlier, told⟩ : ∃ earlier, LeadsTo euro earlier late :=
    ⟨_, (((((LeadsTo.start.turn ⟨0, .press (.digit 7)⟩ trivial).turn
      ⟨1, .convert dollar⟩ trivial).turn ⟨2, .press .clear⟩ trivial).turn
      ⟨3, .press (.digit 5)⟩ trivial).turn ⟨4, .convert pound⟩ trivial).turn
      ⟨5, .arrive old (.ok dear)⟩ givenUp⟩
  have waits := (told.accounts.inFlight new waitedFor).1 (by decide +kernel)
  have latest : cache (late.deed ⟨6, .arrive new (.ok cheap)⟩ :: earlier) euro =
      some ⟨cheap.rates, 6⟩ := by
    have left : (late.deed ⟨6, .arrive new (.ok cheap)⟩).kept? earlier =
        some ⟨cheap.rates, 6⟩ :=
      if_pos ⟨rfl, by decide +kernel, waits⟩
    rw [cache, kept?, left, Option.some_or, Option.some_or]
  have leads : LeadsTo euro _ shown := told.turn ⟨6, .arrive new (.ok cheap)⟩ waitedFor
  obtain ⟨kept, serves⟩ := leads.cache_eq
  rw [latest] at kept serves
  have convertible : isConvertible shown.session.display.leadingAmount := by decide +kernel
  have serves := serves (by decide +kernel) convertible
  obtain ⟨asksIff, -, uses⟩ := serves dollar 7
  obtain ⟨-, -, usesUnlisted⟩ := serves yen 7
  have fresh : Moment.isFresh 6 7 euro.lifetime := by decide +kernel
  refine ⟨kept, ?_, ?_, ?_⟩
  · cases requested : (shown.session.handle 7 (.convert dollar)).2 with
    | none => rfl
    | some request =>
        have stale := asksIff.1 (by rw [requested]; rfl) _ rfl
        cases fresh.symm.trans stale
  · rw [uses _ rfl fresh]
    decide +kernel
  · rw [usesUnlisted _ rfl fresh]
    decide +kernel

end Chronicle

namespace Session

/-- The session with other rates kept. -/
def keep (session : Session) (cache : Option CachedRates) : Session :=
  { session with converter := { session.converter with cache := cache } }

/-- The session after a conversion and, if that asks for rates, a reply at a later time. -/
def convertWith (session : Session) (target : Text) (now later : Moment)
    (reply : RatesReply Float) : Session :=
  match session.handle now (.convert target) with
  | (next, none) => next
  | (next, some request) => (next.handle later (.arrive request (.ok reply))).1

/-- Whether a conversion pins an amount that the rates at hand do not help to convert. -/
def PinsUnlisted (session : Session) (rates : Rates Float) (target : Text) : Prop :=
  session.series.pinned = none ∧ isConvertible session.display.leadingAmount ∧
    rates.get? target = none

/-- That two sessions show the same but for the line above, and are in the same series. -/
structure SameBelow (left right : Session) : Prop where
  inFlight : left.inFlight = right.inFlight
  series : left.series = right.series
  buffer : left.display.buffer = right.display.buffer
  flags : left.display.flags = right.display.flags
  pickerOpen : left.display.pickerOpen = right.display.pickerOpen

section Conversion

variable {session : Session} (idle : session.inFlight = none) {target : Text} {now : Moment}

include idle

theorem convertWith_of_not_isConvertible
    (refused : isConvertible session.display.leadingAmount = false) (later : Moment)
    (reply : RatesReply Float) :
    session.convertWith target now later reply = session.fail .invalidAmount := by
  have handled : session.handle now (.convert target) = (session.fail .invalidAmount, none) :=
    convert_of_not_isConvertible idle refused
  rw [convertWith, handled]

variable (convertible : isConvertible session.display.leadingAmount)

include convertible

/-- A reply to a conversion that asks for rates is shown by the session that waits for it. -/
theorem convertWith_of_not_fresh (notFresh : session.converter.freshRates? now = none)
    (target : Text) (later : Moment) (reply : RatesReply Float) :
    session.convertWith target now later reply =
      { session.await with
        display := session.announce.display.conclude (session.request target) (.ok reply)
        converter := session.converter.learn (session.request target) (.ok reply) later
        inFlight := none } := by
  have handled : session.handle now (.convert target) =
      (session.await, some (session.request target)) :=
    convert_of_not_fresh idle convertible notFresh
  rw [convertWith, handled]
  exact arrive_of_inFlight rfl _

/-- With fresh rates and without, the same is shown below the line above. There the session
that asks for rates has announced the amount, and the other announces it only together with
its conversion. -/
theorem convert_keep_of_isConvertible {cached : CachedRates} {stale : Option CachedRates}
    (fresh : Moment.isFresh cached.stored now session.converter.lifetime)
    (notFresh : (session.keep stale).converter.freshRates? now = none) (target base : Text)
    (later : Moment) :
    let found := ((session.keep (some cached)).handle now (.convert target)).1
    let asked := (session.keep stale).convertWith target now later ⟨true, base, cached.rates⟩
    let announced :=
      (session.series.news? session.display.leadingAmount).getD session.display.previous
    found.SameBelow asked ∧ found.inFlight = none ∧ asked.display.previous = announced ∧
      found.display.previous =
        if (cached.rates.get? target).isSome then announced else session.display.previous := by
  intro found asked announced
  have idleFound : (session.keep (some cached)).inFlight = none := idle
  have idleAsked : (session.keep stale).inFlight = none := idle
  have freshRates : (session.keep (some cached)).converter.freshRates? now = some cached.rates :=
    Converter.freshRates?_of_isFresh rfl fresh
  have foundEq := congrArg Prod.fst (handle_convert idleFound convertible target now)
  have askedEq := convertWith_of_not_fresh idleAsked convertible notFresh target later
    ⟨true, base, cached.rates⟩
  change found = _ at foundEq
  change asked = _ at askedEq
  have rated : ((session.keep stale).request target).rate (.ok ⟨true, base, cached.rates⟩) =
      cached.rates.find target := rfl
  simp only [freshRates] at foundEq
  rw [foundEq, askedEq, Display.conclude, rated, Rates.find]
  cases cached.rates.get? target with
  | some rate => exact ⟨⟨idle, rfl, rfl, rfl, rfl⟩, idle, rfl, rfl⟩
  | none => exact ⟨⟨idle, rfl, rfl, rfl, rfl⟩, idle, rfl, rfl⟩

end Conversion

/-- Fresh rates stand for a request that is answered with them. The session shows the same
below the line above, and is in the same series; and the line above is the same too, unless
the conversion pins an amount and its target is not listed. Then the amount is not announced,
while a session that asks for the rates has announced it by the time they come. -/
theorem convert_keep {session : Session} (idle : session.inFlight = none) {cached : CachedRates}
    {stale : Option CachedRates} {now : Moment}
    (fresh : Moment.isFresh cached.stored now session.converter.lifetime)
    (notFresh : (session.keep stale).converter.freshRates? now = none) (target base : Text)
    (later : Moment) :
    let found := ((session.keep (some cached)).handle now (.convert target)).1
    let asked := (session.keep stale).convertWith target now later ⟨true, base, cached.rates⟩
    found.SameBelow asked ∧ found.inFlight = none ∧
      (session.PinsUnlisted cached.rates target →
        found.display.previous = session.display.previous ∧
          asked.display.previous =
            announcement session.display.leadingAmount session.series.base) ∧
      (¬session.PinsUnlisted cached.rates target →
        found.display.previous = asked.display.previous) := by
  intro found asked
  have idleFound : (session.keep (some cached)).inFlight = none := idle
  have idleAsked : (session.keep stale).inFlight = none := idle
  cases convertible : isConvertible session.display.leadingAmount with
  | false =>
      have foundEq : found = (session.keep (some cached)).fail .invalidAmount :=
        congrArg Prod.fst (convert_of_not_isConvertible idleFound convertible)
      have askedEq : asked = (session.keep stale).fail .invalidAmount :=
        convertWith_of_not_isConvertible idleAsked convertible later _
      rw [foundEq, askedEq]
      refine ⟨⟨rfl, rfl, rfl, rfl, rfl⟩, idle, ?_, fun _ => rfl⟩
      rintro ⟨-, converts, -⟩
      cases convertible.symm.trans converts
  | true =>
      obtain ⟨same, ready, askedPrevious, foundPrevious⟩ :=
        convert_keep_of_isConvertible idle convertible fresh notFresh target base later
      refine ⟨same, ready, ?_, ?_⟩
      · rintro ⟨nothing, -, notListed⟩
        have news : session.series.news? session.display.leadingAmount =
            some (announcement session.display.leadingAmount session.series.base) := by
          rw [Series.news?, nothing]
          rfl
        rw [notListed] at foundPrevious
        rw [news] at askedPrevious
        exact ⟨foundPrevious, askedPrevious⟩
      · intro other
        refine foundPrevious.trans (Eq.trans ?_ askedPrevious.symm)
        cases listed : cached.rates.get? target with
        | some rate => rfl
        | none =>
            cases pinned : session.series.pinned with
            | none => exact absurd ⟨pinned, convertible, listed⟩ other
            | some amount =>
                rw [Series.news?, pinned]
                rfl

/-- `12` is converted into a currency that the fresh rates do not list. Only the session that
asks for them announces the amount. -/
theorem convert_keep_unlisted :
    let euro : Converter := ⟨"EUR".toList, ⟨28800, 0⟩, none⟩
    let dollar : Text := "USD".toList
    let cached : CachedRates := ⟨Rates.empty.insert "GBP".toList 2, 0⟩
    let twelve := ((start euro).press (.digit 1)).press (.digit 2)
    let found := ((twelve.keep (some cached)).handle 1000 (.convert dollar)).1
    let asked := (twelve.keep none).convertWith dollar 1000 1200 ⟨true, euro.base, cached.rates⟩
    twelve.PinsUnlisted cached.rates dollar ∧ found.SameBelow asked ∧
      found.display.buffer = "Invalid currency!".toList ∧ found.display.previous = [] ∧
      asked.display.previous = "12 EUR".toList := by
  intro euro dollar cached twelve found asked
  have unlisted : twelve.PinsUnlisted cached.rates dollar :=
    ⟨rfl, by decide +kernel, Option.isNone_iff_eq_none.1 (by decide +kernel)⟩
  obtain ⟨same, -, apart, -⟩ := @convert_keep twelve rfl cached none 1000 (by decide +kernel)
    rfl dollar euro.base 1200
  obtain ⟨unannounced, announced⟩ := apart unlisted
  refine ⟨unlisted, same, by decide +kernel, unannounced.trans (by decide +kernel), ?_⟩
  exact announced.trans (by decide +kernel)

/-- Fresh rates do not stand for a request in everything that is shown: with a first
conversion into a currency that they do not list, the lines above differ. -/
theorem not_forall_display_convert_keep :
    ¬∀ (converter : Converter) (dialogue : Dialogue), Dialogue.Reachable converter dialogue →
      dialogue.session.inFlight = none →
      ∀ (cached : CachedRates) (stale : Option CachedRates) (target : Text) (now later : Moment),
        Moment.isFresh cached.stored now dialogue.session.converter.lifetime →
        (dialogue.session.keep stale).converter.freshRates? now = none →
        ((dialogue.session.keep (some cached)).handle now (.convert target)).1.display =
          ((dialogue.session.keep stale).convertWith target now later
            ⟨true, converter.base, cached.rates⟩).display := by
  intro same
  let euro : Converter := ⟨"EUR".toList, ⟨28800, 0⟩, none⟩
  let typed := ((Dialogue.start euro).after ⟨0, .press (.digit 1)⟩).after ⟨0, .press (.digit 2)⟩
  have reachable : Dialogue.Reachable euro typed :=
    ⟨_, (Dialogue.Runs.refl.step ⟨0, .press (.digit 1)⟩ trivial).step
      ⟨0, .press (.digit 2)⟩ trivial⟩
  have equal := same euro typed reachable rfl ⟨Rates.empty.insert "GBP".toList 2, 0⟩ none
    "USD".toList 1000 1200 (by decide +kernel) rfl
  exact absurd equal (by decide +kernel)

end Session

end Keypad
