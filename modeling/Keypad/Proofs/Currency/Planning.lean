import Keypad.Proofs.Session.Commands

/-!
# What a series of plans announces

The first amount of a series that can be converted is pinned. Every plan of the series
that succeeds goes on with that amount, and only the plan that pins it can announce it.

The amount is pinned before its rate is looked up. So a first plan that finds fresh
rates without its target fails with its amount pinned, and no plan announces that
amount any more. Apart from that, a plan that fails leaves its series as it was, and
the first plan that succeeds announces the amount that it pins
(`isAtomic_and_announcesOnce_iff`).
-/

namespace Keypad

namespace Series

variable {series : Series}

section Pinned

variable {amount : Float} (pinned : series.pinned = some amount) (displayed : Float)

include pinned

theorem amount_of_pinned : series.amount displayed = amount := by
  rw [Series.amount, pinned, Option.getD_some]

theorem pin_of_pinned : series.pin displayed = series := by
  rw [pin, amount_of_pinned pinned, ← pinned]

theorem news?_of_pinned : series.news? displayed = none := by
  rw [news?, pinned]
  rfl

end Pinned

section Unpinned

variable (unpinned : series.pinned = none) (displayed : Float)

include unpinned

theorem amount_of_unpinned : series.amount displayed = displayed := by
  rw [Series.amount, unpinned, Option.getD_none]

theorem pinned_pin_of_unpinned : (series.pin displayed).pinned = some displayed :=
  congrArg some (amount_of_unpinned unpinned displayed)

theorem news?_of_unpinned :
    series.news? displayed = some (announcement displayed series.base) := by
  rw [news?, unpinned]
  rfl

end Unpinned

end Series

/-- The amount that a plan goes on with. -/
def Plan.amount : Plan → Float
  | .ready amount _ => amount
  | .fetch amount _ => amount

/-- A conversion that is to be planned. -/
structure Inquiry where
  converter : Converter
  displayed : Float
  target : Text
  now : Moment

namespace Inquiry

/-- The series after the plan for an inquiry, and the plan or why there is none. -/
def plan (inquiry : Inquiry) (series : Series) :
    Series × Except ConversionFault (Plan × Option Text) :=
  inquiry.converter.plan inquiry.displayed inquiry.target series inquiry.now

/-- Whether the amount of an inquiry can be converted. -/
def isConvertible (inquiry : Inquiry) : Bool :=
  Keypad.isConvertible inquiry.displayed

/-- Fresh rates are at hand, and do not list the target. -/
def Misses (inquiry : Inquiry) : Prop :=
  ∃ rates, inquiry.converter.freshRates? inquiry.now = some rates ∧
    rates.get? inquiry.target = none

/-- The ways in which an inquiry can turn out. -/
inductive Way (inquiry : Inquiry) (series : Series) :
    Series × Except ConversionFault (Plan × Option Text) → Prop where
  | refused (refused : inquiry.isConvertible = false) :
      Way inquiry series (series, .error .invalidAmount)
  | missed (convertible : inquiry.isConvertible) (misses : inquiry.Misses) :
      Way inquiry series
        (series.pin inquiry.displayed, .error (.unknownCurrency inquiry.target))
  | planned (convertible : inquiry.isConvertible) (found : ¬inquiry.Misses) {plan : Plan}
      (amount : plan.amount = series.amount inquiry.displayed) :
      Way inquiry series
        (series.pin inquiry.displayed, .ok (plan, series.news? inquiry.displayed))

theorem way_plan (inquiry : Inquiry) (series : Series) :
    inquiry.Way series (inquiry.plan series) := by
  cases convertible : inquiry.isConvertible with
  | false =>
      rw [plan, Converter.plan_of_not_isConvertible convertible]
      exact .refused convertible
  | true =>
      cases fresh : inquiry.converter.freshRates? inquiry.now with
      | none =>
          have found : ¬inquiry.Misses := by
            rintro ⟨rates, isFresh, -⟩
            cases fresh.symm.trans isFresh
          rw [plan, Converter.plan_of_not_fresh convertible fresh]
          exact .planned convertible found rfl
      | some rates =>
          cases listed : rates.get? inquiry.target with
          | none =>
              rw [plan, Converter.plan_of_not_listed convertible fresh listed]
              exact .missed convertible ⟨rates, fresh, listed⟩
          | some rate =>
              have found : ¬inquiry.Misses := by
                rintro ⟨others, isFresh, notListed⟩
                cases fresh.symm.trans isFresh
                cases listed.symm.trans notListed
              rw [plan, Converter.plan_of_listed convertible fresh listed]
              exact .planned convertible found rfl

/-- A plan that fails leaves its series as it was, unless the amount was pinned for it and
its target is not listed. -/
theorem plan_eq_iff_of_error {inquiry : Inquiry} {series : Series} {fault : ConversionFault}
    (failed : (inquiry.plan series).2 = .error fault) :
    (inquiry.plan series).1 = series ↔
      ¬(series.pinned = none ∧ inquiry.isConvertible ∧ inquiry.Misses) := by
  have way := inquiry.way_plan series
  generalize inquiry.plan series = planned at way failed
  cases way with
  | refused refused => simp [refused]
  | planned => cases failed
  | missed convertible misses =>
      cases pinned : series.pinned with
      | some amount => simp [Series.pin_of_pinned pinned]
      | none =>
          refine ⟨fun same => ?_, fun unmissed => absurd ⟨rfl, convertible, misses⟩ unmissed⟩
          have changed := Series.pinned_pin_of_unpinned pinned inquiry.displayed
          rw [show series.pin inquiry.displayed = series from same, pinned] at changed
          cases changed

end Inquiry

/-- An inquiry, the series before and after its plan, and the plan or why there is none. -/
structure Planned where
  inquiry : Inquiry
  before : Series
  after : Series
  answer : Except ConversionFault (Plan × Option Text)

/-- The plans for one inquiry after another in one series. -/
def Series.plans (series : Series) : List Inquiry → List Planned
  | [] => []
  | inquiry :: rest =>
      ⟨inquiry, series, (inquiry.plan series).1, (inquiry.plan series).2⟩ ::
        (inquiry.plan series).1.plans rest

namespace Planned

/-- A plan that fails leaves its series as it was. -/
def IsAtomic (planned : Planned) : Prop :=
  ∀ fault, planned.answer = .error fault → planned.after = planned.before

/-- A plan that succeeds goes on with this amount, and announces this. -/
def GoesOn (planned : Planned) (amount : Float) (news : Option Text) : Prop :=
  ∀ plan said, planned.answer = .ok (plan, said) → plan.amount = amount ∧ said = news

/-- The first plan that succeeds pins its own amount and announces it. Those after it that
succeed go on with that amount, and announce nothing. -/
def AnnouncesOnce : List Planned → Prop
  | [] => True
  | planned :: later =>
      let own := planned.inquiry.displayed
      match planned.answer with
      | .error _ => AnnouncesOnce later
      | .ok _ =>
          planned.after.pinned = some own ∧
            planned.GoesOn own (some (announcement own planned.before.base)) ∧
            ∀ next ∈ later, next.GoesOn own none

end Planned

namespace Series

open Planned

variable {series : Series}

/-- Each of the plans is the plan for its inquiry in the series before it. -/
theorem plan_of_mem_plans {inquiries : List Inquiry} {planned : Planned}
    (member : planned ∈ series.plans inquiries) :
    planned = ⟨planned.inquiry, planned.before, (planned.inquiry.plan planned.before).1,
      (planned.inquiry.plan planned.before).2⟩ := by
  induction inquiries generalizing series with
  | nil => cases member
  | cons inquiry rest inductionHypothesis =>
      rcases List.mem_cons.1 member with rfl | later
      · rfl
      · exact inductionHypothesis later

/-- When an amount is pinned, every plan leaves the series as it is, goes on with that
amount, and announces nothing. -/
theorem plans_of_pinned {amount : Float} (pinned : series.pinned = some amount)
    {inquiries : List Inquiry} {planned : Planned} (member : planned ∈ series.plans inquiries) :
    planned.IsAtomic ∧ planned.GoesOn amount none := by
  induction inquiries with
  | nil => cases member
  | cons inquiry rest inductionHypothesis =>
      have way := inquiry.way_plan series
      rw [plans] at member
      generalize inquiry.plan series = ended at way member
      have same : ended.1 = series := by
        cases way with
        | refused => rfl
        | missed | planned => exact pin_of_pinned pinned _
      rw [same] at member
      rcases List.mem_cons.1 member with rfl | later
      · refine ⟨fun _ _ => rfl, fun plan said answered => ?_⟩
        cases way with
        | refused | missed => cases answered
        | planned _ _ goesOn =>
            cases answered
            exact ⟨goesOn.trans (amount_of_pinned pinned _), news?_of_pinned pinned _⟩
      · exact inductionHypothesis later

/-- In a series with nothing pinned, every plan that succeeds goes on with the first amount
that can be converted. If that one met fresh rates without its target, it is announced by
none of them. -/
theorem exists_find?_of_mem_plans (unpinned : series.pinned = none) {inquiries : List Inquiry}
    {planned : Planned} (member : planned ∈ series.plans inquiries) {plan : Plan}
    {said : Option Text} (answered : planned.answer = .ok (plan, said)) :
    ∃ opening, inquiries.find? (·.isConvertible) = some opening ∧
      plan.amount = opening.displayed ∧ (opening.Misses → said = none) := by
  induction inquiries with
  | nil => cases member
  | cons inquiry rest inductionHypothesis =>
      have silent (later : planned ∈ (series.pin inquiry.displayed).plans rest) :
          plan.amount = inquiry.displayed ∧ said = none :=
        (plans_of_pinned (pinned_pin_of_unpinned unpinned _) later).2 plan said answered
      have way := inquiry.way_plan series
      rw [plans] at member
      generalize inquiry.plan series = ended at way member
      cases way with
      | refused refused =>
          rw [List.find?_cons_of_neg (by simp [refused])]
          rcases List.mem_cons.1 member with rfl | later
          · cases answered
          · exact inductionHypothesis later
      | missed convertible =>
          refine ⟨inquiry, List.find?_cons_of_pos convertible, ?_⟩
          rcases List.mem_cons.1 member with rfl | later
          · cases answered
          · exact (silent later).imp_right fun nothing _ => nothing
      | planned convertible found goesOn =>
          refine ⟨inquiry, List.find?_cons_of_pos convertible, ?_⟩
          rcases List.mem_cons.1 member with rfl | later
          · cases answered
            exact ⟨goesOn.trans (amount_of_unpinned unpinned _), fun misses => absurd misses found⟩
          · exact (silent later).imp_right fun nothing _ => nothing

/-- In a series with nothing pinned, all plans that fail leave the series as it was and the
amount is announced once, exactly if the first amount that can be converted does not meet
fresh rates without its target. -/
theorem isAtomic_and_announcesOnce_iff (unpinned : series.pinned = none)
    (inquiries : List Inquiry) :
    ((∀ planned ∈ series.plans inquiries, planned.IsAtomic) ∧
        AnnouncesOnce (series.plans inquiries)) ↔
      ∀ opening, inquiries.find? (·.isConvertible) = some opening → ¬opening.Misses := by
  induction inquiries with
  | nil => simp [plans, AnnouncesOnce]
  | cons inquiry rest inductionHypothesis =>
      have pinned := pinned_pin_of_unpinned unpinned inquiry.displayed
      have way := inquiry.way_plan series
      rw [plans]
      generalize inquiry.plan series = ended at way
      rw [List.forall_mem_cons]
      cases way with
      | refused refused =>
          have unchanged : Planned.IsAtomic ⟨inquiry, series, series, .error .invalidAmount⟩ :=
            fun _ _ => rfl
          rw [List.find?_cons_of_neg (by simp [refused]), ← inductionHypothesis]
          simp only [AnnouncesOnce, unchanged, true_and]
      | missed convertible misses =>
          rw [List.find?_cons_of_pos convertible]
          refine iff_of_false ?_ fun found => found inquiry rfl misses
          rintro ⟨⟨atomic, -⟩, -⟩
          have same : series.pin inquiry.displayed = series := atomic _ rfl
          rw [same, unpinned] at pinned
          cases pinned
      | planned convertible found goesOn =>
          rw [List.find?_cons_of_pos convertible]
          refine iff_of_true ⟨⟨nofun, fun next later => (plans_of_pinned pinned later).1⟩, pinned, ?_,
            fun next later => (plans_of_pinned pinned later).2⟩ ?_
          · rintro _ _ ⟨⟩
            exact ⟨goesOn.trans (amount_of_unpinned unpinned _), news?_of_unpinned unpinned _⟩
          · rintro _ ⟨⟩
            exact found

/-- Among the plans of a series, one that fails leaves the series as it was, unless the
amount was pinned for it and its target is not listed. In a series that starts with nothing
pinned, that is so for all plans that fail, and the pinned amount is announced once, by the
first plan that succeeds, exactly if the first amount that can be converted does not meet
fresh rates without its target. In any case that amount is the one that is converted; but if
it met such rates, it is never announced. -/
theorem announces_plans (series : Series) (inquiries : List Inquiry) :
    (∀ planned ∈ series.plans inquiries, ∀ fault, planned.answer = .error fault →
      (planned.after = planned.before ↔
        ¬(planned.before.pinned = none ∧ planned.inquiry.isConvertible ∧
          planned.inquiry.Misses))) ∧
    (series.pinned = none →
      (((∀ planned ∈ series.plans inquiries, planned.IsAtomic) ∧
          AnnouncesOnce (series.plans inquiries)) ↔
        ∀ opening, inquiries.find? (·.isConvertible) = some opening → ¬opening.Misses) ∧
      ∀ planned ∈ series.plans inquiries, ∀ plan said, planned.answer = .ok (plan, said) →
        ∃ opening, inquiries.find? (·.isConvertible) = some opening ∧
          plan.amount = opening.displayed ∧ (opening.Misses → said = none)) := by
  refine ⟨fun planned member fault failed => ?_, fun unpinned =>
    ⟨isAtomic_and_announcesOnce_iff unpinned inquiries, fun planned member plan said answered =>
      exists_find?_of_mem_plans unpinned member answered⟩⟩
  have made := plan_of_mem_plans member
  rw [made] at failed ⊢
  exact Inquiry.plan_eq_iff_of_error failed

/-- Nothing is refused but a zero before `12` is pinned. Later a target is not listed, and
the series stays as it is. -/
theorem announces_plans_twelve :
    let euro : Converter := ⟨"EUR".toList, ⟨28800, 0⟩, none⟩
    let dollar : Text := "USD".toList
    let pound : Text := "GBP".toList
    let informed : Converter := { euro with cache := some ⟨Rates.empty.insert pound 2, 0⟩ }
    let zero : Inquiry := ⟨euro, 0, dollar, 0⟩
    let twelve : Inquiry := ⟨euro, 12, dollar, 0⟩
    let inquiries : List Inquiry :=
      [zero, twelve, ⟨informed, 24, pound, 1000⟩, ⟨informed, 24, dollar, 2000⟩]
    let series : Series := .start euro.base
    (zero.plan series).2 = .error .invalidAmount ∧ (zero.plan series).1 = series ∧
      series.pinned = none ∧ (∀ planned ∈ series.plans inquiries, planned.IsAtomic) ∧
      AnnouncesOnce (series.plans inquiries) := by
  intro euro dollar pound informed zero twelve inquiries series
  have refused : zero.isConvertible = false := by decide +kernel
  have convertible : twelve.isConvertible = true := by decide +kernel
  have unmissed : ¬twelve.Misses := by
    rintro ⟨rates, fresh, -⟩
    cases fresh
  have failed : (zero.plan series).2 = .error .invalidAmount := by
    rw [Inquiry.plan, Converter.plan_of_not_isConvertible refused]
  obtain ⟨single, run⟩ := announces_plans series inquiries
  refine ⟨failed, (single _ List.mem_cons_self _ failed).2 (by simp [refused]), rfl, ?_⟩
  refine (run rfl).1.2 fun opening isOpening => ?_
  rw [List.find?_cons_of_neg (by simp [refused]), List.find?_cons_of_pos convertible] at isOpening
  cases isOpening
  exact unmissed

/-- With fresh rates that list pounds only, `12` is pinned for a plan in dollars that
fails. -/
theorem not_forall_isAtomic_and_announcesOnce :
    ¬∀ (series : Series) (inquiries : List Inquiry), series.pinned = none →
      (∀ planned ∈ series.plans inquiries, planned.IsAtomic) ∧
        AnnouncesOnce (series.plans inquiries) := by
  intro tidy
  let pound : Text := "GBP".toList
  let informed : Converter := ⟨"EUR".toList, ⟨28800, 0⟩, some ⟨Rates.empty.insert pound 2, 0⟩⟩
  let opening : Inquiry := ⟨informed, 12, "USD".toList, 0⟩
  have convertible : opening.isConvertible = true := by decide +kernel
  have misses : opening.Misses :=
    ⟨_, Converter.freshRates?_of_isFresh rfl (by decide +kernel),
      Option.isNone_iff_eq_none.1 (by decide +kernel)⟩
  have found := (isAtomic_and_announcesOnce_iff rfl _).1
    (tidy (.start informed.base) [opening, ⟨informed, 20, pound, 0⟩] rfl)
  exact found opening (List.find?_cons_of_pos convertible) misses

end Series

end Keypad
