import Keypad.Currency.RateList
import Mathlib

/-!
# Coherent quotes

Rates against different currencies are coherent if one can be computed from the
other: what a first currency is worth is what a second one is worth, times the rate
of the second against the first. In exact numbers all the replies of a rate list are
coherent, if the list quotes its own base at one.

A list need not do that. It is requoted as if it did, but its own base is answered
with the list as it is. So that one quote, of the base against itself, decides
(`coherent_iff`).
-/

namespace Keypad

namespace Rates

variable {α β : Type}

theorem insertEntry_insertEntry (code : Text) (earlier later : α) (entries : List (Text × α)) :
    insertEntry code later (insertEntry code earlier entries) = insertEntry code later entries := by
  induction entries with
  | nil => simp [insertEntry]
  | cons head rest inductionHypothesis =>
      by_cases before : code < head.1
      · simp [insertEntry, before]
      · by_cases same : code = head.1
        · subst same
          simp [insertEntry]
        · simp [insertEntry, before, same, inductionHypothesis]

theorem map_insertEntry (change : α → β) (code : Text) (rate : α) (entries : List (Text × α)) :
    (insertEntry code rate entries).map (fun entry => (entry.1, change entry.2)) =
      insertEntry code (change rate) (entries.map fun entry => (entry.1, change entry.2)) := by
  induction entries with
  | nil => rfl
  | cons head rest inductionHypothesis =>
      by_cases before : code < head.1
      · simp [insertEntry, before]
      · by_cases same : code = head.1
        · simp [insertEntry, same]
        · simp [insertEntry, before, same, inductionHypothesis]

/-- Of two rates inserted for one code, the later one counts. -/
theorem insert_insert (rates : Rates α) (code : Text) (earlier later : α) :
    (rates.insert code earlier).insert code later = rates.insert code later :=
  (mk.injEq ..).mpr (insertEntry_insertEntry code earlier later rates.entries)

/-- A rate can be changed before or after it is inserted. -/
theorem map_insert (change : α → β) (rates : Rates α) (code : Text) (rate : α) :
    (rates.insert code rate).map change = (rates.map change).insert code (change rate) :=
  (mk.injEq ..).mpr (map_insertEntry change code rate rates.entries)

end Rates

namespace RateList

section Requoting

variable {α : Type} [OfNat α 0] [OfNat α 1] [Div α] [BEq α]

/-- The list with its own base quoted at one. -/
def quoteBase (list : RateList α) : RateList α :=
  { list with rates := list.rates.insert list.base 1 }

/-- A list is requoted as if it quoted its own base at one. -/
theorem reply_quoteBase (list : RateList α) {requested : Text} (other : requested ≠ list.base) :
    list.quoteBase.reply requested = list.reply requested := by
  have different : ¬list.base = requested := Ne.symm other
  have pivots : list.quoteBase.rates.get? requested = list.rates.get? requested := by
    rw [quoteBase, Rates.get?_insert, if_neg other]
  have requotes (pivot : α) : list.quoteBase.requote pivot = list.requote pivot := by
    rw [requote, requote, quoteBase, Rates.map_insert, Rates.insert_insert]
  have base : list.quoteBase.base = list.base := rfl
  simp only [reply, base, different, if_false, pivots, requotes]

end Requoting

/-- The replies of a list agree with each other in exact numbers. -/
structure Coherent (list : RateList ℚ) : Prop where
  /-- A reply quotes the currency that was asked for at one. -/
  own : ∀ requested, (list.reply requested).success →
    (list.reply requested).rates.get? requested = some 1
  /-- A reply quotes the base of the list. -/
  base : ∀ requested, (list.reply requested).success →
    ((list.reply requested).rates.get? list.base).isSome
  /-- A rate against one currency is the rate against another, times the rate of the
  other. -/
  cross : ∀ first second, (list.reply first).success → (list.reply second).success →
    ∀ code left right, (list.reply first).rates.get? code = some left →
      (list.reply second).rates.get? code = some right →
        ∃ pivot, (list.reply first).rates.get? second = some pivot ∧ left = pivot * right

variable {list : RateList ℚ}

/-- A list that quotes its own base at one divides all its rates by the rate of the
currency that is asked for. -/
theorem get?_reply (atOne : list.rates.get? list.base = some 1) {requested : Text}
    (success : (list.reply requested).success) :
    ∃ pivot, list.rates.get? requested = some pivot ∧ pivot ≠ 0 ∧
      ∀ code, (list.reply requested).rates.get? code = (list.rates.get? code).map (· / pivot) := by
  by_cases own : list.base = requested
  · subst own
    exact ⟨1, atOne, one_ne_zero, fun code => by simp⟩
  · rw [reply, if_neg own] at success ⊢
    cases listed : list.rates.get? requested with
    | none => simp [listed, RatesReply.unavailable] at success
    | some pivot =>
        by_cases zero : pivot = 0
        · simp [listed, zero, RatesReply.unavailable] at success
        · refine ⟨pivot, rfl, zero, fun code => ?_⟩
          have nonzero : (pivot == 0) = false := beq_false_of_ne zero
          simp only [nonzero, Bool.false_eq_true, if_false, requote, Rates.get?_insert,
            Rates.get?_map]
          split
          · rename_i isBase
            rw [isBase, atOne, Option.map_some]
          · rfl

theorem coherent_of_atOne (atOne : list.rates.get? list.base = some 1) : list.Coherent where
  own requested success := by
    obtain ⟨pivot, listed, nonzero, quotes⟩ := get?_reply atOne success
    rw [quotes, listed, Option.map_some, div_self nonzero]
  base requested success := by
    obtain ⟨pivot, -, -, quotes⟩ := get?_reply atOne success
    rw [quotes, atOne]
    rfl
  cross first second firstSuccess secondSuccess code left right isLeft isRight := by
    obtain ⟨firstPivot, -, firstNonzero, firstQuotes⟩ := get?_reply atOne firstSuccess
    obtain ⟨secondPivot, listed, secondNonzero, secondQuotes⟩ := get?_reply atOne secondSuccess
    rw [firstQuotes] at isLeft
    rw [secondQuotes] at isRight
    obtain ⟨rate, found, rfl⟩ := Option.map_eq_some_iff.1 isLeft
    rw [found] at isRight
    cases isRight
    refine ⟨secondPivot / firstPivot, by rw [firstQuotes, listed, Option.map_some], ?_⟩
    field_simp

/-- The replies of a list are coherent exactly when it quotes its own base at one. With
that quote every list has coherent replies, and they are the replies it has without, but
for the rate of its base against itself. -/
theorem coherent_iff (list : RateList ℚ) :
    (list.Coherent ↔ list.rates.get? list.base = some 1) ∧ list.quoteBase.Coherent ∧
      (∀ requested, requested ≠ list.base →
        list.quoteBase.reply requested = list.reply requested) ∧
      ∀ code, code ≠ list.base → (list.quoteBase.reply list.base).rates.get? code =
        (list.reply list.base).rates.get? code := by
  have quoted : list.quoteBase.rates.get? list.quoteBase.base = some 1 := by
    simp [quoteBase, Rates.get?_insert]
  refine ⟨⟨fun coherent => ?_, coherent_of_atOne⟩, coherent_of_atOne quoted,
    fun requested other => reply_quoteBase list other, fun code other => ?_⟩
  · simpa using coherent.own list.base
  · have own : list.quoteBase.reply list.base = ⟨true, list.base, list.quoteBase.rates⟩ :=
      reply_base list.quoteBase
    rw [own, reply_base, quoteBase, Rates.get?_insert, if_neg other]

/-- A list of one rate that does not mention its base: only the reply for the base needs
the quote that is missing. -/
theorem coherent_iff_dollar :
    let euro : Text := "EUR".toList
    let dollar : Text := "USD".toList
    let list : RateList ℚ := ⟨euro, Rates.empty.insert dollar (11 / 10)⟩
    dollar ≠ euro ∧ ¬list.Coherent ∧ list.quoteBase.Coherent ∧
      list.quoteBase.reply dollar = list.reply dollar ∧
      (list.quoteBase.reply euro).rates.get? dollar = (list.reply euro).rates.get? dollar := by
  intro euro dollar list
  have other : dollar ≠ euro := by decide
  obtain ⟨coherent, quoted, others, own⟩ := coherent_iff list
  have unlisted : list.rates.get? list.base ≠ some 1 := by
    simp [list, Rates.get?_insert, Ne.symm other]
  exact ⟨other, fun holds => unlisted (coherent.1 holds), quoted, others dollar other,
    own dollar other⟩

/-- Rates that are not zero are not enough for coherent replies. -/
theorem not_forall_coherent :
    ¬∀ list : RateList ℚ, (∀ code, list.rates.get? code ≠ some 0) → list.Coherent := by
  intro coherent
  let list : RateList ℚ := ⟨"EUR".toList, Rates.empty.insert "USD".toList (11 / 10)⟩
  have nonzero : ∀ code, list.rates.get? code ≠ some 0 := by
    intro code
    rw [Rates.get?_insert]
    split <;> simp
  have quoted := (coherent list nonzero).own list.base (by simp)
  rw [reply_base, Rates.get?_insert, if_neg (by decide)] at quoted
  cases quoted

end RateList

end Keypad
