import Keypad.Text

/-!
# Rate tables

A rate table gives each listed currency code one rate. The codes are kept in
order, so a table is listed in the order in which its codes are shown, and two
tables with the same rates are equal.
-/

namespace Keypad

/-- Currency codes with their rates, the codes in strictly increasing order. -/
structure Rates (α : Type) where
  entries : List (Text × α)
  sorted : entries.Pairwise (·.1 < ·.1)

namespace Rates

variable {α β : Type}

/-- The table without any code. -/
def empty : Rates α := ⟨[], .nil⟩

/-- The rate of a code. -/
def get? (rates : Rates α) (code : Text) : Option α :=
  rates.entries.lookup code

/-- The codes of a table, in order. -/
def codes (rates : Rates α) : List Text :=
  rates.entries.map (·.1)

/-- A sorted list with one more code, or with another rate for a code it lists. -/
def insertEntry (code : Text) (rate : α) : List (Text × α) → List (Text × α)
  | [] => [(code, rate)]
  | entry :: rest =>
      if code < entry.1 then (code, rate) :: entry :: rest
      else if code = entry.1 then (code, rate) :: rest
      else entry :: insertEntry code rate rest

/-- Inserting brings in no code but the one inserted. -/
theorem mem_insertEntry {code : Text} {rate : α} {entries : List (Text × α)}
    {entry : Text × α} (member : entry ∈ insertEntry code rate entries) :
    entry = (code, rate) ∨ entry ∈ entries := by
  induction entries with
  | nil => simpa [insertEntry] using member
  | cons head rest inductionHypothesis =>
      simp only [insertEntry] at member
      split at member
      · simpa using member
      · split at member
        · rcases List.mem_cons.1 member with rfl | member
          · exact .inl rfl
          · exact .inr (List.mem_cons_of_mem _ member)
        · rcases List.mem_cons.1 member with rfl | member
          · exact .inr List.mem_cons_self
          · exact (inductionHypothesis member).imp_right (List.mem_cons_of_mem _)

/-- Inserting keeps the order. -/
theorem sorted_insertEntry (code : Text) (rate : α) {entries : List (Text × α)}
    (sorted : entries.Pairwise (·.1 < ·.1)) :
    (insertEntry code rate entries).Pairwise (·.1 < ·.1) := by
  induction entries with
  | nil => simp [insertEntry]
  | cons head rest inductionHypothesis =>
      obtain ⟨below, restSorted⟩ := List.pairwise_cons.1 sorted
      simp only [insertEntry]
      split
      · rename_i before
        refine List.pairwise_cons.2 ⟨fun entry member => ?_, sorted⟩
        rcases List.mem_cons.1 member with rfl | member
        · exact before
        · exact List.lt_trans before (below entry member)
      · rename_i notBefore
        split
        · rename_i same
          exact List.pairwise_cons.2
            ⟨fun entry member => by simpa [same] using below entry member, restSorted⟩
        · rename_i different
          refine List.pairwise_cons.2
            ⟨fun entry member => ?_, inductionHypothesis restSorted⟩
          rcases mem_insertEntry member with rfl | member
          · exact (List.le_iff_lt_or_eq.1 (List.not_lt.1 notBefore)).resolve_right
              (fun equal => different equal.symm)
          · exact below entry member

/-- The table with one more code, or with another rate for a code it lists. -/
def insert (rates : Rates α) (code : Text) (rate : α) : Rates α :=
  ⟨insertEntry code rate rates.entries, sorted_insertEntry code rate rates.sorted⟩

/-- The table of a list of codes and rates. Of two rates for one code the later
counts. -/
def ofList (entries : List (Text × α)) : Rates α :=
  entries.foldl (fun rates entry => rates.insert entry.1 entry.2) empty

/-- The table with every rate changed. -/
def map (change : α → β) (rates : Rates α) : Rates β :=
  ⟨rates.entries.map fun entry => (entry.1, change entry.2),
    List.pairwise_map.2 rates.sorted⟩

@[simp] theorem get?_empty (code : Text) : (empty : Rates α).get? code = none := rfl

/-- After an insertion, the inserted code has the inserted rate and every other
code the rate it had. -/
theorem get?_insert (rates : Rates α) (code : Text) (rate : α) (other : Text) :
    (rates.insert code rate).get? other =
      if other = code then some rate else rates.get? other := by
  obtain ⟨entries, sorted⟩ := rates
  simp only [get?, insert]
  clear sorted
  induction entries with
  | nil => simp [insertEntry, Text.lookup_cons_eq_ite]
  | cons head rest inductionHypothesis =>
      simp only [insertEntry]
      split
      · simp [Text.lookup_cons_eq_ite]
      · split
        · rename_i equal
          subst equal
          by_cases same : other = head.1 <;> simp [Text.lookup_cons_eq_ite, same]
        · rename_i different
          by_cases atHead : other = head.1
          · subst atHead
            simp [Text.lookup_cons_eq_ite, Ne.symm different]
          · simp [Text.lookup_cons_eq_ite, atHead, inductionHypothesis]

/-- Changing every rate changes the rate of each code. -/
@[simp] theorem get?_map (change : α → β) (rates : Rates α) (code : Text) :
    (rates.map change).get? code = (rates.get? code).map change := by
  obtain ⟨entries, sorted⟩ := rates
  simp only [get?, map]
  clear sorted
  induction entries with
  | nil => rfl
  | cons head rest inductionHypothesis =>
      by_cases same : code = head.1 <;>
        simp [Text.lookup_cons_eq_ite, same, inductionHypothesis]

end Rates

end Keypad
