import Keypad.Key
import Mathlib.Data.List.Forall2
import Mathlib.Data.Option.Basic

/-!
# What a text of keys stands for

The marks of a text are the keys its characters stand for, with a gap for every character
that stands for none. Blanks leave no mark, and all spellings of a key leave the same one.
A text can be typed exactly when its marks have no gap, and then its marks are what is typed.
-/

namespace Keypad

/-- A list is read when each of its members is read, and what is read is in the same order. -/
theorem mapM_eq_ok_iff {α β ε : Type} {read : α → Except ε β} {members : List α} {values : List β} :
    members.mapM read = .ok values ↔ List.Forall₂ (read · = .ok ·) members values := by
  induction members generalizing values with
  | nil => simp [pure, Except.pure, eq_comm]
  | cons member rest inductionHypothesis =>
      rw [List.mapM_cons]
      cases first : read member with
      | error fault => cases values <;> simp [first, bind, Except.bind]
      | ok value =>
          cases later : rest.mapM read with
          | error fault =>
              cases values <;> simp [first, ← inductionHypothesis, later, bind, Except.bind]
          | ok others =>
              cases values <;>
                simp [first, ← inductionHypothesis, later, bind, Except.bind, pure, Except.pure]

namespace Key

/-- The keys that the characters of a text stand for, blanks left out. The names of the clear
key stand for that key as a whole. -/
def marks (text : Text) : List (Option Key) :=
  if text = ['A', 'C'] ∨ text = ['a', 'c'] then [some .clear]
  else (text.filter (!Text.isBlank ·)).map ofChar?

/-- No blank stands for a key. -/
theorem isBlank_of_ofChar? {c : Char} {key : Key} (stands : ofChar? c = some key) :
    Text.isBlank c = false := by
  unfold ofChar? at stands
  split at stands
  · rename_i digit
    have low : '0'.toNat ≤ c.toNat := UInt32.le_iff_toNat_le.1 digit.1
    have high : c.toNat ≤ '9'.toNat := UInt32.le_iff_toNat_le.1 digit.2
    simp [Text.isBlank] at low high ⊢
    omega
  · split at stands
    all_goals first | decide | cases stands

theorem ofChar_eq_ok_iff {c : Char} {key : Key} : ofChar c = .ok key ↔ ofChar? c = some key := by
  unfold ofChar
  cases ofChar? c <;> simp

theorem sequence_eq_ok_iff {text : Text} {keys : List Key} :
    sequence text = .ok keys ↔ (text.filter (!Text.isBlank ·)).map ofChar? = keys.map some := by
  rw [sequence, mapM_eq_ok_iff, ← List.forall₂_eq_eq_eq, List.forall₂_map_left_iff,
    List.forall₂_map_right_iff]
  simp only [ofChar_eq_ok_iff]

/-- Unless it names the clear key, a text is typed character by character. -/
theorem typed_eq (text : Text) :
    typed text = if text = ['A', 'C'] ∨ text = ['a', 'c'] then .ok [.clear] else sequence text := by
  unfold typed ofText
  split_ifs with named
  · rfl
  · match text with
    | [] => rfl
    | [c] =>
        cases stands : ofChar? c with
        | none => simp [ofChar, stands]
        | some key =>
            have single : sequence [c] = .ok [key] := by
              simp [sequence_eq_ok_iff, isBlank_of_ofChar? stands, stands]
            simp [ofChar, stands, single]
    | _ :: _ :: _ => rfl

/-- A text is typed as its marks say, unless they have a gap. -/
theorem typed_eq_ok_iff {text : Text} {keys : List Key} :
    typed text = .ok keys ↔ marks text = keys.map some := by
  rw [typed_eq, marks]
  split_ifs
  · rw [Except.ok.injEq]
    exact (List.map_injective_iff.2 (Option.some_injective Key)).eq_iff.symm
  · exact sequence_eq_ok_iff

example : marks "1 × c2".toList = marks "1xC2".toList := by decide

/-- A text that neither names a key as a whole nor consists of characters that stand for keys. -/
def Unreadable (text : Text) : Prop :=
  (∃ unknown, ofText text = .error unknown) ∧ ∃ unknown, sequence text = .error unknown

theorem unreadable_iff {text : Text} :
    Unreadable text ↔ ∃ unknown, typed text = .error unknown := by
  unfold Unreadable typed
  cases ofText text <;> simp

instance (text : Text) : Decidable (Unreadable text) :=
  decidable_of_iff ((typed text).isOk = false) <| by
    rw [unreadable_iff]
    cases typed text <;> simp [Except.isOk, Except.toBool]

theorem not_unreadable_iff {text : Text} : ¬Unreadable text ↔ ∃ keys, typed text = .ok keys := by
  rw [unreadable_iff]
  cases typed text <;> simp

/-- Texts can be typed one after the other when each of them can be read. -/
theorem exists_forall₂_typed_iff {texts : List Text} :
    (∃ lists, List.Forall₂ (typed · = .ok ·) texts lists) ↔ ∀ text ∈ texts, ¬Unreadable text := by
  induction texts with
  | nil => simp
  | cons text rest inductionHypothesis =>
      rw [List.forall_mem_cons, not_unreadable_iff, ← inductionHypothesis]
      constructor
      · rintro ⟨_, _ | ⟨first, later⟩⟩
        exact ⟨⟨_, first⟩, _, later⟩
      · rintro ⟨⟨keys, first⟩, lists, later⟩
        exact ⟨keys :: lists, .cons first later⟩

/-- Texts are typed one after the other as their marks together say. -/
theorem exists_forall₂_typed_flatten_iff {texts : List Text} {keys : List Key} :
    (∃ lists, List.Forall₂ (typed · = .ok ·) texts lists ∧ lists.flatten = keys) ↔
      texts.flatMap marks = keys.map some := by
  induction texts generalizing keys with
  | nil =>
      rw [List.flatMap_nil, eq_comm, List.map_eq_nil_iff]
      constructor
      · rintro ⟨_, ⟨⟩, rfl⟩
        rfl
      · rintro rfl
        exact ⟨[], .nil, rfl⟩
  | cons text rest inductionHypothesis =>
      rw [List.flatMap_cons, eq_comm, List.map_eq_append_iff]
      constructor
      · rintro ⟨_, _ | ⟨first, later⟩, rfl⟩
        exact ⟨_, _, rfl, (typed_eq_ok_iff.1 first).symm,
          (inductionHypothesis.1 ⟨_, later, rfl⟩).symm⟩
      · rintro ⟨first, others, rfl, marked, later⟩
        obtain ⟨lists, typed, rfl⟩ := inductionHypothesis.2 later.symm
        exact ⟨first :: lists, .cons (typed_eq_ok_iff.2 marked.symm) typed, rfl⟩

end Key

end Keypad
