import Keypad.Expression.Scanner
import Mathlib.Data.List.SplitBy

/-!
# One scanner for many expressions

A scanner can live on after a fault and after the end of an expression. Either way
it holds nothing then (`react_of_closes`): no operator, no part of a numeral, no
expected sign. So what it answers from there on is what a new scanner would answer,
and a record of its uses, cut after each end of an expression and each fault, is
made of the records of new scanners (`pieces_record`).
-/

namespace Keypad.Scanner

/-- One use of a scanner, with what it gave. -/
structure Exchange where
  input : Input
  answer : Except Fault (Option Token)
deriving DecidableEq

/-- Whether a use brings what is being read to its end: it is the end of an
expression, or it faults. -/
def Exchange.closes (exchange : Exchange) : Bool :=
  match exchange.input, exchange.answer with
  | .finish, _ => true
  | .char _, .error _ => true
  | .char _, .ok _ => false

/-- The use that an input makes of a scanner, with what it gives. -/
def exchange (scanner : Scanner) (input : Input) : Exchange :=
  ⟨input, (scanner.react input).2⟩

/-- The record of a sequence of uses. -/
def record (scanner : Scanner) : List Input → List Exchange
  | [] => []
  | input :: rest => scanner.exchange input :: (scanner.react input).1.record rest

/-- What a scanner holds after a sequence of uses. -/
def after (scanner : Scanner) : List Input → Scanner
  | [] => scanner
  | input :: rest => (scanner.react input).1.after rest

/-- A record, cut after each use that brings what is being read to its end. -/
def pieces (exchanges : List Exchange) : List (List Exchange) :=
  exchanges.splitBy fun exchange _ => !exchange.closes

@[simp] theorem map_input_record (scanner : Scanner) (inputs : List Input) :
    (scanner.record inputs).map (·.input) = inputs := by
  induction inputs generalizing scanner with
  | nil => rfl
  | cons input rest inductionHypothesis =>
      exact congrArg (input :: ·) (inductionHypothesis _)

@[simp] theorem map_answer_record (scanner : Scanner) (inputs : List Input) :
    (scanner.record inputs).map (·.answer) = scanner.reactAll inputs := by
  induction inputs generalizing scanner with
  | nil => rfl
  | cons input rest inductionHypothesis =>
      exact congrArg ((scanner.react input).2 :: ·) (inductionHypothesis _)

/-- After the end of an expression and after a fault, nothing is held. -/
theorem react_of_closes {scanner : Scanner} {input : Input}
    (closes : (scanner.exchange input).closes) : (scanner.react input).1 = start := by
  cases input with
  | finish => simp
  | char c =>
      simp only [exchange, react_char] at closes ⊢
      cases stepped : scanner.step c with
      | error fault => rfl
      | ok result => simp [Exchange.closes, stepped] at closes

/-- A record that is cut anywhere is the record of the scanner up to there, and from
there on the record of the scanner as it is then. -/
theorem record_eq_append {scanner : Scanner} {inputs : List Input} {left right : List Exchange}
    (cut : scanner.record inputs = left ++ right) :
    left = scanner.record (left.map (·.input)) ∧
      right = (scanner.after (left.map (·.input))).record (right.map (·.input)) := by
  induction left generalizing scanner inputs with
  | nil =>
      have inputsEq : inputs = right.map (·.input) := by
        rw [← map_input_record scanner inputs, cut, List.nil_append]
      exact ⟨rfl, by rw [← inputsEq]; exact cut.symm⟩
  | cons first left inductionHypothesis =>
      cases inputs with
      | nil => cases cut
      | cons input rest =>
          obtain ⟨rfl, restCut⟩ := List.cons.inj cut
          obtain ⟨leftEq, rightEq⟩ := inductionHypothesis restCut
          exact ⟨congrArg (scanner.exchange input :: ·) leftEq, rightEq⟩

/-- A scanner whose last use brought what it was reading to its end holds nothing. -/
theorem after_of_closes {scanner : Scanner} {exchanges : List Exchange} {last : Exchange}
    (recorded : exchanges ++ [last] = scanner.record ((exchanges ++ [last]).map (·.input)))
    (closes : last.closes) : scanner.after ((exchanges ++ [last]).map (·.input)) = start := by
  induction exchanges generalizing scanner with
  | nil =>
      obtain ⟨lastEq, -⟩ := List.cons.inj recorded
      rw [lastEq] at closes
      exact react_of_closes closes
  | cons first exchanges inductionHypothesis =>
      obtain ⟨-, restRecorded⟩ := List.cons.inj recorded
      exact inductionHypothesis restRecorded

/-- A record of a new scanner, cut where something comes to its end, is made of the
records of new scanners. -/
theorem eq_record_of_mem {cut : List (List Exchange)} {inputs : List Input}
    (recorded : start.record inputs = cut.flatten)
    (ends : cut.IsChain fun piece next => ∃ (nonempty : piece ≠ []) (_ : next ≠ []),
      (piece.getLast nonempty).closes)
    {piece : List Exchange} (member : piece ∈ cut) :
    piece = start.record (piece.map (·.input)) := by
  induction cut generalizing inputs with
  | nil => cases member
  | cons first rest inductionHypothesis =>
      rw [List.flatten_cons] at recorded
      obtain ⟨firstEq, restEq⟩ := record_eq_append recorded
      rcases List.mem_cons.1 member with rfl | later
      · exact firstEq
      · cases rest with
        | nil => cases later
        | cons second rest =>
            obtain ⟨⟨nonempty, -, closes⟩, laterEnds⟩ := List.isChain_cons_cons.1 ends
            have restart : start.after (first.map (·.input)) = start := by
              rw [← List.dropLast_append_getLast nonempty] at firstEq ⊢
              exact after_of_closes firstEq closes
            rw [restart] at restEq
            exact inductionHypothesis restEq.symm laterEnds later

/-- A record of one scanner, cut after each end of an expression and each fault,
leaves nothing out, and each piece has the answers of a new scanner that is used for
that piece alone. After such a use nothing is held. -/
theorem pieces_record (inputs : List Input) :
    (pieces (start.record inputs)).flatten.map (·.input) = inputs ∧
      (pieces (start.record inputs)).flatten.map (·.answer) = start.reactAll inputs ∧
      (∀ piece ∈ pieces (start.record inputs),
        piece.map (·.answer) = start.reactAll (piece.map (·.input))) ∧
      ∀ scanner input, (exchange scanner input).closes → (react scanner input).1 = start := by
  have flat : (pieces (start.record inputs)).flatten = start.record inputs :=
    List.flatten_splitBy _ _
  refine ⟨by rw [flat, map_input_record], by rw [flat, map_answer_record], ?_,
    fun scanner input => react_of_closes⟩
  intro piece member
  have ends := List.isChain_getLast_head_splitBy (fun exchange _ => !Exchange.closes exchange)
    (start.record inputs)
  have recorded := eq_record_of_mem flat.symm
    (ends.imp fun _ _ ⟨nonempty, next, closes⟩ =>
      ⟨nonempty, next, by simpa using closes⟩) member
  rw [← map_answer_record, ← recorded]

/-- Three expressions and the start of a fourth. The operator in front of the first fault
and the numeral that the second one is about leave nothing behind. -/
theorem pieces_record_faulty :
    let inputs : List Input := [.char '3', .char '+', .char 'e', .char '4', .finish, .char '5',
      .char 'e', .char '*', .char '-', .char '7']
    let piece : List Exchange := [⟨.char '5', .ok none⟩, ⟨.char 'e', .ok none⟩,
      ⟨.char '*', .error (.invalidNumeral "5e".toList)⟩]
    let pending : Scanner := .afterOperator .add
    (pieces (start.record inputs)).map List.length = [3, 2, 3, 2] ∧
      piece ∈ pieces (start.record inputs) ∧
      piece.map (·.answer) = start.reactAll [.char '5', .char 'e', .char '*'] ∧
      (pending.exchange (.char 'e')).closes ∧ (pending.react (.char 'e')).1 = start := by
  intro inputs piece pending
  have cut : pieces (start.record inputs) =
      [start.record (inputs.take 3), start.record [.char '4', .finish], piece,
        start.record [.char '-', .char '7']] := by
    decide +kernel
  have member : piece ∈ pieces (start.record inputs) := by simp [cut]
  have closes : (pending.exchange (.char 'e')).closes := by decide +kernel
  obtain ⟨-, -, alone, restarts⟩ := pieces_record inputs
  exact ⟨by rw [cut]; rfl, member, alone piece member, closes, restarts pending _ closes⟩

end Keypad.Scanner
