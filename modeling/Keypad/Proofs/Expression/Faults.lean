import Keypad.Proofs.Expression.Roles

/-!
# Which fault is reported

A text may have several faults, and each shows at a place of its own: a character outside the
alphabet and a misplaced exponent letter where they stand, a numeral that cannot be read where it
ends. `Shows` says so without a scanner. Scanning fails with the fault that shows leftmost
(`Token.ofText_eq_error_iff`).

A numeral ends at an operator or at the end of the text. One that runs into a character outside
the alphabet never ends, so it is that character that is reported.
-/

namespace Keypad

namespace Scanner

open Entry (endsInExponentLetter)

/-- A fault and the place where it shows, between what stands in front, in reverse, and the
rest. -/
inductive Shows : Text → Text → Fault → Prop where
  | unexpectedCharacter {front rest : Text} {c : Char} (foreign : c ∉ alphabet) :
      Shows front (c :: rest) (.unexpectedCharacter c)
  /-- An exponent letter that is first or stands directly behind an operator. -/
  | misplacedExponent {front rest : Text} {c : Char} (letter : isExponentLetter c)
      (mayStart : operandMayStart front) : Shows front (c :: rest) .misplacedExponent
  /-- A numeral that cannot be read, at the operator that follows it or at the end. -/
  | invalidNumeral {front rest : Text} (nonempty : numeralAt front ≠ [])
      (ends : ∀ c ∈ rest.head?, role front c = .operator)
      (unreadable : Numeral.read? (numeralAt front) = none) :
      Shows front rest (.invalidNumeral (numeralAt front))

/-- No fault of a text shows in front of a place in it. -/
def Clear (front rest : Text) : Prop :=
  ∀ earlier later fault, earlier.reverse ++ later = front.reverse ++ rest →
    Shows earlier later fault → front.length ≤ earlier.length

/-- The fault of a text that shows leftmost. -/
def ShowsFirst (expression : Text) (fault : Fault) : Prop :=
  ∃ front rest, expression = front.reverse ++ rest ∧ Clear front rest ∧ Shows front rest fault

/-- A fault that keeps a scanner from taking what comes next: the first character of the rest,
or the end. -/
def StopsAt (scanner : Scanner) : Text → Fault → Prop
  | [], fault => scanner.finish = .error fault
  | c :: _, fault => scanner.step c = .error fault

theorem finishNumeral_eq_error_iff (text : Text) (fault : Fault) :
    finishNumeral text = .error fault ↔
      Numeral.read? text = none ∧ fault = .invalidNumeral text := by
  unfold finishNumeral
  cases Numeral.read? text with
  | none => simp [eq_comm]
  | some value => simp

theorem finish_of_isOpen {scanner : Scanner} (isOpen : scanner.IsOpen) :
    scanner.finish = .ok scanner.held.head? := by
  cases scanner with
  | inNumeral text signAllowed => exact isOpen.elim
  | start => rfl
  | afterOperator op => rfl

section Stopping

variable {front rest : Text} {scanner : Scanner} {fault : Fault}

/-- At the end of a numeral a scanner is stopped if the numeral cannot be read. -/
theorem stopsAt_inNumeral_iff (ends : ∀ c ∈ rest.head?, role front c = .operator) (text : Text) :
    (inNumeral text (endsInExponentLetter front)).StopsAt rest fault ↔
      Numeral.read? text = none ∧ fault = .invalidNumeral text := by
  rw [← finishNumeral_eq_error_iff]
  cases rest with
  | nil =>
      rw [StopsAt, finish]
      cases finishNumeral text <;> simp [bind, Except.bind, pure, Except.pure]
  | cons c later =>
      obtain ⟨op, finishes⟩ := step_inNumeral_of_operator (ends c rfl) text
      rw [StopsAt, finishes]
      cases finishNumeral text <;> simp [Except.map]

/-- Every fault that shows at a place stops a scanner that has come there. -/
theorem Holds.stopsAt (holds : Holds front scanner) (shows : Shows front rest fault) :
    scanner.StopsAt rest fault := by
  cases shows with
  | unexpectedCharacter foreign => exact holds.step_of_foreign foreign
  | misplacedExponent letter mayStart =>
      cases holds with
      | numeral goesOn nonempty => simp [goesOn] at mayStart
      | noNumeral isOpen _ =>
          rw [StopsAt, step_of_isOpen isOpen, beginOperand_of_letter letter]
          rfl
  | invalidNumeral nonempty ends unreadable =>
      cases holds with
      | noNumeral _ mayStart => exact absurd (numeralAt_of_operandMayStart mayStart) nonempty
      | numeral _ _ => exact (stopsAt_inNumeral_iff ends _).2 ⟨unreadable, rfl⟩

/-- Nothing else stops it. -/
theorem Holds.shows (holds : Holds front scanner) (stops : scanner.StopsAt rest fault) :
    Shows front rest fault := by
  cases rest with
  | nil =>
      have ends : ∀ c ∈ ([] : Text).head?, role front c = .operator := by simp
      cases holds with
      | noNumeral isOpen mayStart =>
          rw [StopsAt, finish_of_isOpen isOpen] at stops
          cases stops
      | numeral goesOn nonempty =>
          obtain ⟨unreadable, rfl⟩ := (stopsAt_inNumeral_iff ends _).1 stops
          exact .invalidNumeral nonempty ends unreadable
  | cons c later =>
      cases found : role front c with
      | foreign =>
          have foreign := role_eq_foreign_iff.1 found
          rw [StopsAt, holds.step_of_foreign foreign] at stops
          cases stops
          exact .unexpectedCharacter foreign
      | numeral =>
          cases holds with
          | numeral goesOn nonempty =>
              rw [StopsAt, step_inNumeral_of_numeral found goesOn] at stops
              cases stops
          | noNumeral isOpen mayStart =>
              rw [StopsAt, step_of_isOpen isOpen] at stops
              cases letter : isExponentLetter c with
              | false =>
                  rw [beginOperand_of_numeral mayStart found letter] at stops
                  cases stops
              | true =>
                  rw [beginOperand_of_letter letter] at stops
                  cases stops
                  exact .misplacedExponent letter mayStart
      | operator =>
          have ends : ∀ next ∈ (c :: later).head?, role front next = .operator := by
            simpa using found
          cases holds with
          | noNumeral isOpen mayStart =>
              obtain ⟨op, begins⟩ := beginOperand_of_operator mayStart found
              rw [StopsAt, step_of_isOpen isOpen, begins] at stops
              cases stops
          | numeral goesOn nonempty =>
              obtain ⟨unreadable, rfl⟩ := (stopsAt_inNumeral_iff ends _).1 stops
              exact .invalidNumeral nonempty ends unreadable

/-- What stops a scanner is what scanning the rest fails with. -/
theorem tokensFrom_of_stopsAt (stops : scanner.StopsAt rest fault) :
    scanner.tokensFrom rest = .error fault := by
  cases rest with
  | nil =>
      rw [StopsAt] at stops
      rw [tokensFrom, stops]
      rfl
  | cons c later =>
      rw [StopsAt] at stops
      rw [tokensFrom, stops]
      rfl

/-- Scanning that fails has come to a place where it is stopped. -/
theorem exists_stopsAt (reads : Reads front scanner)
    (fails : scanner.tokensFrom rest = .error fault) :
    ∃ between later last, rest = between ++ later ∧ Reads (between.reverse ++ front) last ∧
      last.StopsAt later fault := by
  induction rest generalizing front scanner with
  | nil =>
      refine ⟨[], [], scanner, rfl, reads, ?_⟩
      cases finished : scanner.finish with
      | error other =>
          rw [tokensFrom, finished] at fails
          cases fails
          exact finished
      | ok token =>
          rw [tokensFrom, finished] at fails
          cases fails
  | cons c rest inductionHypothesis =>
      cases steps : scanner.step c with
      | error other =>
          rw [tokensFrom, steps] at fails
          cases fails
          exact ⟨[], c :: rest, scanner, rfl, reads, steps⟩
      | ok result =>
          obtain ⟨next, token⟩ := result
          rw [tokensFrom_of_step steps] at fails
          cases onRest : next.tokensFrom rest with
          | ok tokens =>
              rw [onRest] at fails
              cases fails
          | error other =>
              rw [onRest] at fails
              cases fails
              obtain ⟨between, later, last, rfl, readsOn, stops⟩ :=
                inductionHypothesis (reads.step steps) onRest
              exact ⟨c :: between, later, last, rfl, by simpa using readsOn, stops⟩

/-- A scanner that has come to a place has taken every character in front of it. -/
theorem Reads.exists_step {passed earlier : Text} {c : Char}
    (reads : Reads (passed ++ c :: earlier) scanner) :
    ∃ held next token, Reads earlier held ∧ held.step c = .ok (next, token) := by
  induction passed generalizing scanner with
  | nil =>
      cases reads with
      | step reads steps => exact ⟨_, _, _, reads, steps⟩
  | cons last passed inductionHypothesis =>
      cases reads with
      | step reads steps => exact inductionHypothesis reads

/-- Of two places in a text, the later one has the characters between them in front of it. -/
theorem exists_eq_append_cons_of_length_lt {earlier later : Text}
    (same : earlier.reverse ++ later = front.reverse ++ rest)
    (shorter : earlier.length < front.length) :
    ∃ passed c after, front = passed ++ c :: earlier ∧ later = c :: after := by
  rcases List.append_eq_append_iff.1 same with ⟨between, equal, laterEqual⟩ | ⟨between, equal, -⟩
  · cases between with
    | nil =>
        rw [List.append_nil, List.reverse_inj] at equal
        rw [equal] at shorter
        exact absurd shorter (Nat.lt_irrefl _)
    | cons c between =>
        refine ⟨between.reverse, c, between ++ rest, ?_, laterEqual⟩
        simpa using congrArg List.reverse equal
  · have longer := congrArg List.length equal
    simp only [List.length_append, List.length_reverse] at longer
    omega

/-- Nothing shows in front of a place that a scanner comes to. -/
theorem Reads.clear (reads : Reads front scanner) (rest : Text) : Clear front rest := by
  intro earlier later fault same shows
  by_contra shorter
  obtain ⟨passed, c, after, rfl, rfl⟩ :=
    exists_eq_append_cons_of_length_lt same (Nat.lt_of_not_le shorter)
  obtain ⟨held, next, token, readsEarlier, steps⟩ := reads.exists_step
  have stops : held.step c = .error fault := readsEarlier.holds.stopsAt shows
  rw [steps] at stops
  cases stops

/-- A scanner comes to every place in front of which nothing shows. -/
theorem Clear.exists_reads (clear : Clear front rest) : ∃ scanner, Reads front scanner := by
  induction front generalizing rest with
  | nil => exact ⟨start, .start⟩
  | cons c front inductionHypothesis =>
      have same : front.reverse ++ c :: rest = (c :: front).reverse ++ rest := by simp
      have clearFront : Clear front (c :: rest) := fun earlier later fault equal shows =>
        Nat.le_of_succ_le (clear earlier later fault (equal.trans same) shows)
      obtain ⟨scanner, reads⟩ := inductionHypothesis clearFront
      cases steps : scanner.step c with
      | ok result => exact ⟨result.1, reads.step steps⟩
      | error fault =>
          have stops : scanner.StopsAt (c :: rest) fault := steps
          exact absurd (clear _ _ _ same (reads.holds.shows stops)) (Nat.not_succ_le_self _)

end Stopping

end Scanner

open Scanner

/-- Scanning fails with a fault exactly if it is the one that shows leftmost. So a character
outside the alphabet directly behind a numeral that cannot be read is reported instead of the
numeral, and such a numeral in front of an operator is reported before anything behind it. -/
theorem Token.ofText_eq_error_iff (expression : Text) :
    (∀ fault, ofText expression = .error fault ↔ ShowsFirst expression fault) ∧
      ∀ front c rest, expression = front.reverse ++ c :: rest → Clear front (c :: rest) →
        numeralAt front ≠ [] → Numeral.read? (numeralAt front) = none →
          (c ∉ alphabet → ofText expression = .error (.unexpectedCharacter c)) ∧
            (role front c = .operator →
              ofText expression = .error (.invalidNumeral (numeralAt front))) := by
  have reported {fault : Fault} : ShowsFirst expression fault →
      ofText expression = .error fault := by
    rintro ⟨front, rest, rfl, clear, shows⟩
    obtain ⟨scanner, reads⟩ := clear.exists_reads
    obtain ⟨handedOut, run⟩ := reads.exists_ofText
    rw [run, tokensFrom_of_stopsAt (reads.holds.stopsAt shows)]
    rfl
  refine ⟨fun fault => ⟨fun fails => ?_, reported⟩, ?_⟩
  · obtain ⟨between, later, last, rfl, reads, stops⟩ := exists_stopsAt .start fails
    rw [List.append_nil] at reads
    exact ⟨between.reverse, later, by simp, reads.clear later, reads.holds.shows stops⟩
  · intro front c rest equal clear nonempty unreadable
    refine ⟨fun foreign => ?_, fun operator => ?_⟩
    · exact reported ⟨front, c :: rest, equal, clear, .unexpectedCharacter foreign⟩
    · refine reported ⟨front, c :: rest, equal, clear, .invalidNumeral nonempty ?_ unreadable⟩
      rintro _ ⟨⟩
      exact operator

/-- In both texts a numeral with two points stands behind a sum, with more faults behind it. -/
theorem Token.ofText_eq_error_iff_several :
    ofText "2+1.2.3 4e×e".toList = .error (.unexpectedCharacter ' ') ∧
      ofText "2+1.2.3×e x".toList = .error (.invalidNumeral "1.2.3".toList) ∧
      ShowsFirst "2+1.2.3×e x".toList (.invalidNumeral "1.2.3".toList) := by
  let front : Text := "3.2.1+2".toList
  have reads : Reads front (.inNumeral "1.2.3".toList false) :=
    ((((((Reads.start.step rfl).step rfl).step rfl).step rfl).step rfl).step rfl).step rfl
  have nonempty : numeralAt front ≠ [] := by decide
  have unreadable : Numeral.read? (numeralAt front) = none := by decide +kernel
  obtain ⟨-, ofSpace⟩ := ofText_eq_error_iff "2+1.2.3 4e×e".toList
  obtain ⟨leftmost, ofTimes⟩ := ofText_eq_error_iff "2+1.2.3×e x".toList
  have space := ofSpace front ' ' "4e×e".toList rfl (reads.clear _) nonempty unreadable
  have times := ofTimes front '×' "e x".toList rfl (reads.clear _) nonempty unreadable
  have invalid := times.2 rfl
  exact ⟨space.1 (by decide), invalid, (leftmost _).1 invalid⟩

end Keypad
