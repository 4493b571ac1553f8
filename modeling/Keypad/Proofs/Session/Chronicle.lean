import Keypad.Proofs.Session.Dialogue

/-!
# Chronicles

A chronicle is what was done in a dialogue: every turn, and the request it started. Which
requests are outstanding, and which one is waited for, can be read off the chronicle without
a look at the session. `Accounts` says how, and every turn keeps it.

A request is waited for until its outcome comes, unless the clear key gives it up first.
Nothing else ends the waiting, so what a session drops as stale is exactly what was given up.
-/

namespace Keypad

/-- A turn that was taken, and the request it started. -/
structure Deed where
  turn : Turn
  started : Option Request

/-- The request whose outcome a command brings. -/
def Command.answered? : Command → Option Request
  | .arrive request _ => some request
  | _ => none

/-- Whether a command gives up what is waited for. -/
def Command.givesUp : Command → Bool
  | .press .clear => true
  | _ => false

/-- Whether a deed started a request, told by its generation. -/
def Deed.starts (deed : Deed) (request : Request) : Bool :=
  deed.started.any (·.generation == request.generation)

/-- What was done in a dialogue, the latest first. -/
abbrev Chronicle := List Deed

namespace Chronicle

/-- The requests that were started, the latest first. -/
def started (chronicle : Chronicle) : List Request :=
  chronicle.filterMap (·.started)

/-- The requests whose outcome came, the latest first. -/
def answered (chronicle : Chronicle) : List Request :=
  chronicle.filterMap (·.turn.command.answered?)

/-- Whether a request was given up: the clear key was pressed since it was started. -/
def abandons (chronicle : Chronicle) (request : Request) : Bool :=
  (chronicle.takeWhile (!·.starts request)).any (·.turn.command.givesUp)

@[simp] theorem started_nil : started [] = [] := rfl

@[simp] theorem started_cons (deed : Deed) (earlier : Chronicle) :
    started (deed :: earlier) = deed.started.toList ++ earlier.started := by
  cases starts : deed.started <;> simp [started, starts]

@[simp] theorem answered_nil : answered [] = [] := rfl

@[simp] theorem answered_cons (deed : Deed) (earlier : Chronicle) :
    answered (deed :: earlier) = deed.turn.command.answered?.toList ++ earlier.answered := by
  cases answers : deed.turn.command.answered? <;> simp [answered, answers]

/-- A request is not given up when it is started. -/
theorem abandons_cons_of_starts {deed : Deed} {request : Request} (starts : deed.starts request)
    (earlier : Chronicle) : abandons (deed :: earlier) request = false := by
  simp [abandons, starts]

/-- A request that was started before is given up by the clear key, and by nothing else. -/
theorem abandons_cons {deed : Deed} {request : Request} (other : deed.starts request = false)
    (earlier : Chronicle) :
    abandons (deed :: earlier) request =
      (deed.turn.command.givesUp || abandons earlier request) := by
  simp [abandons, other]

end Chronicle

namespace Session

variable {session next : Session} {turn : Turn} {started : Option Request}

/-- A turn starts no request, or it starts the next one and waits for it. -/
theorem Step.started_cases (step : session.Step turn next started) :
    (started = none ∧ next.generation = session.generation) ∨
      ∃ request, started = some request ∧ request.generation = session.generation + 1 ∧
        session.inFlight = none ∧ next.generation = session.generation + 1 ∧
          next.inFlight = some (session.generation + 1) ∧ turn.command.givesUp = false := by
  cases step with
  | requests idle => exact .inr ⟨_, rfl, rfl, idle, rfl, rfl, rfl⟩
  | _ => exact .inl ⟨rfl, rfl⟩

/-- The clear key gives up what is waited for. -/
theorem inFlight_handle_of_givesUp {command : Command} (givesUp : command.givesUp)
    (now : Moment) : (session.handle now command).1.inFlight = none := by
  cases command with
  | press key =>
      cases key with
      | clear =>
          change (session.press .clear).inFlight = none
          rw [press_of_resets (.inl rfl)]
          rfl
      | _ => cases givesUp
  | _ => cases givesUp

/-- A turn that starts no request leaves what is waited for as it is, unless it gives it up
or brings its outcome. -/
theorem Step.inFlight_eq (step : session.Step turn next none)
    (keeps : turn.command.givesUp = false) :
    next.inFlight = session.inFlight ∨
      next.inFlight = none ∧ ∃ request, turn.command.answered? = some request ∧
        session.inFlight = some request.generation := by
  cases step with
  | unchanged | dismisses => exact .inl rfl
  | acts _ idle | refuses idle | converts idle | misses idle => exact .inl rfl
  | restarts resets =>
      rcases resets with rfl | ⟨idle, -⟩
      · cases keeps
      · exact .inl idle.symm
  | @concludes _ request _ waiting => exact .inr ⟨rfl, request, rfl, waiting⟩

end Session

namespace Dialogue

variable {dialogue : Dialogue} {turn : Turn}

/-- A turn as a deed. -/
def deed (dialogue : Dialogue) (turn : Turn) : Deed :=
  ⟨turn, (dialogue.session.handle turn.now turn.command).2⟩

/-- No outcome of a request starts another one. -/
theorem started_deed_of_answers {request : Request}
    (answers : turn.command.answered? = some request) : (dialogue.deed turn).started = none := by
  obtain ⟨now, command⟩ := turn
  cases command with
  | arrive => rfl
  | _ => cases answers

/-- The request whose outcome comes is no longer outstanding. -/
theorem outstanding_after_of_answers {request : Request}
    (answers : turn.command.answered? = some request) :
    (dialogue.after turn).outstanding =
      dialogue.outstanding.filter (·.generation != request.generation) := by
  obtain ⟨now, command⟩ := turn
  cases command with
  | arrive =>
      cases answers
      exact List.append_nil _
  | _ => cases answers

/-- Without an outcome, all requests stay outstanding. -/
theorem outstanding_after (silent : turn.command.answered? = none) :
    (dialogue.after turn).outstanding =
      dialogue.outstanding ++ (dialogue.deed turn).started.toList := by
  obtain ⟨now, command⟩ := turn
  cases command with
  | arrive => cases silent
  | _ => exact congrArg (· ++ _) (List.filter_eq_self.2 fun _ _ => rfl)

/-- A command that brings no outcome can always come. -/
theorem admits_of_answers {command : Command}
    (member : ∀ request, command.answered? = some request → request ∈ dialogue.outstanding) :
    dialogue.Admits command := by
  cases command with
  | arrive request => exact member request rfl
  | _ => trivial

theorem mem_outstanding_of_answers {request : Request}
    (answers : turn.command.answered? = some request) (admitted : dialogue.Admits turn.command) :
    request ∈ dialogue.outstanding := by
  obtain ⟨now, command⟩ := turn
  cases command with
  | arrive =>
      cases answers
      exact admitted
  | _ => cases answers

end Dialogue

namespace Chronicle

/-- The dialogues that a session of a converter comes to, with what was done on the way. -/
inductive LeadsTo (converter : Converter) : Chronicle → Dialogue → Prop where
  | start : LeadsTo converter [] (.start converter)
  | turn {chronicle : Chronicle} {dialogue : Dialogue}
      (prior : LeadsTo converter chronicle dialogue) (turn : Turn)
      (admitted : dialogue.Admits turn.command) :
      LeadsTo converter (dialogue.deed turn :: chronicle) (dialogue.after turn)

/-- A chronicle tells of a run. -/
theorem LeadsTo.runs {converter : Converter} {chronicle : Chronicle} {dialogue : Dialogue}
    (leads : LeadsTo converter chronicle dialogue) :
    (Dialogue.start converter).Runs (chronicle.reverse.map (·.turn)) dialogue := by
  induction leads with
  | start => exact .refl
  | turn _ turn admitted inductionHypothesis =>
      simpa [Dialogue.deed] using inductionHypothesis.step turn admitted

/-- Of requests with different generations, one is left out by its generation. -/
theorem perm_cons_filter {requests : List Request} {request : Request}
    (distinct : (requests.map (·.generation)).Nodup) (member : request ∈ requests) :
    requests.Perm (request :: requests.filter (·.generation != request.generation)) := by
  obtain ⟨before, after, rfl⟩ := List.append_of_mem member
  rw [List.map_append, List.map_cons, List.nodup_middle, List.nodup_cons] at distinct
  have others : ∀ other ∈ before ++ after, other.generation ≠ request.generation := by
    intro other otherMember same
    rw [← List.map_append, ← same] at distinct
    exact distinct.1 (List.mem_map_of_mem otherMember)
  have kept : (before ++ after).filter (·.generation != request.generation) = before ++ after :=
    List.filter_eq_self.2 fun other otherMember => by simpa using others other otherMember
  rw [List.filter_append] at kept
  rw [List.filter_append, List.filter_cons_of_neg (by simp), kept]
  exact List.perm_middle

/-- The clear key gives up every request that is outstanding. -/
theorem inFlight_after_of_givesUp {dialogue : Dialogue} {turn : Turn}
    (givesUp : turn.command.givesUp) (chronicle : Chronicle) (request : Request) :
    (dialogue.after turn).session.inFlight = some request.generation ↔
      abandons (dialogue.deed turn :: chronicle) request = false := by
  have none : (dialogue.after turn).session.inFlight = none :=
    Session.inFlight_handle_of_givesUp givesUp turn.now
  have same : (dialogue.deed turn).turn = turn := rfl
  have idle : (dialogue.deed turn).started = Option.none := by
    have step := dialogue.session.step_handle turn
    rcases step.started_cases with ⟨idle, -⟩ | ⟨-, -, -, -, -, -, keeps⟩
    · exact idle
    · simp [givesUp] at keeps
  rw [none, abandons_cons (by simp [Deed.starts, idle]), same, givesUp]
  simp

/-- What the chronicle tells about the requests of a dialogue. -/
structure Accounts (chronicle : Chronicle) (dialogue : Dialogue) : Prop where
  numbered : chronicle.started.map (·.generation) =
    (List.range' 1 dialogue.session.generation).reverse
  balanced : chronicle.started.Perm (chronicle.answered ++ dialogue.outstanding)
  inFlight : ∀ request ∈ dialogue.outstanding,
    (dialogue.session.inFlight = some request.generation ↔ chronicle.abandons request = false)

namespace Accounts

theorem start (converter : Converter) : Accounts [] (.start converter) where
  numbered := rfl
  balanced := .nil
  inFlight := nofun

variable {chronicle : Chronicle} {dialogue : Dialogue} (accounts : Accounts chronicle dialogue)

include accounts

/-- No two requests have the same generation. -/
theorem nodup : (chronicle.started.map (·.generation)).Nodup := by
  rw [accounts.numbered, List.nodup_reverse]
  exact List.nodup_range'

/-- No two of the requests that were answered or are outstanding have the same generation. -/
theorem nodup_append :
    ((chronicle.answered ++ dialogue.outstanding).map (·.generation)).Nodup :=
  (accounts.balanced.map _).nodup_iff.1 accounts.nodup

/-- The request that a turn starts gets the next number. -/
theorem numbered_after (turn : Turn) :
    (started (dialogue.deed turn :: chronicle)).map (·.generation) =
      (List.range' 1 (dialogue.after turn).session.generation).reverse := by
  have step := dialogue.session.step_handle turn
  have next : (dialogue.after turn).session =
    (dialogue.session.handle turn.now turn.command).1 := rfl
  rw [started_cons, next]
  rcases step.started_cases with ⟨none, same⟩ | ⟨request, starts, number, -, counts, -⟩
  · rw [same, Dialogue.deed, none, Option.toList_none, List.nil_append, accounts.numbered]
  · rw [counts, Dialogue.deed, starts, List.range'_1_concat, List.reverse_append,
      Option.toList_some, List.singleton_append, List.map_cons, accounts.numbered, number]
    simp [Nat.add_comm]

theorem nodup_outstanding : (dialogue.outstanding.map (·.generation)).Nodup := by
  have nodup := accounts.nodup_append
  rw [List.map_append] at nodup
  exact nodup.of_append_right

/-- A turn brings at most the outcome of an outstanding request, and starts at most one. -/
theorem balanced_after {turn : Turn} (admitted : dialogue.Admits turn.command) :
    (started (dialogue.deed turn :: chronicle)).Perm
      (answered (dialogue.deed turn :: chronicle) ++ (dialogue.after turn).outstanding) := by
  have same : (dialogue.deed turn).turn = turn := rfl
  rw [started_cons, answered_cons, same]
  cases answers : turn.command.answered? with
  | some request =>
      have member := Dialogue.mem_outstanding_of_answers answers admitted
      have split := perm_cons_filter accounts.nodup_outstanding member
      rw [Dialogue.started_deed_of_answers answers, Dialogue.outstanding_after_of_answers answers]
      exact accounts.balanced.trans ((split.append_left _).trans List.perm_middle)
  | none =>
      rw [Dialogue.outstanding_after answers, Option.toList_none, List.nil_append,
        ← List.append_assoc]
      exact (accounts.balanced.append_left _).trans List.perm_append_comm

/-- The outstanding requests were started before. -/
theorem generation_le {request : Request} (member : request ∈ dialogue.outstanding) :
    request.generation ≤ dialogue.session.generation := by
  have started : request ∈ chronicle.started :=
    accounts.balanced.mem_iff.2 (List.mem_append_right _ member)
  have counted := List.mem_map_of_mem (f := (·.generation)) started
  rw [accounts.numbered, List.mem_reverse, List.mem_range'_1] at counted
  omega

/-- What is not waited for was given up. -/
theorem abandons_of_ne {request : Request} (member : request ∈ dialogue.outstanding)
    (other : dialogue.session.inFlight ≠ some request.generation) :
    chronicle.abandons request = true := by
  rw [← Bool.not_eq_false]
  exact mt (accounts.inFlight request member).2 other

/-- A turn that starts no request ends the waiting only with the outcome. -/
theorem inFlight_after_of_not_starts {turn : Turn} (keeps : turn.command.givesUp = false)
    (idle : (dialogue.deed turn).started = none) {request : Request}
    (member : request ∈ (dialogue.after turn).outstanding) :
    (dialogue.after turn).session.inFlight = some request.generation ↔
      abandons (dialogue.deed turn :: chronicle) request = false := by
  have step : dialogue.session.Step turn (dialogue.after turn).session none := by
    rw [← idle]
    exact dialogue.session.step_handle turn
  have same : (dialogue.deed turn).turn = turn := rfl
  rw [abandons_cons (by simp [Deed.starts, idle]), same, keeps, Bool.false_or]
  rcases step.inFlight_eq keeps with unmoved | ⟨none, other, answers, waiting⟩
  · have outstanding : request ∈ dialogue.outstanding := by
      cases answers : turn.command.answered? with
      | some other =>
          rw [Dialogue.outstanding_after_of_answers answers] at member
          exact (List.mem_filter.1 member).1
      | none =>
          rw [Dialogue.outstanding_after answers, idle] at member
          simpa using member
    rw [unmoved]
    exact accounts.inFlight request outstanding
  · rw [Dialogue.outstanding_after_of_answers answers, List.mem_filter] at member
    obtain ⟨outstanding, differs⟩ := member
    have abandoned := accounts.abandons_of_ne outstanding
      (by rw [waiting]; simpa using Ne.symm (bne_iff_ne.1 differs))
    rw [none, abandoned]
    simp

/-- The request that a turn starts is the one waited for, and all others were given up. -/
theorem inFlight_after_of_starts {turn : Turn} {request next : Request}
    (starts : (dialogue.deed turn).started = some next)
    (number : next.generation = dialogue.session.generation + 1)
    (idle : dialogue.session.inFlight = none)
    (waiting : (dialogue.after turn).session.inFlight = some (dialogue.session.generation + 1))
    (keeps : turn.command.givesUp = false)
    (member : request ∈ (dialogue.after turn).outstanding) :
    (dialogue.after turn).session.inFlight = some request.generation ↔
      abandons (dialogue.deed turn :: chronicle) request = false := by
  have silent : turn.command.answered? = none := by
    rw [Option.eq_none_iff_forall_ne_some]
    intro other answers
    rw [Dialogue.started_deed_of_answers answers] at starts
    cases starts
  have same : (dialogue.deed turn).turn = turn := rfl
  rw [Dialogue.outstanding_after silent, starts] at member
  rcases List.mem_append.1 member with earlier | last
  · have bounded := accounts.generation_le earlier
    have other : (dialogue.deed turn).starts request = false := by
      simp only [Deed.starts, starts, Option.any_some, beq_eq_false_iff_ne]
      omega
    rw [abandons_cons other, same, keeps, accounts.abandons_of_ne earlier (by simp [idle]), waiting]
    simp only [Option.some.injEq, Bool.or_true, Bool.true_eq_false, iff_false]
    omega
  · obtain rfl : request = next := by simpa using last
    rw [abandons_cons_of_starts (by simp [Deed.starts, starts]), waiting, number]
    simp

/-- A request is waited for until it is given up or answered. -/
theorem inFlight_after (turn : Turn) {request : Request}
    (member : request ∈ (dialogue.after turn).outstanding) :
    (dialogue.after turn).session.inFlight = some request.generation ↔
      abandons (dialogue.deed turn :: chronicle) request = false := by
  have step := dialogue.session.step_handle turn
  cases givesUp : turn.command.givesUp with
  | true => exact inFlight_after_of_givesUp givesUp chronicle request
  | false =>
      rcases step.started_cases with ⟨idle, -⟩ | ⟨next, starts, number, idle, -, waiting, -⟩
      · exact accounts.inFlight_after_of_not_starts givesUp idle member
      · exact accounts.inFlight_after_of_starts starts number idle waiting givesUp member

/-- Every turn keeps the account. -/
theorem after {turn : Turn} (admitted : dialogue.Admits turn.command) :
    Accounts (dialogue.deed turn :: chronicle) (dialogue.after turn) where
  numbered := accounts.numbered_after turn
  balanced := accounts.balanced_after admitted
  inFlight := fun _ member => accounts.inFlight_after turn member

end Accounts

theorem LeadsTo.accounts {converter : Converter} {chronicle : Chronicle} {dialogue : Dialogue}
    (leads : LeadsTo converter chronicle dialogue) : Accounts chronicle dialogue := by
  induction leads with
  | start => exact .start converter
  | turn _ _ admitted inductionHypothesis => exact inductionHypothesis.after admitted

end Chronicle

end Keypad
