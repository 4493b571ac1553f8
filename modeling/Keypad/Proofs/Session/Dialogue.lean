import Keypad.Proofs.Session.Commands
import Mathlib.Data.List.Nodup

/-!
# Sessions and their requests

A dialogue is a session with the requests it has started whose outcome has not come. An
outcome comes at most once and only for a request that the session started. Nothing else
is fixed: outcomes overtake each other, and the outcome of a request that was given up
still comes.

Generations number the requests in the order of their starts. `Numbered` says so, and
that the request in flight is the last one started.
-/

namespace Keypad

/-- Whether a request is still outstanding once a command has been handled. -/
def Command.leaves : Command → Request → Bool
  | .arrive answered _, request => request.generation != answered.generation
  | _, _ => true

/-- A session, and the requests it has started whose outcome has not come. -/
structure Dialogue where
  session : Session
  outstanding : List Request

namespace Dialogue

/-- The dialogue of a session on which nothing has been done. -/
def start (converter : Converter) : Dialogue := ⟨.start converter, []⟩

/-- Whether a command can come: an outcome comes for an outstanding request only. -/
def Admits (dialogue : Dialogue) : Command → Prop
  | .arrive request _ => request ∈ dialogue.outstanding
  | _ => True

/-- The dialogue after a turn. -/
def after (dialogue : Dialogue) (turn : Turn) : Dialogue where
  session := (dialogue.session.handle turn.now turn.command).1
  outstanding := dialogue.outstanding.filter turn.command.leaves ++
    (dialogue.session.handle turn.now turn.command).2.toList

/-- What a turn does to a dialogue is what a step does to its session. -/
theorem exists_step_after (dialogue : Dialogue) (turn : Turn) :
    ∃ session started, dialogue.session.Step turn session started ∧
      dialogue.after turn =
        ⟨session, dialogue.outstanding.filter turn.command.leaves ++ started.toList⟩ :=
  ⟨_, _, dialogue.session.step_handle turn, rfl⟩

/-- The request that a turn starts is outstanding after it. -/
theorem mem_outstanding_after {dialogue : Dialogue} {turn : Turn} {request : Request}
    (starts : (dialogue.session.handle turn.now turn.command).2 = some request) :
    request ∈ (dialogue.after turn).outstanding := by
  simp [after, starts]

/-- A request stays outstanding until its outcome comes. -/
theorem mem_outstanding_after_of_leaves {dialogue : Dialogue} {request : Request}
    (member : request ∈ dialogue.outstanding) {turn : Turn}
    (leaves : turn.command.leaves request) : request ∈ (dialogue.after turn).outstanding :=
  List.mem_append_left _ (List.mem_filter.2 ⟨member, leaves⟩)

/-- The dialogues that turns lead to, one turn after the other. -/
inductive Runs (initial : Dialogue) : List Turn → Dialogue → Prop where
  | refl : Runs initial [] initial
  | step {turns : List Turn} {dialogue : Dialogue} (prior : Runs initial turns dialogue)
      (turn : Turn) (admitted : dialogue.Admits turn.command) :
      Runs initial (turns ++ [turn]) (dialogue.after turn)

/-- The dialogues that a session of a converter can come to. -/
def Reachable (converter : Converter) (dialogue : Dialogue) : Prop :=
  ∃ turns, (start converter).Runs turns dialogue

/-- The generations number the outstanding requests in the order of their starts, and the
request in flight is the last one started. -/
structure Numbered (dialogue : Dialogue) : Prop where
  positive : ∀ request ∈ dialogue.outstanding, 0 < request.generation
  bounded : ∀ request ∈ dialogue.outstanding,
    request.generation ≤ dialogue.session.generation
  increasing : dialogue.outstanding.Pairwise (·.generation < ·.generation)
  inFlight : ∀ generation, dialogue.session.inFlight = some generation →
    generation = dialogue.session.generation ∧
      ∃ request ∈ dialogue.outstanding, request.generation = generation

namespace Numbered

theorem start (converter : Converter) : (start converter).Numbered where
  positive := nofun
  bounded := nofun
  increasing := .nil
  inFlight := nofun

variable {dialogue : Dialogue} (numbered : dialogue.Numbered)

include numbered

/-- Two outstanding requests of one generation are the same request. -/
theorem eq_of_generation_eq {request other : Request}
    (member : request ∈ dialogue.outstanding) (otherMember : other ∈ dialogue.outstanding)
    (same : request.generation = other.generation) : request = other := by
  have distinct : (dialogue.outstanding.map (·.generation)).Nodup :=
    List.pairwise_map.2 (numbered.increasing.imp Nat.ne_of_lt)
  exact List.inj_on_of_nodup_map distinct member otherMember same

/-- The numbers stay if no request starts and the one in flight, unless it is given up or
answered, stays outstanding. -/
theorem filter {session : Session} {keeps : Request → Bool}
    (generation : session.generation = dialogue.session.generation)
    (inFlight : session.inFlight = none ∨
      session.inFlight = dialogue.session.inFlight ∧
        ∀ request, session.inFlight = some request.generation → keeps request) :
    Numbered ⟨session, dialogue.outstanding.filter keeps⟩ where
  positive := by
    intro request member
    exact numbered.positive request (List.mem_filter.1 member).1
  bounded := by
    intro request member
    rw [generation]
    exact numbered.bounded request (List.mem_filter.1 member).1
  increasing := numbered.increasing.filter keeps
  inFlight := by
    intro current waiting
    rcases inFlight with none | ⟨same, kept⟩
    · cases none.symm.trans waiting
    · obtain ⟨last, request, member, rfl⟩ :=
        numbered.inFlight current (same.symm.trans waiting)
      exact ⟨last.trans generation.symm, request,
        List.mem_filter.2 ⟨member, kept request waiting⟩, rfl⟩

/-- The next request gets the next number. -/
theorem append {session : Session} {request : Request}
    (generation : session.generation = dialogue.session.generation + 1)
    (inFlight : session.inFlight = some session.generation)
    (next : request.generation = session.generation) :
    Numbered ⟨session, dialogue.outstanding ++ [request]⟩ where
  positive := by
    intro other member
    rcases List.mem_append.1 member with earlier | last
    · exact numbered.positive other earlier
    · rw [List.mem_singleton.1 last]
      omega
  bounded := by
    intro other member
    rcases List.mem_append.1 member with earlier | last
    · have bounded := numbered.bounded other earlier
      change other.generation ≤ session.generation
      omega
    · rw [List.mem_singleton.1 last]
      exact Nat.le_of_eq next
  increasing := by
    refine List.pairwise_append.2 ⟨numbered.increasing, List.pairwise_singleton _ _, ?_⟩
    intro earlier member last isLast
    have bounded := numbered.bounded earlier member
    rw [List.mem_singleton.1 isLast]
    omega
  inFlight := by
    intro current waiting
    have last : current = session.generation := Option.some.inj (waiting.symm.trans inFlight)
    exact ⟨last, request, by simp, next.trans last.symm⟩

/-- The numbers stay through every turn. -/
theorem after (turn : Turn) : (dialogue.after turn).Numbered := by
  obtain ⟨session, started, step, equal⟩ := dialogue.exists_step_after turn
  rw [equal]
  cases step with
  | @requests now target =>
      have all : dialogue.outstanding.filter (Command.convert target).leaves =
          dialogue.outstanding := List.filter_eq_self.2 fun _ _ => rfl
      rw [all]
      exact numbered.append rfl rfl rfl
  | unchanged stale =>
      rw [Option.toList_none, List.append_nil]
      refine numbered.filter rfl (.inr ⟨rfl, ?_⟩)
      intro request waiting
      cases command : turn.command with
      | arrive answered outcome =>
          have other := stale answered outcome command
          rw [waiting] at other
          simpa [Command.leaves] using other
      | _ => rfl
  | restarts =>
      rw [Option.toList_none, List.append_nil]
      exact numbered.filter rfl (.inl rfl)
  | acts _ idle | refuses idle | converts idle | misses idle =>
      rw [Option.toList_none, List.append_nil]
      exact numbered.filter rfl (.inl idle)
  | dismisses =>
      rw [Option.toList_none, List.append_nil]
      exact numbered.filter rfl (.inr ⟨rfl, fun _ _ => rfl⟩)
  | concludes =>
      rw [Option.toList_none, List.append_nil]
      exact numbered.filter rfl (.inl rfl)

end Numbered

theorem Reachable.numbered {converter : Converter} {dialogue : Dialogue}
    (reachable : Reachable converter dialogue) : dialogue.Numbered := by
  obtain ⟨turns, run⟩ := reachable
  induction run with
  | refl => exact .start converter
  | step _ turn _ inductionHypothesis => exact inductionHypothesis.after turn

end Dialogue

end Keypad
