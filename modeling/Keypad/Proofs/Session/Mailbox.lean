import Keypad.Proofs.Session.Chronicle

/-!
# Sessions with their mailboxes

Commands reach a session through a queue of limited length. Clients put commands in at one
end, and the session takes them out at the other, one at a time. A request that the session
starts becomes a task of its own, which puts the outcome into the same queue once it has it.
Nothing is fixed about when clients and tasks get their turn.

Clients hold handles. A task finds the queue gone once the last handle has been dropped, and
its outcome is lost, so what is said here is said of a mailbox with a handle left.

To the session this is a dialogue: `LeadsTo.exists_dialogue` counts a request as outstanding
as long as its task works or its outcome waits in the queue.
-/

namespace Keypad

/-- A session, the tasks that have not sent their outcome, the commands that wait for the
session, and how many handles are held. -/
structure Mailbox where
  session : Session
  tasks : List Request
  queue : List Command
  handles : Nat

namespace Mailbox

/-- The number of commands that may wait. -/
def capacity : Nat := 64

/-- The mailbox of a session on which nothing has been done, with its first handle. -/
def start (converter : Converter) : Mailbox := ⟨.start converter, [], [], 1⟩

/-- The requests whose outcome waits in the queue. -/
def delivered (mailbox : Mailbox) : List Request :=
  mailbox.queue.filterMap (·.answered?)

/-- The mailboxes that the session of a converter comes to, with what was done on the way.
The steps are those of the clients, of the tasks and of the session, in any order. -/
inductive LeadsTo (converter : Converter) : Chronicle → Mailbox → Prop where
  | start : LeadsTo converter [] (.start converter)
  | clone {chronicle : Chronicle} {mailbox : Mailbox} (prior : LeadsTo converter chronicle mailbox)
      (held : 0 < mailbox.handles) :
      LeadsTo converter chronicle { mailbox with handles := mailbox.handles + 1 }
  | drop {chronicle : Chronicle} {mailbox : Mailbox} (prior : LeadsTo converter chronicle mailbox)
      (held : 0 < mailbox.handles) :
      LeadsTo converter chronicle { mailbox with handles := mailbox.handles - 1 }
  | send {chronicle : Chronicle} {mailbox : Mailbox} (prior : LeadsTo converter chronicle mailbox)
      (held : 0 < mailbox.handles) (room : mailbox.queue.length < capacity) {command : Command}
      (ofClient : command.answered? = none) :
      LeadsTo converter chronicle { mailbox with queue := mailbox.queue ++ [command] }
  | report {chronicle : Chronicle} {mailbox : Mailbox}
      (prior : LeadsTo converter chronicle mailbox) (room : mailbox.queue.length < capacity)
      {before after : List Request} {request : Request}
      (working : mailbox.tasks = before ++ request :: after)
      (outcome : Except ConversionFault (RatesReply Float)) :
      LeadsTo converter chronicle
        { mailbox with
          tasks := before ++ after
          queue := mailbox.queue ++ [.arrive request outcome] }
  | lose {chronicle : Chronicle} {mailbox : Mailbox} (prior : LeadsTo converter chronicle mailbox)
      (unheld : mailbox.handles = 0) {before after : List Request} {request : Request}
      (working : mailbox.tasks = before ++ request :: after) :
      LeadsTo converter chronicle { mailbox with tasks := before ++ after }
  | handle {chronicle : Chronicle} {mailbox : Mailbox}
      (prior : LeadsTo converter chronicle mailbox) (now : Moment) {command : Command}
      {rest : List Command} (first : mailbox.queue = command :: rest) :
      LeadsTo converter
        (⟨⟨now, command⟩, (mailbox.session.handle now command).2⟩ :: chronicle)
        { mailbox with
          session := (mailbox.session.handle now command).1
          tasks := mailbox.tasks ++ (mailbox.session.handle now command).2.toList
          queue := rest }

/-- What waits when one more command waits. -/
theorem delivered_concat (mailbox : Mailbox) (command : Command) :
    delivered { mailbox with queue := mailbox.queue ++ [command] } =
      mailbox.delivered ++ command.answered?.toList := by
  cases answers : command.answered? <;> simp [delivered, answers]

/-- The first command waits before the others. -/
theorem delivered_of_first {mailbox : Mailbox} {command : Command} {rest : List Command}
    (first : mailbox.queue = command :: rest) :
    mailbox.delivered = command.answered?.toList ++ rest.filterMap (·.answered?) := by
  cases answers : command.answered? <;> simp [delivered, first, answers]

/-- A command that is taken out of the queue takes its request with it, if it brings an
outcome, and the request it starts becomes a task. -/
theorem perm_after {chronicle : Chronicle} {dialogue : Dialogue} {mailbox : Mailbox}
    (accounts : chronicle.Accounts dialogue)
    (alike : dialogue.outstanding.Perm (mailbox.delivered ++ mailbox.tasks)) (now : Moment)
    {command : Command} {rest : List Command} (first : mailbox.queue = command :: rest) :
    (dialogue.after ⟨now, command⟩).outstanding.Perm
      (rest.filterMap (·.answered?) ++
        (mailbox.tasks ++ (dialogue.deed ⟨now, command⟩).started.toList)) := by
  rw [delivered_of_first first] at alike
  cases answers : command.answered? with
  | none =>
      rw [Dialogue.outstanding_after answers, ← List.append_assoc]
      simpa [answers] using alike.append_right _
  | some request =>
      rw [answers, Option.toList_some, List.append_assoc, List.singleton_append] at alike
      have member : request ∈ dialogue.outstanding := alike.mem_iff.2 (List.mem_cons_self ..)
      have split := Chronicle.perm_cons_filter accounts.nodup_outstanding member
      rw [Dialogue.outstanding_after_of_answers answers, Dialogue.started_deed_of_answers answers,
        Option.toList_none, List.append_nil]
      exact (split.symm.trans alike).cons_inv

/-- To the session, a mailbox with a handle left is a dialogue. A request is outstanding as
long as its task works or its outcome waits in the queue. -/
theorem LeadsTo.exists_dialogue {converter : Converter} {chronicle : Chronicle}
    {mailbox : Mailbox} (leads : LeadsTo converter chronicle mailbox)
    (held : 0 < mailbox.handles) :
    ∃ dialogue, Chronicle.LeadsTo converter chronicle dialogue ∧
      dialogue.session = mailbox.session ∧
        dialogue.outstanding.Perm (mailbox.delivered ++ mailbox.tasks) := by
  induction leads with
  | start => exact ⟨_, .start, rfl, .nil⟩
  | clone _ before inductionHypothesis => exact inductionHypothesis before
  | drop _ before inductionHypothesis => exact inductionHypothesis before
  | send _ _ _ ofClient inductionHypothesis =>
      obtain ⟨dialogue, told, same, alike⟩ := inductionHypothesis held
      refine ⟨dialogue, told, same, ?_⟩
      rw [delivered_concat, ofClient, Option.toList_none, List.append_nil]
      exact alike
  | @report _ _ _ _ before after request working outcome inductionHypothesis =>
      obtain ⟨dialogue, told, same, alike⟩ := inductionHypothesis held
      refine ⟨dialogue, told, same, alike.trans ?_⟩
      change List.Perm _ (List.filterMap _ (_ ++ [Command.arrive request outcome]) ++ _)
      rw [working, List.filterMap_append, List.append_assoc]
      exact List.perm_middle.append_left _
  | lose _ unheld => exact absurd unheld (Nat.ne_of_gt held)
  | @handle _ _ _ now command _ first inductionHypothesis =>
      obtain ⟨dialogue, told, same, alike⟩ := inductionHypothesis held
      have admitted : dialogue.Admits command := by
        refine Dialogue.admits_of_answers fun request answers => ?_
        rw [alike.mem_iff, delivered_of_first first, answers]
        simp
      rw [← same]
      exact ⟨_, told.turn ⟨now, _⟩ admitted, rfl, perm_after told.accounts alike now first⟩

/-- A command of a client that finds the queue empty can be handled at once. -/
theorem LeadsTo.perform {converter : Converter} {chronicle : Chronicle} {session next : Session}
    {tasks : List Request} {handles : Nat}
    (prior : LeadsTo converter chronicle ⟨session, tasks, [], handles⟩) (held : 0 < handles)
    (now : Moment) (command : Command) {started : Option Request}
    (ofClient : command.answered? = none)
    (handled : session.handle now command = (next, started)) :
    LeadsTo converter (⟨⟨now, command⟩, started⟩ :: chronicle)
      ⟨next, tasks ++ started.toList, [], handles⟩ := by
  have sent := prior.send held (Nat.succ_pos _) ofClient
  have taken := sent.handle now (List.nil_append _)
  change LeadsTo converter (⟨⟨now, command⟩, (session.handle now command).2⟩ :: chronicle) _ at taken
  rw [handled] at taken
  exact taken

/-- That no completion is lost and none counts twice. -/
structure Lossless (chronicle : Chronicle) (mailbox : Mailbox) : Prop where
  /-- No two requests that were ever started have the same generation. -/
  distinct : (chronicle.started.map (·.generation)).Nodup
  /-- Every request that was started has its outcome taken out of the queue, in the queue or
  still to be sent: one of these, and once. -/
  conserved : chronicle.started.Perm (chronicle.answered ++ (mailbox.delivered ++ mailbox.tasks))
  /-- The request in flight is the last one started. Its outcome is still to be sent or it
  is in the queue, and not both. -/
  inFlight : ∀ generation, mailbox.session.inFlight = some generation →
    generation = mailbox.session.generation ∧
      Xor (∃ request ∈ mailbox.tasks, request.generation = generation)
        (∃ request ∈ mailbox.delivered, request.generation = generation)
  /-- An outcome changes the session exactly if its request was not given up, and ends the
  waiting for that request. -/
  effect : ∀ request outcome rest, mailbox.queue = .arrive request outcome :: rest →
    ∀ now, ((mailbox.session.handle now (.arrive request outcome)).1 ≠ mailbox.session ↔
        chronicle.abandons request = false) ∧
      (mailbox.session.handle now (.arrive request outcome)).1.inFlight ≠ some request.generation
  /-- A session that waits has the outcome to come that it waits for. -/
  progress : mailbox.session.view.converting →
    ∃ request ∈ mailbox.delivered ++ mailbox.tasks,
      mailbox.session.inFlight = some request.generation ∧ chronicle.abandons request = false

/-- The outcome of a request changes a session that waits for it, and no other. -/
theorem arrive_ne_iff (session : Session) (request : Request)
    (outcome : Except ConversionFault (RatesReply Float)) (now : Moment) :
    (session.handle now (.arrive request outcome)).1 ≠ session ↔
      session.inFlight = some request.generation := by
  change session.arrive request outcome now ≠ session ↔ _
  constructor
  · intro changes
    by_contra other
    exact changes (Session.arrive_of_ne other outcome now)
  · intro waiting same
    rw [Session.arrive_of_inFlight waiting] at same
    have none := congrArg Session.inFlight same
    rw [waiting] at none
    cases none

theorem inFlight_arrive_ne (session : Session) (request : Request)
    (outcome : Except ConversionFault (RatesReply Float)) (now : Moment) :
    (session.handle now (.arrive request outcome)).1.inFlight ≠ some request.generation := by
  change (session.arrive request outcome now).inFlight ≠ _
  by_cases waiting : session.inFlight = some request.generation
  · rw [Session.arrive_of_inFlight waiting]
    exact nofun
  · rw [Session.arrive_of_ne waiting]
    exact waiting

/-- While a handle is left, every request that is started comes to its end once, and takes
effect unless the clear key gave it up. A session never waits in vain. -/
theorem LeadsTo.lossless {converter : Converter} {chronicle : Chronicle} {mailbox : Mailbox}
    (leads : LeadsTo converter chronicle mailbox) (held : 0 < mailbox.handles) :
    mailbox.Lossless chronicle := by
  obtain ⟨dialogue, told, same, alike⟩ := leads.exists_dialogue held
  have accounts := told.accounts
  have numbered : dialogue.Numbered := Dialogue.Reachable.numbered ⟨_, told.runs⟩
  have apart := (alike.map (·.generation)).nodup_iff.1 accounts.nodup_outstanding
  rw [List.map_append, List.nodup_append] at apart
  exact {
    distinct := accounts.nodup
    conserved := accounts.balanced.trans (alike.append_left _)
    inFlight := by
      intro generation waiting
      rw [← same] at waiting ⊢
      obtain ⟨last, request, member, rfl⟩ := numbered.inFlight generation waiting
      refine ⟨last, ?_⟩
      rcases List.mem_append.1 (alike.mem_iff.1 member) with delivered | working
      · refine .inr ⟨⟨request, delivered, rfl⟩, ?_⟩
        rintro ⟨other, working, equal⟩
        exact apart.2.2 _ (List.mem_map_of_mem delivered) _ (List.mem_map_of_mem working) equal.symm
      · refine .inl ⟨⟨request, working, rfl⟩, ?_⟩
        rintro ⟨other, delivered, equal⟩
        exact apart.2.2 _ (List.mem_map_of_mem delivered) _ (List.mem_map_of_mem working) equal
    effect := by
      intro request outcome rest first now
      refine ⟨?_, inFlight_arrive_ne _ _ _ _⟩
      have member : request ∈ dialogue.outstanding := by
        rw [alike.mem_iff, delivered_of_first first]
        simp [Command.answered?]
      rw [arrive_ne_iff, ← same]
      exact accounts.inFlight request member
    progress := by
      intro converting
      obtain ⟨generation, waiting⟩ := Option.isSome_iff_exists.1 converting
      rw [← same] at waiting ⊢
      obtain ⟨-, request, member, rfl⟩ := numbered.inFlight generation waiting
      exact ⟨request, alike.mem_iff.1 member, waiting, (accounts.inFlight request member).1 waiting⟩ }

/-- A conversion of `7` is given up and one of `5` asked for. The outcome of the first is
next in the queue and changes nothing; the second is still worked on and waited for. -/
theorem lossless_late :
    let euro : Converter := ⟨"EUR".toList, ⟨28800, 0⟩, none⟩
    let dollar : Text := "USD".toList
    let pound : Text := "GBP".toList
    let offline : Except ConversionFault (RatesReply Float) := .error .timedOut
    let seven := (Session.start euro).press (.digit 7)
    let five := (seven.await.press .clear).press (.digit 5)
    let old := seven.request dollar
    let new := five.request pound
    let mailbox : Mailbox := ⟨five.await, [new], [.arrive old offline], 1⟩
    ∃ chronicle, LeadsTo euro chronicle mailbox ∧ chronicle.started.length = 2 ∧
      chronicle.abandons old ∧ chronicle.abandons new = false ∧
      (mailbox.session.handle 9 (.arrive old offline)).1 = mailbox.session ∧
      Xor (∃ request ∈ mailbox.tasks, request.generation = 2)
        (∃ request ∈ mailbox.delivered, request.generation = 2) := by
  intro euro dollar pound offline seven five old new mailbox
  have asks : seven.convert dollar 1 = (seven.await, some old) :=
    Session.convert_of_not_fresh rfl (by decide +kernel) rfl
  have asksAgain : five.convert pound 4 = (five.await, some new) :=
    Session.convert_of_not_fresh (by decide +kernel) (by decide +kernel)
      (Option.isNone_iff_eq_none.1 (by decide +kernel))
  have typing : LeadsTo euro _ ⟨seven, [], [], 1⟩ :=
    LeadsTo.start.perform Nat.one_pos 0 (.press (.digit 7)) rfl rfl
  have asking : LeadsTo euro _ ⟨seven.await, [old], [], 1⟩ :=
    typing.perform Nat.one_pos 1 (.convert dollar) rfl asks
  have clearing := asking.perform Nat.one_pos 2 (.press .clear) rfl rfl
  have typingAgain : LeadsTo euro _ ⟨five, [old], [], 1⟩ :=
    clearing.perform Nat.one_pos 3 (.press (.digit 5)) rfl rfl
  have askingAgain : LeadsTo euro _ ⟨five.await, [old, new], [], 1⟩ :=
    typingAgain.perform Nat.one_pos 4 (.convert pound) rfl asksAgain
  have reported : LeadsTo euro _ mailbox :=
    askingAgain.report (Nat.succ_pos _) (show [old, new] = [] ++ old :: [new] from rfl) offline
  have lossless := reported.lossless Nat.one_pos
  have stale := (lossless.effect old offline [] rfl 9).1
  refine ⟨_, reported, rfl, by decide +kernel, by decide +kernel, ?_, ?_⟩
  · by_contra changes
    exact absurd (stale.1 changes) (by decide +kernel)
  · exact (lossless.inFlight 2 (by decide +kernel)).2

end Mailbox

end Keypad
