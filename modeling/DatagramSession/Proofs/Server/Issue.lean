import DatagramSession.Proofs.Server.History
import DatagramSession.Proofs.Server.Ticket

/-!
# Issued sessions

A login draws an id, stores it in the table and tells it to its sender, all in the step in which
its task has a slot of the outbox.  So the table and the replies agree after every run, in whatever
order the parts move, and whether the tasks are cancelled, run out of patience or find the outbox
full or closed.

* `mem_ids_of_run`: the table has the ids that tasks have issued or owners have saved.
* `ids_eq_issued_or_saved`: if logins draw fresh ids, each issued id was told once, and a task that
  ended without a reply has issued none.
-/

namespace DatagramSession.Server

/-! ## The ids of one move -/

/-- A task that gives up has drawn no id. -/
theorem Desk.GivesUp.drawnIds_eq_nil {s : Server} {m : Task.Move}
    (h : s.desk.GivesUp s.lifecycle.isCancelled m) : s.drawnIds (.task m) = [] := by
  cases h with
  | @mismatched ticket draw errand mismatch live _ unsettled =>
    simp only [drawnIds, live]
    refine if_neg fun login => ?_
    obtain ⟨action, body⟩ := login
    obtain ⟨settled, settling⟩ := Errand.exists_settle_eq_ok_iff.2 (body.trans action.symm)
    rw [unsettled] at settling
    cases settling
  | abandon | refuse | expire => rfl

/-- The ids that a move issues are those that it draws: no login keeps its id to itself, and none
makes one up. -/
theorem map_issued_eq_drawnIds {s s' : Server} {m : Move} (h : Step s m s') :
    (s.issued m s').map (·.2) = s.drawnIds m := by
  cases h with
  | task step =>
    cases step with
    | wait => simp only [issued, handed_wait, drawnIds, List.filterMap_nil, List.map_nil]
    | @settle ticket draw errand settled live _ settling =>
      simp only [issued, handed_settle, drawnIds, live]
      rcases Errand.settle_eq_ok_iff.1 settling with
        ⟨header, account, password, action, request, rfl⟩ | ⟨header, action, request, rfl⟩
      · simp [action, request, Request.bodyAction, Errand.logIn, Reply.ofVerdict,
          Verdict.response, issuedId?, ResponseHeader.ok]
      · simp only [action, Errand.shutDown]
        split <;> simp [issuedId?, Reply.ofVerdict, Verdict.response]
    | giveUp gaveUp =>
      simp only [issued, handed_giveUp, gaveUp.drawnIds_eq_nil, List.filterMap_nil, List.map_nil]
  | _ => rfl

/-- A move stores in the table what it draws and what its owner saves. -/
theorem mem_ids_of_step {s s' : Server} {m : Move} (h : Step s m s') (id : SessionId) :
    id ∈ s'.desk.table.ids ↔
      id ∈ s.desk.table.ids ∨ id.isAbsent = false ∧ id ∈ s.drawnIds m ∨ id ∈ savedIds [m] := by
  cases h with
  | save x now =>
    simp only [Table.mem_ids_save, drawnIds, List.not_mem_nil, and_false, false_or, savedIds]
    by_cases absent : x.isAbsent
    · simp [absent]
    · simp [absent]
  | task step =>
    cases step with
    | wait => simp [drawnIds, savedIds]
    | @settle ticket draw errand settled live _ settling =>
      simp only [drawnIds, live, savedIds, Desk.table_finish]
      rcases Errand.settle_eq_ok_iff.1 settling with
        ⟨header, account, password, action, request, rfl⟩ | ⟨header, action, request, rfl⟩
      · simp [action, request, Request.bodyAction, Errand.logIn, Table.mem_ids_save]
        grind
      · simp [action, Errand.shutDown]
    | giveUp gaveUp => simp [gaveUp.drawnIds_eq_nil, savedIds]
  | _ => simp [drawnIds, savedIds, Server.endWriting, Desk.start]

/-- A move of a task that hands nothing over leaves the table alone. -/
theorem table_eq_of_handed_eq_nil {s s' : Server} {m : Task.Move} (h : Step s (.task m) s')
    (nothing : s.handed (.task m) s' = []) : s'.desk.table = s.desk.table := by
  cases h with
  | task step =>
    cases step with
    | wait => rfl
    | settle =>
      rw [handed_settle] at nothing
      cases nothing
    | giveUp => exact Desk.table_giveUp s.desk m.ticket

/-! ## The ids of the table along a run -/

theorem savedIds_append (first rest : List Move) :
    savedIds (first ++ rest) = savedIds first ++ savedIds rest :=
  List.filterMap_append

/-- After any run, the table has what tasks issued and what owners saved.  No assumption about the
drawn ids is made, so an issued id may be absent; that one is not in the table. -/
theorem mem_ids_of_run {spare : Nat} {settings : Settings} {s s' : Server} {moves : List Move}
    (spawned : spawnWith spare settings = some s) (run : s.run moves = some s') (id : SessionId) :
    id ∈ s'.desk.table.ids ↔
      id.isAbsent = false ∧ id ∈ (s.noted issued moves).map (·.2) ∨ id ∈ savedIds moves := by
  refine run_induction (motive := fun moves s' => id ∈ s'.desk.table.ids ↔
    id.isAbsent = false ∧ id ∈ (s.noted issued moves).map (·.2) ∨ id ∈ savedIds moves) ?_ ?_ run
  · rw [eq_opened_of_spawnWith spawned]
    simp [opened, Desk.opened, Table.ids, Table.empty, noted, savedIds]
  · intro moves m mid after before step ih
    have one := Step.of_step step
    rw [mem_ids_of_step one, ih, noted_snoc issued before step, savedIds_append, List.map_append,
      map_issued_eq_drawnIds one, List.mem_append, List.mem_append]
    grind

/-- A login draws an id that stands for a session and that the table does not have. -/
def DrawsFresh (s : Server) (m : Move) : Prop :=
  ∀ id ∈ s.drawnIds m, id.isAbsent = false ∧ id ∉ s.desk.table.ids

instance (s : Server) (m : Move) : Decidable (s.DrawsFresh m) :=
  inferInstanceAs (Decidable (∀ id ∈ s.drawnIds m, id.isAbsent = false ∧ id ∉ s.desk.table.ids))

theorem nodup_drawnIds (s : Server) (m : Move) : (s.drawnIds m).Nodup := by
  unfold drawnIds
  split
  · split
    · split
      · exact List.pairwise_singleton _ _
      · exact List.nodup_nil
    · exact List.nodup_nil
  · exact List.nodup_nil

/-- Fresh ids stand for sessions. -/
theorem not_isAbsent_of_mem_issued {s s' : Server} {moves : List Move}
    (run : s.run moves = some s') (fresh : s.Throughout DrawsFresh moves) :
    ∀ id ∈ (s.noted issued moves).map (·.2), id.isAbsent = false := by
  refine run_induction (motive := fun moves _ => s.Throughout DrawsFresh moves →
    ∀ id ∈ (s.noted issued moves).map (·.2), id.isAbsent = false) ?_ ?_ run fresh
  · intro _ id member
    cases member
  · intro moves m mid after before step ih fresh id member
    obtain ⟨earlier, last⟩ := fresh.of_snoc before
    rw [noted_snoc issued before step, List.map_append, List.mem_append,
      map_issued_eq_drawnIds (Step.of_step step)] at member
    rcases member with old | new
    · exact ih earlier id old
    · exact (last id new).1

/-- No two logins of a run are told the same fresh id. -/
theorem nodup_map_issued {spare : Nat} {settings : Settings} {s s' : Server} {moves : List Move}
    (spawned : spawnWith spare settings = some s) (run : s.run moves = some s')
    (fresh : s.Throughout DrawsFresh moves) : ((s.noted issued moves).map (·.2)).Nodup := by
  refine run_induction (motive := fun moves _ => s.Throughout DrawsFresh moves →
    ((s.noted issued moves).map (·.2)).Nodup) ?_ ?_ run fresh
  · intro _
    exact List.nodup_nil
  · intro moves m mid after before step ih fresh
    obtain ⟨earlier, last⟩ := fresh.of_snoc before
    rw [noted_snoc issued before step, List.map_append, map_issued_eq_drawnIds (.of_step step),
      List.nodup_append]
    refine ⟨ih earlier, nodup_drawnIds mid m, ?_⟩
    -- an id issued before is in the table by now, and a fresh one is not
    intro old issuedBefore new drawn same
    subst same
    have stored := (mem_ids_of_run spawned before old).2
      (.inl ⟨not_isAbsent_of_mem_issued before earlier old issuedBefore, issuedBefore⟩)
    exact (last old drawn).2 stored

/-! ## Tasks that issue an id or are dropped -/

/-- A task that issues an id is live before, and has ended after. -/
theorem ends_of_mem_issued {s s' : Server} {m : Move} {ticket : Ticket} (h : Step s m s')
    (member : ticket ∈ (s.issued m s').map (·.1)) :
    (∃ t ∈ s.desk.tasks, t.ticket = ticket) ∧ ∀ t ∈ s'.desk.tasks, t.ticket ≠ ticket := by
  cases h with
  | task step =>
    cases step with
    | wait =>
      rw [issued, handed_wait] at member
      cases member
    | @settle served draw errand settled live _ _ =>
      rw [issued, handed_settle] at member
      obtain ⟨pair, issuedPair, rfl⟩ := List.mem_map.1 member
      obtain ⟨single, handedPair, told⟩ := List.mem_filterMap.1 issuedPair
      rw [List.mem_singleton.1 handedPair] at told
      obtain ⟨id, _, rfl⟩ := Option.map_eq_some_iff.1 told
      exact ⟨⟨_, Desk.mem_tasks_of_errand? live, rfl⟩,
        fun t left => (Desk.mem_tasks_finish.1 left).2⟩
    | giveUp =>
      rw [issued, handed_giveUp] at member
      cases member
  | _ => cases member

/-- A task that is dropped is live before, has ended after, and hands nothing over. -/
theorem ends_of_mem_dropped {s s' : Server} {m : Move} {ticket : Ticket}
    (member : ticket ∈ s.dropped m s') :
    (∃ t ∈ s.desk.tasks, t.ticket = ticket) ∧ (∀ t ∈ s'.desk.tasks, t.ticket ≠ ticket) ∧
      s.handed m s' = [] := by
  unfold dropped at member
  split at member
  · split at member
    · next ends =>
      obtain ⟨live, gone, nothing⟩ := ends
      rw [List.mem_singleton.1 member]
      obtain ⟨errand, live⟩ := Option.isSome_iff_exists.1 live
      exact ⟨⟨_, Desk.mem_tasks_of_errand? live, rfl⟩,
        Desk.errand?_eq_none_iff.1 (Option.isNone_iff_eq_none.1 gone), nothing⟩
    · cases member
  · cases member

/-- How the tickets of a run stand to its tasks: tasks that have issued an id or were dropped have
ended, and no task did both. -/
structure TicketLaw (s : Server) (moves : List Move) (s' : Server) : Prop where
  given : ∀ t ∈ s'.desk.tasks, t.ticket < s'.desk.next
  issued_ended : ∀ ticket ∈ (s.noted issued moves).map (·.1), s'.desk.HasEnded ticket
  dropped_ended : ∀ ticket ∈ s.noted dropped moves, s'.desk.HasEnded ticket
  apart : ∀ ticket ∈ s.noted dropped moves, ticket ∉ (s.noted issued moves).map (·.1)

theorem TicketLaw.of_step {s mid after : Server} {moves : List Move} {m : Move}
    (law : TicketLaw s moves mid) (before : s.run moves = some mid)
    (step : mid.step m = some after) : TicketLaw s (moves ++ [m]) after := by
  have one := Step.of_step step
  refine ⟨ticket_lt_next_of_step one law.given, ?_, ?_, ?_⟩
  · intro ticket member
    rw [noted_snoc issued before step, List.map_append, List.mem_append] at member
    rcases member with old | new
    · exact (law.issued_ended ticket old).of_step one
    · obtain ⟨live, gone⟩ := ends_of_mem_issued one new
      exact .of_gone one law.given live gone
  · intro ticket member
    rw [noted_snoc dropped before step, List.mem_append] at member
    rcases member with old | new
    · exact (law.dropped_ended ticket old).of_step one
    · obtain ⟨live, gone, _⟩ := ends_of_mem_dropped new
      exact .of_gone one law.given live gone
  · intro ticket isDropped isIssued
    rw [noted_snoc dropped before step, List.mem_append] at isDropped
    rw [noted_snoc issued before step, List.map_append, List.mem_append] at isIssued
    rcases isDropped with oldDropped | newDropped
    · rcases isIssued with oldIssued | newIssued
      · exact law.apart ticket oldDropped oldIssued
      · exact (law.dropped_ended ticket oldDropped).not_live (ends_of_mem_issued one newIssued).1
    · obtain ⟨live, _, nothing⟩ := ends_of_mem_dropped newDropped
      rcases isIssued with oldIssued | newIssued
      · exact (law.issued_ended ticket oldIssued).not_live live
      · rw [issued, nothing] at newIssued
        cases newIssued

theorem TicketLaw.of_run {spare : Nat} {settings : Settings} {s s' : Server} {moves : List Move}
    (spawned : spawnWith spare settings = some s) (run : s.run moves = some s') :
    TicketLaw s moves s' := by
  refine run_induction (motive := TicketLaw s) ?_ ?_ run
  · rw [eq_opened_of_spawnWith spawned]
    exact ⟨fun _ live => (by cases live), fun _ none => (by cases none),
      fun _ none => (by cases none), fun _ none => (by cases none)⟩
  · intro moves m mid after before step law
    exact law.of_step before step

/-! ## Sessions and login replies -/

/-- **Sessions and login replies never drift apart.**  After any run in which logins draw fresh
ids, the table has exactly the ids that tasks have issued, each in one reply to a login that was
queued in the outbox, and the ids that owners have saved.  No task that ended without a reply has
issued any, and whatever a task does without handing over a reply leaves the table alone. -/
theorem ids_eq_issued_or_saved {spare : Nat} {settings : Settings} {s s' : Server}
    {moves : List Move} (spawned : spawnWith spare settings = some s)
    (run : s.run moves = some s') (fresh : s.Throughout DrawsFresh moves) :
    (∀ id, id ∈ s'.desk.table.ids ↔
      id ∈ (s.noted issued moves).map (·.2) ∨ id ∈ savedIds moves) ∧
    ((s.noted issued moves).map (·.2)).Nodup ∧
    (∀ ticket ∈ s.noted dropped moves, ticket ∉ (s.noted issued moves).map (·.1)) ∧
    ∀ (mid next : Server) (m : Task.Move), mid.step (.task m) = some next →
      mid.handed (.task m) next = [] → next.desk.table = mid.desk.table := by
  refine ⟨fun id => ?_, nodup_map_issued spawned run fresh, (TicketLaw.of_run spawned run).apart,
    fun _ _ _ step nothing => table_eq_of_handed_eq_nil (.of_step step) nothing⟩
  rw [mem_ids_of_run spawned run]
  have present := not_isAbsent_of_mem_issued run fresh id
  constructor
  · intro stored
    rcases stored with ⟨_, isIssued⟩ | isSaved
    · exact .inl isIssued
    · exact .inr isSaved
  · intro stored
    rcases stored with isIssued | isSaved
    · exact .inl ⟨present isIssued, isIssued⟩
    · exact .inr isSaved

/-- Two logins: the first is served, and a stop makes the second give up in the line. -/
def twoLogins : List Move :=
  let login : Datagram := ⟨.loopback 9000, (Request.ofCredentials "alice" "pw").written⟩
  [.arrive login, .arrive login, .read, .accept, .start, .read, .accept, .start,
    .task (.serve 0 ⟨⟨"first"⟩, 1⟩), .save ⟨"owner"⟩ 2, .task (.wait 1), .stop, .task (.abandon 1)]

theorem ids_eq_issued_or_saved_of_twoLogins :
    spawnWith 0 { outboxCapacity := 1 } = some (opened 0 { outboxCapacity := 1 }) ∧
    (opened 0 { outboxCapacity := 1 }).Throughout DrawsFresh twoLogins ∧
    (opened 0 { outboxCapacity := 1 }).noted issued twoLogins = [(0, ⟨"first"⟩)] ∧
    (opened 0 { outboxCapacity := 1 }).noted dropped twoLogins = [1] ∧
    ∃ s', (opened 0 { outboxCapacity := 1 }).run twoLogins = some s' ∧
      ∀ id, id ∈ s'.desk.table.ids ↔ id = ⟨"first"⟩ ∨ id = ⟨"owner"⟩ := by
  have spawned : spawnWith 0 { outboxCapacity := 1 } =
    some (opened 0 { outboxCapacity := 1 }) := by decide
  have fresh : (opened 0 { outboxCapacity := 1 }).Throughout DrawsFresh twoLogins := by
    decide +kernel
  have told : (opened 0 { outboxCapacity := 1 }).noted issued twoLogins = [(0, ⟨"first"⟩)] := by
    decide +kernel
  obtain ⟨s', run⟩ := Option.isSome_iff_exists.1
    (by decide +kernel : ((opened 0 { outboxCapacity := 1 }).run twoLogins).isSome)
  refine ⟨spawned, fresh, told, by decide +kernel, s', run, fun id => ?_⟩
  have law := (ids_eq_issued_or_saved spawned run fresh).1 id
  rw [told] at law
  rw [law]
  simp [twoLogins, savedIds, SessionId.isAbsent]

end DatagramSession.Server
