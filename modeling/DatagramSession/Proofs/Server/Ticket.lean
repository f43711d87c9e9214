import DatagramSession.Proofs.Server.Step

/-!
# Tickets

Every task has a ticket of its own: the tickets are given out in order, and a ticket whose task has
ended is never seen again.
-/

namespace DatagramSession.Server

/-- A ticket that was given to a task which has ended. -/
def Desk.HasEnded (d : Desk) (ticket : Ticket) : Prop :=
  ticket < d.next ∧ ∀ t ∈ d.tasks, t.ticket ≠ ticket

/-- A move starts one task, with the next ticket, or none. -/
theorem tasks_of_step {s s' : Server} {m : Move} (h : Step s m s') :
    (s'.desk.next = s.desk.next ∧ ∀ t ∈ s'.desk.tasks, t ∈ s.desk.tasks) ∨
      ∃ errand, s.reading = .admitted errand ∧ s'.desk = s.desk.start errand := by
  cases h with
  | start admitted => exact .inr ⟨_, admitted, rfl⟩
  | task step =>
    left
    cases step with
    | wait => exact ⟨rfl, fun _ live => live⟩
    | settle => exact ⟨rfl, fun _ live => (Desk.mem_tasks_finish.1 live).1⟩
    | giveUp => exact ⟨rfl, fun _ live => (Desk.mem_tasks_giveUp.1 live).1⟩
  | _ => exact .inl ⟨rfl, fun _ live => live⟩

/-- Live tasks have tickets that were given out. -/
theorem ticket_lt_next_of_step {s s' : Server} {m : Move} (h : Step s m s')
    (given : ∀ t ∈ s.desk.tasks, t.ticket < s.desk.next) :
    ∀ t ∈ s'.desk.tasks, t.ticket < s'.desk.next := by
  intro t live
  rcases tasks_of_step h with ⟨next, subset⟩ | ⟨errand, _, desk⟩
  · rw [next]
    exact given t (subset t live)
  · rw [desk] at live ⊢
    rcases List.mem_append.1 live with old | new
    · exact Nat.lt_succ_of_lt (given t old)
    · rw [List.mem_singleton.1 new]
      exact Nat.lt_succ_self _

theorem Desk.HasEnded.not_live {d : Desk} {ticket : Ticket} (ended : d.HasEnded ticket) :
    ¬ ∃ t ∈ d.tasks, t.ticket = ticket := by
  intro live
  obtain ⟨t, live, same⟩ := live
  exact ended.2 t live same

/-- A task that is live before a move and gone after it has ended. -/
theorem Desk.HasEnded.of_gone {s s' : Server} {m : Move} {ticket : Ticket}
    (h : Server.Step s m s') (given : ∀ t ∈ s.desk.tasks, t.ticket < s.desk.next)
    (live : ∃ t ∈ s.desk.tasks, t.ticket = ticket)
    (gone : ∀ t ∈ s'.desk.tasks, t.ticket ≠ ticket) : s'.desk.HasEnded ticket := by
  obtain ⟨t, live, rfl⟩ := live
  refine ⟨Nat.lt_of_lt_of_le (given t live) ?_, gone⟩
  rcases tasks_of_step h with ⟨next, _⟩ | ⟨errand, _, desk⟩
  · exact Nat.le_of_eq next.symm
  · rw [desk]
    exact Nat.le_succ _

/-- A task that has ended never comes back. -/
theorem Desk.HasEnded.of_step {s s' : Server} {m : Move} {ticket : Ticket}
    (h : Server.Step s m s') (ended : s.desk.HasEnded ticket) : s'.desk.HasEnded ticket := by
  rcases tasks_of_step h with ⟨next, subset⟩ | ⟨errand, _, desk⟩
  · refine ⟨?_, fun t live => ended.2 t (subset t live)⟩
    rw [next]
    exact ended.1
  · rw [desk]
    refine ⟨Nat.lt_succ_of_lt ended.1, fun t live => ?_⟩
    rcases List.mem_append.1 live with old | new
    · exact ended.2 t old
    · rw [List.mem_singleton.1 new]
      exact Nat.ne_of_gt ended.1

end DatagramSession.Server
