import DatagramSession.Proofs.Server.History

/-!
# Where errands come from

The reader is the only one who makes errands, and it makes them of datagrams alone: every errand
that a server has under way is a request that a datagram of the run carried, from the address that
the datagram came from.
-/

namespace DatagramSession.Server

/-- A datagram of the run carried the request of the errand, from its sender. -/
def CameIn (moves : List Move) (errand : Errand) : Prop :=
  ∃ contents request, .arrive ⟨errand.sender, contents⟩ ∈ moves ∧
    Request.decode (contents.take Wire.limit) = .ok request ∧
    errand = .ofRequest errand.sender request

theorem CameIn.append {moves : List Move} {errand : Errand} (came : CameIn moves errand)
    (more : List Move) : CameIn (moves ++ more) errand := by
  obtain ⟨contents, request, arrived, decoded, made⟩ := came
  exact ⟨contents, request, List.mem_append_left more arrived, decoded, made⟩

/-- The errand that the reader is about to give to a task. -/
def Reading.errand? : Reading → Option Errand
  | admitting errand | admitted errand => some errand
  | ready | ended => none

/-- What waits in the socket has arrived, and every errand under way came in. -/
structure IntakeLaw (moves : List Move) (s : Server) : Prop where
  inbox : ∀ datagram ∈ s.inbox, .arrive datagram ∈ moves
  reading : ∀ errand ∈ s.reading.errand?, CameIn moves errand
  tasks : ∀ t ∈ s.desk.tasks, CameIn moves t.errand

theorem IntakeLaw.append {moves : List Move} {s : Server} (law : IntakeLaw moves s)
    (more : List Move) : IntakeLaw (moves ++ more) s where
  inbox datagram waits := List.mem_append_left more (law.inbox datagram waits)
  reading errand admitted := (law.reading errand admitted).append more
  tasks t live := (law.tasks t live).append more

theorem IntakeLaw.of_step {moves : List Move} {s s' : Server} {m : Move} (law : IntakeLaw moves s)
    (h : Step s m s') : IntakeLaw (moves ++ [m]) s' := by
  have old := law.append [m]
  cases h with
  | arrive datagram =>
    refine ⟨fun waiting waits => ?_, old.reading, old.tasks⟩
    rcases List.mem_append.1 waits with earlier | new
    · exact old.inbox waiting earlier
    · rw [List.mem_singleton.1 new]
      exact List.mem_append_right moves (List.mem_singleton.2 rfl)
  | @read datagram rest request ready inbox decoded =>
    have waits : datagram ∈ s.inbox := by rw [inbox]; exact List.mem_cons_self
    refine ⟨fun waiting later => old.inbox waiting ?_, fun errand made => ?_, old.tasks⟩
    · rw [inbox]
      exact List.mem_cons_of_mem datagram later
    · cases made
      exact ⟨datagram.contents, request, old.inbox datagram waits, decoded, rfl⟩
  | @drop datagram rest failure ready inbox rejected =>
    refine ⟨fun waiting later => old.inbox waiting ?_, old.reading, old.tasks⟩
    rw [inbox]
    exact List.mem_cons_of_mem datagram later
  | accept admitting =>
    refine ⟨old.inbox, fun errand same => old.reading errand ?_, old.tasks⟩
    rw [admitting]
    exact same
  | start admitted =>
    refine ⟨old.inbox, fun errand none => (by cases none), fun t live => ?_⟩
    rcases List.mem_append.1 live with earlier | new
    · exact old.tasks t earlier
    · rw [List.mem_singleton.1 new]
      exact old.reading _ (by rw [admitted]; rfl)
  | failRead => exact ⟨old.inbox, fun errand none => (by cases none), old.tasks⟩
  | quit => exact ⟨old.inbox, fun errand none => (by cases none), old.tasks⟩
  | task step =>
    refine ⟨old.inbox, old.reading, fun t live => old.tasks t ?_⟩
    cases step with
    | wait => exact live
    | settle => exact (Desk.mem_tasks_finish.1 live).1
    | giveUp => exact (Desk.mem_tasks_giveUp.1 live).1
  | _ => exact ⟨old.inbox, old.reading, old.tasks⟩

theorem IntakeLaw.of_run {spare : Nat} {settings : Settings} {s s' : Server} {moves : List Move}
    (spawned : spawnWith spare settings = some s) (run : s.run moves = some s') :
    IntakeLaw moves s' := by
  refine run_induction (motive := IntakeLaw) ?_ ?_ run
  · rw [eq_opened_of_spawnWith spawned]
    exact ⟨fun _ none => (by cases none), fun _ none => (by cases none),
      fun _ none => (by cases none)⟩
  · intro moves m mid after _ step law
    exact law.of_step (.of_step step)

end DatagramSession.Server
