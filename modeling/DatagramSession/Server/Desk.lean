import DatagramSession.Server.Outbox

/-!
# The desk

The desk is where errands are settled: the live tasks, the permits that bound their number, the
session table and the outbox.  A task waits for a slot of the outbox and settles its errand only
once it has one, in the same step that queues the reply; so what a login stores and what it tells
its sender go together.  A task that is cancelled, runs out of patience or finds the outbox closed
ends without a trace.
-/

namespace DatagramSession.Server

structure Task where
  ticket : Ticket
  errand : Errand
deriving DecidableEq, Repr

structure Desk where
  table : Table
  outbox : Outbox
  /-- The permits that no task has. -/
  permits : Nat
  /-- The live tasks, in the order of their start. -/
  tasks : List Task
  /-- The ticket of the next task. -/
  next : Ticket
deriving DecidableEq, Repr

/-- What a task can do next. -/
inductive Task.Move where
  /-- There is no slot, and the server is not stopping: the task gets in line. -/
  | wait (ticket : Ticket)
  /-- There is a slot: the errand is settled. -/
  | serve (ticket : Ticket) (draw : Draw)
  /-- The server is stopping: the task ends. -/
  | abandon (ticket : Ticket)
  /-- The outbox is closed: the task ends. -/
  | refuse (ticket : Ticket)
  /-- The patience is over and there is no slot: the task ends. -/
  | expire (ticket : Ticket)
deriving DecidableEq, Repr

namespace Desk

def opened (workers capacity : Nat) : Desk :=
  ⟨.empty, .ofCapacity capacity, workers, [], 0⟩

/-- A task starts on a permit that has been taken for it. -/
def start (d : Desk) (errand : Errand) : Desk :=
  { d with tasks := d.tasks ++ [⟨d.next, errand⟩], next := d.next + 1 }

/-- The errand of a live task. -/
def errand? (d : Desk) (ticket : Ticket) : Option Errand :=
  (d.tasks.find? (·.ticket = ticket)).map (·.errand)

/-- A task ends, and its permit comes back. -/
def finish (d : Desk) (ticket : Ticket) : Desk :=
  { d with tasks := d.tasks.filter (·.ticket ≠ ticket), permits := d.permits + 1 }

/-- A task ends without a reply. -/
def giveUp (d : Desk) (ticket : Ticket) : Desk :=
  { d with outbox := d.outbox.leave ticket }.finish ticket

/-- A task that has a slot settles its errand: the reply is queued, or the slot comes back. -/
def serve (d : Desk) (ticket : Ticket) (errand : Errand) (draw : Draw) : Desk :=
  match errand.settle draw d.table with
  | .ok settled =>
    { d with
      table := settled.table
      outbox := d.outbox.put ticket (.ofVerdict errand.sender settled.verdict) }.finish ticket
  | .error _ => d.giveUp ticket

/-- The desk after a move of a task, or none when the task cannot move so. -/
def step (d : Desk) (isCancelled : Bool) : Task.Move → Option Desk
  | .wait ticket =>
    if (d.errand? ticket).isSome && !isCancelled && d.outbox.isOpen
        && !d.outbox.isServable ticket && ticket ∉ d.outbox.line then
      some { d with outbox := d.outbox.wait ticket }
    else none
  | .serve ticket draw =>
    match d.errand? ticket with
    | some errand => if d.outbox.isServable ticket then some (d.serve ticket errand draw) else none
    | none => none
  | .abandon ticket =>
    if (d.errand? ticket).isSome && isCancelled then some (d.giveUp ticket) else none
  | .refuse ticket =>
    if (d.errand? ticket).isSome && !d.outbox.isOpen then some (d.giveUp ticket) else none
  | .expire ticket =>
    if (d.errand? ticket).isSome && d.outbox.isOpen && !d.outbox.isServable ticket then
      some (d.giveUp ticket)
    else none

/-! ## What a task leaves behind -/

@[simp] theorem table_finish (d : Desk) (ticket : Ticket) : (d.finish ticket).table = d.table := rfl

@[simp] theorem outbox_finish (d : Desk) (ticket : Ticket) :
    (d.finish ticket).outbox = d.outbox := rfl

/-- The tasks after one has ended are the other tasks. -/
theorem mem_tasks_finish {d : Desk} {ticket : Ticket} {t : Task} :
    t ∈ (d.finish ticket).tasks ↔ t ∈ d.tasks ∧ t.ticket ≠ ticket := by
  simp [finish]

@[simp] theorem table_giveUp (d : Desk) (ticket : Ticket) : (d.giveUp ticket).table = d.table := rfl

@[simp] theorem queue_giveUp (d : Desk) (ticket : Ticket) :
    (d.giveUp ticket).outbox.queue = d.outbox.queue :=
  Outbox.queue_leave d.outbox ticket

theorem mem_tasks_giveUp {d : Desk} {ticket : Ticket} {t : Task} :
    t ∈ (d.giveUp ticket).tasks ↔ t ∈ d.tasks ∧ t.ticket ≠ ticket :=
  mem_tasks_finish

/-- The errand of a live task is that of a task with its ticket. -/
theorem mem_tasks_of_errand? {d : Desk} {ticket : Ticket} {errand : Errand}
    (h : d.errand? ticket = some errand) : ⟨ticket, errand⟩ ∈ d.tasks := by
  obtain ⟨t, found, rfl⟩ := Option.map_eq_some_iff.1 h
  have same : t.ticket = ticket := by simpa using List.find?_some found
  subst same
  exact List.mem_of_find?_eq_some found

theorem errand?_eq_none_iff {d : Desk} {ticket : Ticket} :
    d.errand? ticket = none ↔ ∀ t ∈ d.tasks, t.ticket ≠ ticket := by
  simp [errand?]

/-- A task that has ended has no errand. -/
theorem errand?_finish_self (d : Desk) (ticket : Ticket) :
    (d.finish ticket).errand? ticket = none :=
  errand?_eq_none_iff.2 fun _ left => (mem_tasks_finish.1 left).2

/-- The other tasks keep their errands when one ends. -/
theorem errand?_finish_of_ne (d : Desk) {ticket other : Ticket} (differ : other ≠ ticket) :
    (d.finish ticket).errand? other = d.errand? other := by
  unfold errand? finish
  rw [List.find?_filter]
  congr 2
  funext t
  by_cases same : t.ticket = other
  · simp [same, differ]
  · simp [same]

/-- A task that starts takes no errand from another. -/
theorem errand?_start_of_ne (d : Desk) (errand : Errand) {other : Ticket}
    (differ : other ≠ d.next) : (d.start errand).errand? other = d.errand? other := by
  have unlike : ¬ d.next = other := fun same => differ same.symm
  simp [errand?, start, List.find?_append, unlike]

end Desk

end DatagramSession.Server
