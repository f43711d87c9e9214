import DatagramSession.Errand

/-!
# The outbox

The outbox holds a bounded number of replies for the one writer.  A slot is free, or is granted to
a ticket that has not used it yet, or holds a queued reply.  Tickets that find no free slot wait in
a line, first come first served: a slot that comes back goes to the head of the line, and is free
only when nobody waits.
-/

namespace DatagramSession.Server

/-- The number of a task. -/
abbrev Ticket := Nat

structure Outbox where
  /-- The slots that nobody has. -/
  free : Nat
  /-- The replies not yet taken out, oldest first. -/
  queue : List Reply
  /-- The tickets that have a slot and have not used it. -/
  granted : List Ticket
  /-- The tickets that wait for a slot, in the order of their coming. -/
  line : List Ticket
  /-- The receiving end is there. -/
  isOpen : Bool
deriving DecidableEq, Repr

namespace Outbox

def ofCapacity (capacity : Nat) : Outbox := ⟨capacity, [], [], [], true⟩

/-- A slot comes back. -/
def release (b : Outbox) : Outbox :=
  match b.line with
  | [] => { b with free := b.free + 1 }
  | ticket :: rest => { b with granted := b.granted ++ [ticket], line := rest }

/-- The ticket has a slot, or there is a free one and it does not wait. -/
def isServable (b : Outbox) (ticket : Ticket) : Bool :=
  b.isOpen && (ticket ∈ b.granted || (ticket ∉ b.line && 0 < b.free))

/-- The ticket goes to the end of the line. -/
def wait (b : Outbox) (ticket : Ticket) : Outbox := { b with line := b.line ++ [ticket] }

/-- The ticket gives up: its slot comes back, or its place in the line is gone. -/
def leave (b : Outbox) (ticket : Ticket) : Outbox :=
  if ticket ∈ b.granted then release { b with granted := b.granted.erase ticket }
  else { b with line := b.line.erase ticket }

/-- A reply is queued in a slot of the ticket's own, or in a free one. -/
def put (b : Outbox) (ticket : Ticket) (reply : Reply) : Outbox :=
  if ticket ∈ b.granted then
    { b with granted := b.granted.erase ticket, queue := b.queue ++ [reply] }
  else { b with free := b.free - 1, queue := b.queue ++ [reply] }

/-- The oldest reply, and the outbox without it. -/
def take? (b : Outbox) : Option (Reply × Outbox) :=
  match b.queue with
  | [] => none
  | reply :: rest => some (reply, release { b with queue := rest })

/-- A reply is queued in a free slot, if there is one. -/
def push? (b : Outbox) (reply : Reply) : Option Outbox :=
  if b.isOpen && 0 < b.free then
    some { b with free := b.free - 1, queue := b.queue ++ [reply] }
  else none

/-- The receiving end takes no more replies; what is queued stays. -/
def close (b : Outbox) : Outbox := { b with isOpen := false, granted := [], line := [] }

/-- The receiving end is gone, and what was queued with it. -/
def discard (b : Outbox) : Outbox := { b.close with queue := [] }

/-! ## The queue of an outbox -/

@[simp] theorem queue_release (b : Outbox) : b.release.queue = b.queue := by
  unfold release
  split <;> rfl

@[simp] theorem queue_wait (b : Outbox) (ticket : Ticket) : (b.wait ticket).queue = b.queue := rfl

/-- Who gives up leaves the queued replies alone. -/
@[simp] theorem queue_leave (b : Outbox) (ticket : Ticket) : (b.leave ticket).queue = b.queue := by
  unfold leave
  split
  · exact queue_release _
  · rfl

/-- A reply goes behind all that are queued. -/
@[simp] theorem queue_put (b : Outbox) (ticket : Ticket) (reply : Reply) :
    (b.put ticket reply).queue = b.queue ++ [reply] := by
  unfold put
  split <;> rfl

/-- An owner's reply, too, goes behind all that are queued. -/
theorem queue_of_push?_eq_some {b b' : Outbox} {reply : Reply} (h : b.push? reply = some b') :
    b'.queue = b.queue ++ [reply] := by
  unfold push? at h
  split at h
  · cases h
    rfl
  · cases h

/-- The writer takes the reply that was queued first. -/
theorem queue_of_take?_eq_some {b b' : Outbox} {reply : Reply} (h : b.take? = some (reply, b')) :
    b.queue = reply :: b'.queue := by
  unfold take? at h
  split at h
  · cases h
  · next first rest queue =>
    cases h
    rw [queue_release, queue]

/-- There is a reply to take whenever one is queued. -/
theorem exists_take?_of_queue {b : Outbox} {reply : Reply} {rest : List Reply}
    (queue : b.queue = reply :: rest) :
    ∃ b', b.take? = some (reply, b') ∧ b'.queue = rest := by
  refine ⟨_, by rw [take?, queue], ?_⟩
  exact queue_release _

/-- What the writer takes and what it leaves was queued. -/
theorem mem_queue_of_take?_eq_some {b b' : Outbox} {reply : Reply}
    (h : b.take? = some (reply, b')) :
    reply ∈ b.queue ∧ ∀ later ∈ b'.queue, later ∈ b.queue := by
  rw [queue_of_take?_eq_some h]
  exact ⟨List.mem_cons_self, fun later left => List.mem_cons_of_mem reply left⟩

/-! ## The receiving end -/

@[simp] theorem isOpen_release (b : Outbox) : b.release.isOpen = b.isOpen := by
  unfold release
  split <;> rfl

@[simp] theorem isOpen_leave (b : Outbox) (ticket : Ticket) :
    (b.leave ticket).isOpen = b.isOpen := by
  unfold leave
  split
  · exact isOpen_release _
  · rfl

@[simp] theorem isOpen_put (b : Outbox) (ticket : Ticket) (reply : Reply) :
    (b.put ticket reply).isOpen = b.isOpen := by
  unfold put
  split <;> rfl

end Outbox

end DatagramSession.Server
