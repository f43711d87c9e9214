import DatagramSession.Server.Desk

/-!
# One task in front of an outbox

A trial is a desk without a reader and a writer: somebody else fills the outbox, takes replies out,
closes it or cancels the tasks, and one task at a time runs to its end.
-/

namespace DatagramSession.Server

structure Trial where
  desk : Desk
  isCancelled : Bool
deriving DecidableEq, Repr

/-- What happens while a task waits. -/
inductive Interruption where
  | drainOne
  | cancel
  | close
deriving DecidableEq, Repr

namespace Trial

def ofCapacity (capacity : Nat) : Trial := ⟨.opened 1 capacity, false⟩

/-- Queues a reply if there is a free slot. -/
def fill (t : Trial) (reply : Reply) : Bool × Trial :=
  match t.desk.outbox.push? reply with
  | some outbox => (true, { t with desk := { t.desk with outbox := outbox } })
  | none => (false, t)

/-- Takes the oldest reply out. -/
def drainOne (t : Trial) : Option Reply × Trial :=
  match t.desk.outbox.take? with
  | some (reply, outbox) => (some reply, { t with desk := { t.desk with outbox := outbox } })
  | none => (none, t)

/-- Takes up to `count` replies out. -/
def drainFor : Nat → Trial → List Reply × Trial
  | 0, t => ([], t)
  | count + 1, t =>
    match t.drainOne with
    | (some reply, t) =>
      let (replies, t) := drainFor count t
      (reply :: replies, t)
    | (none, t) => ([], t)

/-- Takes all that is queued. -/
def drain (t : Trial) : List Reply × Trial := drainFor t.desk.outbox.queue.length t

def close (t : Trial) : Trial := { t with desk := { t.desk with outbox := t.desk.outbox.close } }

def cancel (t : Trial) : Trial := { t with isCancelled := true }

def save (t : Trial) (id : SessionId) (now : Instant) : Bool × Trial :=
  let (stored, table) := t.desk.table.save id now
  (stored, { t with desk := { t.desk with table := table } })

/-- The reply that an interruption takes out, and the trial after it. -/
def interrupt (t : Trial) : Interruption → Option Reply × Trial
  | .drainOne => t.drainOne
  | .cancel => (none, t.cancel)
  | .close => (none, t.close)

/-- The first of some moves that is possible. -/
def move (t : Trial) (moves : List Task.Move) : Trial :=
  match moves.findSome? (t.desk.step t.isCancelled) with
  | some desk => { t with desk := desk }
  | none => t

/-- A task takes its turn: it ends if it can, and else it waits. -/
def turn (t : Trial) (ticket : Ticket) (draw : Draw) : Trial :=
  t.move [.serve ticket draw, .refuse ticket, .abandon ticket, .wait ticket]

/-- A task runs to its end: it takes its turn, is interrupted or not, takes its turn again, and
runs out of patience if it still waits. -/
def attend (t : Trial) (errand : Errand) (draw : Draw) (interruption : Option Interruption) :
    Option Reply × Trial :=
  let ticket := t.desk.next
  let desk := { t.desk with permits := t.desk.permits - 1 }
  let t := { t with desk := desk.start errand }.turn ticket draw
  let (drained, t) := match interruption with
    | some i => t.interrupt i
    | none => (none, t)
  (drained, (t.turn ticket draw).move [.expire ticket])

end Trial

end DatagramSession.Server
