/-!
# The life of a server

A server is created, listens, stops, and has stopped.  The first stop moves it to `stopping` and
cancels its parts; a later one does nothing.
-/

namespace DatagramSession.Server

inductive Stage where
  | created
  | listening
  | stopping
  | stopped
deriving DecidableEq, Repr

namespace Stage

/-- The place of a stage in the life of a server. -/
def rank : Stage → Nat
  | created => 0
  | listening => 1
  | stopping => 2
  | stopped => 3

instance : LT Stage := ⟨fun a b => a.rank < b.rank⟩
instance : LE Stage := ⟨fun a b => a.rank ≤ b.rank⟩
instance (a b : Stage) : Decidable (a < b) := inferInstanceAs (Decidable (a.rank < b.rank))
instance (a b : Stage) : Decidable (a ≤ b) := inferInstanceAs (Decidable (a.rank ≤ b.rank))
instance : Ord Stage := ⟨fun a b => compare a.rank b.rank⟩
instance : Max Stage := ⟨fun a b => if a ≤ b then b else a⟩

end Stage

structure Lifecycle where
  stage : Stage
  /-- The parts of the server have been told to end. -/
  isCancelled : Bool
deriving DecidableEq, Repr

namespace Lifecycle

def created : Lifecycle := ⟨.created, false⟩

/-- A stop, and whether it was the one that began the stopping. -/
def stop (l : Lifecycle) : Bool × Lifecycle :=
  if l.stage < .stopping then (true, ⟨.stopping, true⟩) else (false, l)

/-- The life after a stop. -/
def stopped (l : Lifecycle) : Lifecycle := l.stop.2

/-- The first stop is the one that changes something. -/
theorem stopped_eq (l : Lifecycle) :
    l.stopped = if l.stage < .stopping then ⟨.stopping, true⟩ else l := by
  unfold stopped stop
  split <;> rfl

/-- A second stop does nothing. -/
theorem stopped_stopped (l : Lifecycle) : l.stopped.stopped = l.stopped := by
  unfold stopped stop
  split <;> rfl

/-- After a stop the server is at least stopping. -/
theorem stopping_le_stopped (l : Lifecycle) : .stopping ≤ l.stopped.stage := by
  unfold stopped stop
  split
  · exact Nat.le_refl _
  · next h => exact Nat.le_of_not_lt h

end Lifecycle

end DatagramSession.Server
