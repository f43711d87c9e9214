import DatagramSession.Duration

/-!
# Settings of a server
-/

namespace DatagramSession.Server

structure Settings where
  /-- The address that the socket is bound to. -/
  bindAddress : String := "127.0.0.1:8888"
  /-- The replies that the outbox holds. -/
  outboxCapacity : Nat := 100
  /-- The tasks that run at once. -/
  workers : Nat := 64
  /-- How long a task waits for space in the outbox. -/
  patience : Duration := .ofSeconds 5
deriving DecidableEq, Repr

namespace Settings

/-- The standard settings at an address. -/
def atAddress (address : String) : Settings := { bindAddress := address }

/-- What makes settings useless. -/
inductive Flaw where
  | noCapacity
  | noWorkers
  | noPatience
deriving DecidableEq, Repr

def Flaw.reason : Flaw → String
  | noCapacity => "channel capacity must be at least 1"
  | noWorkers => "max in-flight requests must be at least 1"
  | noPatience => "request timeout must be greater than zero"

/-- The first flaw: of the capacity, then of the workers, then of the patience. -/
def check (s : Settings) : Except Flaw Unit :=
  if s.outboxCapacity = 0 then .error .noCapacity
  else if s.workers = 0 then .error .noWorkers
  else if s.patience.isZero then .error .noPatience
  else .ok ()

/-- Settings are good when nothing in them is zero. -/
theorem check_eq_ok_iff {s : Settings} :
    s.check = .ok () ↔ 0 < s.outboxCapacity ∧ 0 < s.workers ∧ s.patience.isZero = false := by
  unfold check
  split
  · next none => simp [none]
  · next capacity =>
    split
    · next none => simp [none]
    · next workers =>
      split
      · next none => simp [none]
      · next patience => simp [Nat.pos_of_ne_zero capacity, Nat.pos_of_ne_zero workers, patience]

/-- The most slots that an outbox can have, and the most permits that there can be. -/
def slotLimit : Nat := 0x1FFFFFFFFFFFFFFF

/-- The outbox and the permits can be made. -/
def isSpawnable (s : Settings) : Bool :=
  0 < s.outboxCapacity && s.outboxCapacity ≤ slotLimit && s.workers ≤ slotLimit

end Settings

end DatagramSession.Server
