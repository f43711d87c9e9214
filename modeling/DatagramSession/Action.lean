/-!
# Actions

What an envelope asks for or answers.
-/

namespace DatagramSession

inductive Action where
  | login
  | shutdown
deriving DecidableEq, Repr

namespace Action

/-- The name of an action in messages. -/
def shown : Action → String
  | login => "ACTION_LOGIN"
  | shutdown => "ACTION_SHUTDOWN"

/-- The number of an action on the wire. -/
def tag : Action → Nat
  | login => 0
  | shutdown => 1

def ofTag? : Nat → Option Action
  | 0 => some login
  | 1 => some shutdown
  | _ => none

@[simp] theorem ofTag?_tag (a : Action) : ofTag? a.tag = some a := by
  cases a <;> rfl

theorem ofTag?_eq_some_iff {n : Nat} {a : Action} : ofTag? n = some a ↔ n = a.tag := by
  constructor
  · intro h
    match n, h with
    | 0, h => cases h; rfl
    | 1, h => cases h; rfl
  · rintro rfl
    exact ofTag?_tag a

end Action

end DatagramSession
