/-!
# Outcomes

What an operation comes to, a value or a failure, is an `Except`.
-/

namespace DatagramSession

variable {ε δ α : Type}

/-- Outcomes are the same if they are of one kind and have the same contents. -/
instance decidableEqOutcome [DecidableEq ε] [DecidableEq α] : DecidableEq (Except ε α)
  | .ok a, .ok b => decidable_of_iff (a = b) ⟨congrArg Except.ok, Except.ok.inj⟩
  | .error e, .error f => decidable_of_iff (e = f) ⟨congrArg Except.error, Except.error.inj⟩
  | .ok _, .error _ => .isFalse nofun
  | .error _, .ok _ => .isFalse nofun

/-- A success is no failure to be told in other words. -/
theorem mapError_ok (f : ε → δ) (a : α) : (Except.ok a : Except ε α).mapError f = .ok a := rfl

end DatagramSession
