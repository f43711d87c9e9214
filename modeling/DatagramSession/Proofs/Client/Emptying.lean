import DatagramSession.Client.Basic

/-!
# Emptying a client's queue

A client that is about to send empties the noticed part of its queue.  Datagrams and refused
connections do not keep it from that.  Any other failure is trouble, and the first of them ends the
emptying where it lies.

* `Quiet`: nothing in a queue keeps a client from emptying it.
* `discard_of_quiet`, `discard_of_trouble`, `discard_eq_error_iff`: the ways in which the emptying
  ends.
* `discard_suffix`, `eq_drop_of_discard`: what it leaves.
-/

namespace DatagramSession.Client

/-! ## Troubles -/

/-- The failure that ends the emptying of a queue; a refused connection does not. -/
def Arrival.trouble? : Arrival → Option IoError
  | datagram _ => none
  | failure cause => if cause = .connectionRefused then none else some cause

/-- What keeps a client from emptying its queue, in the order of its coming. -/
def troubles (queue : List Arrival) : List IoError := queue.filterMap Arrival.trouble?

/-- There are only datagrams and refused connections. -/
def Quiet (queue : List Arrival) : Prop := troubles queue = []

instance (queue : List Arrival) : Decidable (Quiet queue) := inferInstanceAs (Decidable (_ = _))

def Arrival.isDatagram : Arrival → Bool
  | datagram _ => true
  | failure _ => false

section troubles

variable {queue before left : List Arrival} {cause : IoError}

theorem trouble?_eq_none_iff {arrival : Arrival} : arrival.trouble? = none ↔
    (∃ contents, arrival = .datagram contents) ∨ arrival = .failure .connectionRefused := by
  cases arrival with
  | datagram contents => simp [Arrival.trouble?]
  | failure cause => simp [Arrival.trouble?]

theorem quiet_iff : Quiet queue ↔ ∀ arrival ∈ queue,
    (∃ contents, arrival = .datagram contents) ∨ arrival = .failure .connectionRefused := by
  simp only [Quiet, troubles, List.filterMap_eq_nil_iff, trouble?_eq_none_iff]

theorem quiet_cons {arrival : Arrival} :
    Quiet (arrival :: queue) ↔ arrival.trouble? = none ∧ Quiet queue := by
  rw [quiet_iff, quiet_iff, List.forall_mem_cons, trouble?_eq_none_iff]

theorem troubles_append (queue more : List Arrival) :
    troubles (queue ++ more) = troubles queue ++ troubles more :=
  List.filterMap_append

/-- A queue is quiet, or has a first trouble. -/
theorem quiet_or_trouble (queue : List Arrival) : Quiet queue ∨
    ∃ before cause left, queue = before ++ .failure cause :: left ∧ Quiet before ∧
      cause ≠ .connectionRefused := by
  induction queue with
  | nil => exact .inl rfl
  | cons arrival rest ih =>
    by_cases passed : arrival.trouble? = none
    · rcases ih with quiet | ⟨before, cause, left, rfl, quiet, serious⟩
      · exact .inl (quiet_cons.2 ⟨passed, quiet⟩)
      · exact .inr ⟨arrival :: before, cause, left, rfl, quiet_cons.2 ⟨passed, quiet⟩, serious⟩
    · rw [trouble?_eq_none_iff, not_or] at passed
      cases arrival with
      | datagram contents => exact absurd ⟨contents, rfl⟩ passed.1
      | failure cause =>
        exact .inr ⟨[], cause, rest, rfl, rfl, fun refused => passed.2 (congrArg _ refused)⟩

/-- The troubles of a queue whose first trouble is known. -/
theorem troubles_of_trouble (quiet : Quiet before) (serious : cause ≠ .connectionRefused) :
    troubles (before ++ .failure cause :: left) = cause :: troubles left := by
  have first : (Arrival.failure cause).trouble? = some cause := if_neg serious
  rw [troubles_append, quiet, List.nil_append, troubles, List.filterMap_cons_some first]
  rfl

end troubles

/-! ## Emptying the queue -/

section discard

variable {noticed : Nat} {queue before left : List Arrival} {cause : IoError}

@[simp] theorem discard_nil (noticed : Nat) : discard noticed [] = (.ok 0, []) := by
  cases noticed <;> rfl

/-- The noticed part of a queue is emptied if it is quiet, and its datagrams are counted. -/
theorem discard_of_quiet (quiet : Quiet (queue.take noticed)) :
    discard noticed queue =
      (.ok ((queue.take noticed).countP Arrival.isDatagram), queue.drop noticed) := by
  induction noticed generalizing queue with
  | zero => rfl
  | succ noticed ih =>
    cases queue with
    | nil => rfl
    | cons arrival rest =>
      rw [List.take_succ_cons] at quiet ⊢
      obtain ⟨passed, others⟩ := quiet_cons.1 quiet
      rcases trouble?_eq_none_iff.1 passed with ⟨contents, rfl⟩ | rfl
      · simp only [discard, ih others, List.countP_cons, Arrival.isDatagram, if_true,
          List.drop_succ_cons]
      · simp only [discard, if_true, ih others, List.countP_cons, Arrival.isDatagram,
          Bool.false_eq_true, if_false, Nat.add_zero, List.drop_succ_cons]

/-- The first trouble ends the emptying, if it is noticed. -/
theorem discard_of_trouble (quiet : Quiet before) (serious : cause ≠ .connectionRefused)
    (seen : before.length < noticed) :
    discard noticed (before ++ .failure cause :: left) = (.error cause, left) := by
  induction before generalizing noticed with
  | nil =>
    obtain ⟨noticed, rfl⟩ := Nat.exists_eq_succ_of_ne_zero (Nat.ne_of_gt seen)
    rw [List.nil_append, discard, if_neg serious]
  | cons arrival rest ih =>
    obtain ⟨noticed, rfl⟩ := Nat.exists_eq_succ_of_ne_zero (Nat.ne_of_gt (Nat.zero_lt_of_lt seen))
    obtain ⟨passed, others⟩ := quiet_cons.1 quiet
    have further := ih others (Nat.lt_of_succ_lt_succ seen)
    rcases trouble?_eq_none_iff.1 passed with ⟨contents, rfl⟩ | rfl
    · simp only [List.cons_append, discard, further]
    · simp only [List.cons_append, discard, if_true, further]

/-- The noticed part of a queue is quiet, or the queue has a first trouble there. -/
theorem quiet_or_noticed_trouble (noticed : Nat) (queue : List Arrival) :
    Quiet (queue.take noticed) ∨ ∃ before cause rest,
      queue.take noticed = before ++ .failure cause :: rest ∧
      queue = before ++ .failure cause :: (rest ++ queue.drop noticed) ∧
      before.length < noticed ∧ Quiet before ∧ cause ≠ .connectionRefused := by
  refine (quiet_or_trouble (queue.take noticed)).imp_right ?_
  rintro ⟨before, cause, rest, part, quiet, serious⟩
  refine ⟨before, cause, rest, part, ?_, ?_, quiet, serious⟩
  · calc queue = queue.take noticed ++ queue.drop noticed :=
          (List.take_append_drop noticed queue).symm
      _ = before ++ .failure cause :: (rest ++ queue.drop noticed) := by
          rw [part, List.append_assoc, List.cons_append]
  · have short := List.length_take_le noticed queue
    rw [part, List.length_append, List.length_cons] at short
    omega

/-- The emptying ends early exactly at the first trouble, if it is noticed. -/
theorem discard_eq_error_iff : discard noticed queue = (.error cause, left) ↔
    ∃ before, queue = before ++ .failure cause :: left ∧ before.length < noticed ∧ Quiet before ∧
      cause ≠ .connectionRefused := by
  constructor
  · intro stopped
    rcases quiet_or_noticed_trouble noticed queue with
      quiet | ⟨before, other, rest, -, whole, seen, quiet, serious⟩
    · cases (discard_of_quiet quiet).symm.trans stopped
    · rw [whole, discard_of_trouble quiet serious seen] at stopped
      cases stopped
      exact ⟨before, whole, seen, quiet, serious⟩
  · rintro ⟨before, rfl, seen, quiet, serious⟩
    exact discard_of_trouble quiet serious seen

/-- Emptying a queue takes arrivals off its front. -/
theorem discard_suffix (noticed : Nat) (queue : List Arrival) :
    (discard noticed queue).2 <:+ queue := by
  rcases quiet_or_noticed_trouble noticed queue with
    quiet | ⟨before, cause, rest, -, whole, seen, quiet, serious⟩
  · rw [discard_of_quiet quiet]
    exact List.drop_suffix noticed queue
  · rw [whole, discard_of_trouble quiet serious seen]
    exact (List.suffix_cons _ _).trans (List.suffix_append before _)

/-- A queue that is emptied as far as it was noticed keeps the rest. -/
theorem eq_drop_of_discard {count : Nat} (emptied : discard noticed queue = (.ok count, left)) :
    left = queue.drop noticed := by
  rcases quiet_or_noticed_trouble noticed queue with
    quiet | ⟨before, cause, rest, -, whole, seen, quiet, serious⟩
  · rw [discard_of_quiet quiet] at emptied
    cases emptied
    rfl
  · rw [whole, discard_of_trouble quiet serious seen] at emptied
    cases emptied

end discard

end DatagramSession.Client
