import DatagramSession.Proofs.Server.Drain

/-!
# The writer

The writer takes the replies out of the outbox one after the other and writes each of them that does
not exceed the limit.  Neither a stop of the server nor a reply that closes it ends the writer: it
ends with the first write that fails, or when the outbox is empty and nobody is left who could queue
a reply.  It stops the server itself when a write fails, and after it has written a reply that
closes the server.

How its writes end is up to the surroundings: `FailsAs fails moves` says that the n-th write of a
run fails exactly if `fails n`.  Whatever else moves in between, and whoever else stops the server,
what is written depends on the replies and on `fails` alone.

* `PostLaw.of_run`: a run along which no write fails.
* `IsShut.of_run`, `FailLaw.of_run`: a run after a failed write, and a run with one.
* `lifecycle_of_run`, `stopping_le_stage_of_run`: what becomes of the life of the server.
* `exists_run_of_writer`: a writer that is left alone comes to the end of its replies.
* `writes_in_order_until_failure`: the writer from end to end.
-/

namespace DatagramSession

/-! ## Up to the first failure -/

section beforeFailure

variable {α : Type} {fails : Nat → Bool}

/-- What comes before the first failure, when `fails` tells of each in its turn whether it fails. -/
def beforeFailure (fails : Nat → Bool) (xs : List α) : List α :=
  (xs.zipIdx.takeWhile fun p => !fails p.2).map (·.1)

/-- What does not fail comes before the first failure. -/
theorem beforeFailure_append {good : List α} (works : ∀ n < good.length, fails n = false)
    (rest : List α) : beforeFailure fails (good ++ rest) =
      good ++ ((rest.zipIdx good.length).takeWhile fun p => !fails p.2).map (·.1) := by
  have pass : ∀ p ∈ good.zipIdx, (!fails p.2) = true := by
    intro p member
    rw [works p.2 (List.snd_lt_of_mem_zipIdx member)]
    rfl
  rw [beforeFailure, List.zipIdx_append, List.takeWhile_append_of_pos pass, List.map_append,
    List.zipIdx_map_fst, Nat.zero_add]

theorem beforeFailure_eq_self {xs : List α} (works : ∀ n < xs.length, fails n = false) :
    beforeFailure fails xs = xs := by
  have all := beforeFailure_append works []
  rwa [List.append_nil, List.zipIdx_nil, List.takeWhile_nil, List.map_nil, List.append_nil] at all

/-- Nothing from the first failure on comes before it. -/
theorem beforeFailure_append_cons {good : List α} (works : ∀ n < good.length, fails n = false)
    (broken : fails good.length = true) (bad : α) (rest : List α) :
    beforeFailure fails (good ++ bad :: rest) = good := by
  rw [beforeFailure_append works, List.zipIdx_cons, List.takeWhile_cons_of_neg (by simp [broken]),
    List.map_nil, List.append_nil]

end beforeFailure

/-- What a reply is written as, and whether the server stops after it; a reply above the limit is
not written. -/
def Reply.outgoing? (reply : Reply) : Option (Datagram × Bool) :=
  reply.datagram?.map fun datagram => (datagram, reply.closes)

theorem Reply.outgoing?_of_encode {reply : Reply} {contents : Octets}
    (encoded : reply.response.encode = .ok contents) :
    reply.outgoing? = some (⟨reply.recipient, contents⟩, reply.closes) := by
  rw [outgoing?, datagram?_of_encode encoded, Option.map_some]

theorem Reply.outgoing?_of_refused {reply : Reply} {failure : Wire.Failure}
    (refused : reply.response.encode = .error failure) : reply.outgoing? = none := by
  rw [outgoing?, datagram?_of_refused refused, Option.map_none]

namespace Server

/-- What the writer is writing, and whether the server stops after it. -/
def Writing.outgoing? : Writing → Option (Datagram × Bool)
  | busy datagram closes => some (datagram, closes)
  | ready | ended => none

/-! ## What is seen of the writer -/

def Move.isOfWriter : Move → Bool
  | .take | .write | .failWrite | .finish => true
  | _ => false

/-- The server is stopped by somebody else than the writer. -/
def Move.stopsApart : Move → Bool
  | .stop | .failRead | .retire => true
  | _ => false

/-- The end of a write: whether it has failed. -/
def Move.failure? : Move → Option Bool
  | .write => some false
  | .failWrite => some true
  | _ => none

/-- The writes of a run fail as `fails` tells of each in its turn. -/
def FailsAs (fails : Nat → Bool) (moves : List Move) : Prop :=
  moves.filterMap Move.failure? =
    (List.range (moves.filterMap Move.failure?).length).map fails

instance (fails : Nat → Bool) (moves : List Move) : Decidable (FailsAs fails moves) :=
  inferInstanceAs (Decidable (_ = _))

/-- What a move writes, and whether the server stops after it. -/
def posted (s : Server) : Move → Server → List (Datagram × Bool)
  | .write, _ => s.writing.outgoing?.toList
  | _, _ => []

/-- What the writer has to write: what it is writing, and such replies. -/
def due (s : Server) (replies : List Reply) : List (Datagram × Bool) :=
  s.writing.outgoing?.toList ++ replies.filterMap Reply.outgoing?

/-- What makes the writer stop the server: a write that fails, or one that closes the server. -/
def StopsFor (moves : List Move) (sent : List (Datagram × Bool)) : Prop :=
  .failWrite ∈ moves ∨ ∃ p ∈ sent, p.2 = true

instance (moves : List Move) (sent : List (Datagram × Bool)) : Decidable (StopsFor moves sent) :=
  inferInstanceAs (Decidable (_ ∨ _))

theorem stopsFor_append {moves more : List Move} {sent further : List (Datagram × Bool)} :
    StopsFor (moves ++ more) (sent ++ further) ↔ StopsFor moves sent ∨ StopsFor more further := by
  simp only [StopsFor, List.mem_append, or_and_right, exists_or]
  exact or_or_or_comm

/-- The writer has ended, or waits for a reply. -/
def IsIdle (s : Server) : Prop :=
  s.writing = .ended ∨ s.writing = .ready ∧ s.desk.outbox.queue = []

theorem outgoing?_of_idle {s : Server} (idle : s.IsIdle) : s.writing.outgoing? = none := by
  rcases idle with ended | ⟨ready, -⟩
  · rw [ended, Writing.outgoing?]
  · rw [ready, Writing.outgoing?]

/-! ## One move -/

section Step

variable {s s' : Server} {m : Move}

/-- What is written is what was being written, and what is being written is what was taken out. -/
theorem posted_of_step (h : Step s m s') (sound : m ≠ .failWrite) :
    s.posted m s' ++ s'.writing.outgoing?.toList = s.due (s.taken m s') := by
  cases h with
  | take ready taken encoded =>
    have queue := Outbox.queue_of_take?_eq_some taken
    have sent := Reply.outgoing?_of_encode encoded
    simp [posted, due, Server.taken, queue, sent, ready, Writing.outgoing?]
  | skip ready taken refused =>
    have queue := Outbox.queue_of_take?_eq_some taken
    have sent := Reply.outgoing?_of_refused refused
    simp [posted, due, Server.taken, queue, sent, ready, Writing.outgoing?]
  | write busy => simp [posted, due, taken, busy, Writing.outgoing?]
  | finish ready => simp [posted, due, taken, ready, Writing.outgoing?, endWriting]
  | failWrite => contradiction
  | _ => simp [posted, due, taken]

theorem written_eq_of_step (h : Step s m s') :
    s'.written = s.written ++ (s.posted m s').map (·.1) := by
  cases h with
  | write busy => simp [posted, busy, Writing.outgoing?]
  | failWrite => simp [posted, endWriting]
  | finish => simp [posted, endWriting]
  | _ => simp [posted]

theorem failure?_of_step (h : Step s m s') (sound : m ≠ .failWrite) :
    m.failure?.toList = (s.posted m s').map fun _ => false := by
  cases h with
  | write busy => simp [posted, busy, Writing.outgoing?, Move.failure?]
  | failWrite => contradiction
  | _ => rfl

/-- Of its own, the writer stops the server with a failed write, and with a reply that closes it. -/
theorem lifecycle_of_step (h : Step s m s') (apart : m.stopsApart = false) :
    s'.lifecycle = if StopsFor [m] (s.posted m s') then s.lifecycle.stopped else s.lifecycle := by
  cases h with
  | stop => cases apart
  | failRead => cases apart
  | retire => cases apart
  | write busy => simp [StopsFor, posted, busy, Writing.outgoing?]
  | failWrite => simp [StopsFor]
  | _ => simp [StopsFor, posted, endWriting]

theorem stopping_le_stage_of_step (h : Step s m s') :
    .stopping ≤ s'.stage ↔
      .stopping ≤ s.stage ∨ m.stopsApart = true ∨ StopsFor [m] (s.posted m s') := by
  cases apart : m.stopsApart with
  | true =>
    have stopped : .stopping ≤ s'.stage := by
      cases h with
      | stop => exact Lifecycle.stopping_le_stopped _
      | failRead => exact Lifecycle.stopping_le_stopped _
      | retire =>
        change Stage.stopping ≤ .stopped
        decide
      | _ => cases apart
    exact iff_of_true stopped (.inr (.inl rfl))
  | false =>
    have life := lifecycle_of_step h apart
    split at life
    · next stops =>
      rw [stage, life]
      exact iff_of_true (Lifecycle.stopping_le_stopped _) (.inr (.inr stops))
    · next goesOn =>
      rw [stage, life]
      refine ⟨.inl, fun stops => stops.elim id ?_⟩
      rintro (other | own)
      · cases other
      · exact absurd own goesOn

end Step

/-! ## What is written, and what becomes of the server -/

section Run

variable {s s' : Server} {moves : List Move}

theorem written_eq_of_run (run : s.run moves = some s') :
    s'.written = s.written ++ (s.noted posted moves).map (·.1) := by
  refine run_induction (motive := fun moves s' =>
    s'.written = s.written ++ (s.noted posted moves).map (·.1)) (List.append_nil _).symm ?_ run
  intro moves m mid after before moved ih
  rw [noted_snoc posted before moved, List.map_append, written_eq_of_step (.of_step moved), ih,
    List.append_assoc]

/-- If nobody else stops the server, the writer does, or it goes on as it was. -/
theorem lifecycle_of_run (run : s.run moves = some s')
    (apart : ∀ m ∈ moves, m.stopsApart = false) :
    s'.lifecycle = if StopsFor moves (s.noted posted moves) then s.lifecycle.stopped
      else s.lifecycle := by
  refine run_induction (motive := fun moves s' => (∀ m ∈ moves, m.stopsApart = false) →
    s'.lifecycle = if StopsFor moves (s.noted posted moves) then s.lifecycle.stopped
      else s.lifecycle) (fun _ => rfl) ?_ run apart
  intro moves m mid after before moved ih apart
  rw [List.forall_mem_append] at apart
  have last := lifecycle_of_step (.of_step moved) (apart.2 m (List.mem_singleton_self m))
  rw [noted_snoc posted before moved, last, ih apart.1]
  by_cases early : StopsFor moves (s.noted posted moves)
  · rw [if_pos early, if_pos (stopsFor_append.2 (.inl early)), Lifecycle.stopped_stopped, ite_self]
  · rw [if_neg early]
    exact if_congr (by rw [stopsFor_append, or_iff_right early]) rfl rfl

/-- A server does not listen any more exactly if it has been stopped, by others or by its writer. -/
theorem stopping_le_stage_of_run (run : s.run moves = some s') :
    .stopping ≤ s'.stage ↔ .stopping ≤ s.stage ∨ (∃ m ∈ moves, m.stopsApart = true) ∨
      StopsFor moves (s.noted posted moves) := by
  refine run_induction (motive := fun moves s' => .stopping ≤ s'.stage ↔ .stopping ≤ s.stage ∨
    (∃ m ∈ moves, m.stopsApart = true) ∨ StopsFor moves (s.noted posted moves)) ?_ ?_ run
  · simp [StopsFor, noted]
  · intro moves m mid after before moved ih
    rw [stopping_le_stage_of_step (.of_step moved), ih, noted_snoc posted before moved,
      stopsFor_append]
    simp only [List.mem_append, List.mem_singleton, or_and_right, exists_or, exists_eq_left]
    grind

end Run

/-! ## As long as no write fails -/

/-- A run along which no write fails: what has become of the replies, and of the writes. -/
structure PostLaw (s : Server) (moves : List Move) (s' : Server) : Prop where
  queue : s.noted taken moves ++ s'.desk.outbox.queue = s.desk.outbox.queue ++ s.noted entered moves
  posts : s.noted Server.posted moves ++ s'.writing.outgoing?.toList = s.due (s.noted taken moves)
  failures : moves.filterMap Move.failure? = (s.noted posted moves).map fun _ => false
  drained : s'.IsDrained

section PostLaw

variable {s mid after s' : Server} {moves : List Move} {m : Move}

theorem due_append (s : Server) (replies more : List Reply) :
    s.due (replies ++ more) = s.due replies ++ more.filterMap Reply.outgoing? := by
  rw [due, due, List.filterMap_append, List.append_assoc]

theorem PostLaw.of_step (law : PostLaw s moves mid) (before : s.run moves = some mid)
    (moved : mid.step m = some after) (sound : m ≠ .failWrite) :
    PostLaw s (moves ++ [m]) after := by
  have step := Step.of_step moved
  have later {α : Type} (see : Server → Move → Server → List α) :
      s.noted see (moves ++ [m]) = s.noted see moves ++ see mid m after :=
    noted_snoc see before moved
  constructor
  · rw [later, later, List.append_assoc, queue_of_step step sound, ← List.append_assoc, law.queue,
      List.append_assoc]
  · rw [later, later, List.append_assoc, posted_of_step step sound, due_append, ← law.posts, due,
      List.append_assoc]
  · rw [later, List.map_append, ← failure?_of_step step sound, List.filterMap_append, law.failures]
    cases m <;> rfl
  · exact drained_of_step step sound law.drained

theorem PostLaw.of_run (running : s.writing ≠ .ended) (run : s.run moves = some s')
    (writes : .failWrite ∉ moves) : PostLaw s moves s' := by
  refine run_induction (motive := fun moves s' => .failWrite ∉ moves → PostLaw s moves s')
    ?_ ?_ run writes
  · intro _
    refine ⟨(List.append_nil _).symm, ?_, rfl, fun ended => absurd ended running⟩
    exact (List.append_nil _).symm
  · intro moves m mid after before moved ih writes
    rw [List.mem_append, not_or, List.mem_singleton] at writes
    exact (ih writes.1).of_step before moved (Ne.symm writes.2)

/-- The number of replies that the writer has finished with: those that it has taken out, without
the one that it is writing. -/
def finished (s : Server) (moves : List Move) (s' : Server) : Nat :=
  (s.noted taken moves).length - s'.writing.outgoing?.toList.length

/-- What is being written was being written before, or has just been taken out. -/
theorem taken_of_busy {p : Datagram × Bool} (h : Step s m s')
    (busy : s'.writing.outgoing? = some p) :
    s.writing.outgoing? = some p ∧ s.taken m s' = [] ∨
      ∃ reply, s.taken m s' = [reply] ∧ reply.outgoing? = some p := by
  cases h with
  | take ready taken encoded =>
    have queue := Outbox.queue_of_take?_eq_some taken
    right
    refine ⟨_, ?_, (Reply.outgoing?_of_encode encoded).trans busy⟩
    simp only [Server.taken, queue, List.head?_cons, Option.toList_some]
  | skip => cases busy
  | write => cases busy
  | failWrite => cases busy
  | finish => cases busy
  | _ => exact .inl ⟨busy, rfl⟩

/-- What is being written is the reply that was taken out last. -/
theorem taken_last_of_busy {p : Datagram × Bool} (free : s.writing.outgoing? = none)
    (run : s.run moves = some s') (busy : s'.writing.outgoing? = some p) :
    ∃ front reply, s.noted taken moves = front ++ [reply] ∧ reply.outgoing? = some p := by
  refine run_induction (motive := fun moves s' => s'.writing.outgoing? = some p →
    ∃ front reply, s.noted taken moves = front ++ [reply] ∧ reply.outgoing? = some p) ?_ ?_ run busy
  · intro busy
    cases free.symm.trans busy
  · intro moves m mid after before moved ih busy
    rw [noted_snoc taken before moved]
    rcases taken_of_busy (.of_step moved) busy with ⟨still, nothing⟩ | ⟨reply, new, sent⟩
    · rw [nothing, List.append_nil]
      exact ih still
    · rw [new]
      exact ⟨_, reply, rfl, sent⟩

/-- What has been written are the replies that the writer has finished with. -/
theorem PostLaw.posted_eq_finished (law : PostLaw s moves s') (free : s.writing.outgoing? = none)
    (run : s.run moves = some s') : s.noted posted moves =
      ((s.noted taken moves).take (s.finished moves s')).filterMap Reply.outgoing? := by
  have posts := law.posts
  rw [due, free, Option.toList_none, List.nil_append] at posts
  cases writing : s'.writing.outgoing? with
  | none =>
    rw [writing, Option.toList_none, List.append_nil] at posts
    rw [finished, writing, Option.toList_none, List.length_nil, Nat.sub_zero, List.take_length,
      posts]
  | some p =>
    obtain ⟨front, reply, last, sent⟩ := taken_last_of_busy free run writing
    have count : s.finished moves s' = front.length := by
      rw [finished, writing, last, List.length_append, Option.toList_some, List.length_singleton,
        List.length_singleton, Nat.add_sub_cancel]
    rw [writing, Option.toList_some, last, List.filterMap_append, List.filterMap_cons_some sent,
      List.filterMap_nil] at posts
    rw [count, last, List.take_left, List.append_cancel_right posts]

end PostLaw

/-! ## After a write has failed -/

/-- The writer has ended, and the outbox is closed and empty. -/
structure IsShut (s : Server) : Prop where
  writing : s.writing = .ended
  queue : s.desk.outbox.queue = []
  closed : s.desk.outbox.isOpen = false

namespace IsShut

variable {s s' : Server} {m : Move}

theorem of_endWriting {s : Server} {l : Lifecycle} : IsShut { s.endWriting with lifecycle := l } :=
  ⟨rfl, rfl, rfl⟩

/-- No reply is put into a closed outbox. -/
theorem entered_eq_nil (shut : s.IsShut) (h : Step s m s') : s.entered m s' = [] := by
  cases h with
  | push _ pushed =>
    simp [Outbox.push?, shut.closed] at pushed
  | task step =>
    cases step with
    | wait => simp [entered, handed_wait]
    | settle _ servable => simp [Outbox.isServable, shut.closed] at servable
    | giveUp => simp [entered, handed_giveUp]
  | _ => simp [entered, handed]

theorem taken_eq_nil (shut : s.IsShut) : s.taken m s' = [] := by
  cases m with
  | take => simp [taken, shut.queue]
  | _ => rfl

theorem posted_eq_nil (shut : s.IsShut) : s.posted m s' = [] := by
  cases m with
  | write => simp [posted, shut.writing, Writing.outgoing?]
  | _ => rfl

/-- Nothing is written any more, and no write fails. -/
theorem failure?_eq_none (shut : s.IsShut) (h : Step s m s') : m.failure? = none := by
  cases h with
  | write busy => cases shut.writing.symm.trans busy
  | failWrite busy => cases shut.writing.symm.trans busy
  | _ => rfl

theorem of_step (shut : s.IsShut) (h : Step s m s') : s'.IsShut := by
  cases h with
  | push _ pushed => simp [Outbox.push?, shut.closed] at pushed
  | task step =>
    cases step with
    | wait => exact ⟨shut.writing, shut.queue, shut.closed⟩
    | settle _ servable => simp [Outbox.isServable, shut.closed] at servable
    | giveUp =>
      refine ⟨shut.writing, ?_, ?_⟩
      · rw [Desk.queue_giveUp]
        exact shut.queue
      · exact (Outbox.isOpen_leave _ _).trans shut.closed
  | take ready => cases shut.writing.symm.trans ready
  | skip ready => cases shut.writing.symm.trans ready
  | write busy => cases shut.writing.symm.trans busy
  | failWrite => exact of_endWriting
  | finish => exact of_endWriting
  | _ => exact ⟨shut.writing, shut.queue, shut.closed⟩

end IsShut

/-- A run of a server that is shut: it stays shut, and nothing happens to replies or writes. -/
structure StaysShut (s : Server) (moves : List Move) (s' : Server) : Prop where
  shut : s'.IsShut
  entered : s.noted Server.entered moves = []
  taken : s.noted Server.taken moves = []
  posted : s.noted Server.posted moves = []
  failures : moves.filterMap Move.failure? = []

theorem IsShut.of_run {s s' : Server} {moves : List Move} (shut : s.IsShut)
    (run : s.run moves = some s') : StaysShut s moves s' := by
  refine run_induction (motive := StaysShut s) ⟨shut, rfl, rfl, rfl, rfl⟩ ?_ run
  intro moves m mid after before moved law
  have step := Step.of_step moved
  constructor
  · exact law.shut.of_step step
  · rw [noted_snoc Server.entered before moved, law.entered, law.shut.entered_eq_nil step,
      List.append_nil]
  · rw [noted_snoc Server.taken before moved, law.taken, law.shut.taken_eq_nil, List.append_nil]
  · rw [noted_snoc Server.posted before moved, law.posted, law.shut.posted_eq_nil, List.append_nil]
  · rw [List.filterMap_append, law.failures, List.nil_append, List.filterMap_cons_none
      (law.shut.failure?_eq_none step), List.filterMap_nil]

/-- A run along which a write fails: what was written before it, and that nothing was done about the
replies behind it. -/
structure FailLaw (s : Server) (moves : List Move) (s' : Server) : Prop where
  queue : ∃ lost, s.noted taken moves ++ lost = s.desk.outbox.queue ++ s.noted entered moves
  posts : ∃ failed, s.noted posted moves ++ [failed] = s.due (s.noted taken moves)
  failures : moves.filterMap Move.failure? =
    ((s.noted posted moves).map fun _ => false) ++ [true]
  shut : s'.IsShut

section FailLaw

variable {s s' : Server} {first more : List Move}

/-- A run with a failed write: nothing more happens to the replies. -/
theorem exists_of_failWrite (run : s.run (first ++ .failWrite :: more) = some s') :
    ∃ mid next, s.run first = some mid ∧ Step mid .failWrite next ∧ next.run more = some s' ∧
      next.IsShut ∧ ∀ {α : Type} (see : Server → Move → Server → List α),
        s.noted see (first ++ .failWrite :: more) =
          s.noted see first ++ (see mid .failWrite next ++ next.noted see more) := by
  obtain ⟨mid, next, before, failed, after, split⟩ := exists_of_run_append_cons run
  have step := Step.of_step failed
  refine ⟨mid, next, before, step, after, ?_, split⟩
  cases step with
  | failWrite => exact .of_endWriting

theorem taken_of_failWrite (run : s.run (first ++ .failWrite :: more) = some s') :
    s.noted taken (first ++ .failWrite :: more) = s.noted taken first := by
  obtain ⟨mid, next, -, -, after, shut, split⟩ := exists_of_failWrite run
  rw [split, (shut.of_run after).taken]
  exact List.append_nil _

theorem FailLaw.of_run (running : s.writing ≠ .ended)
    (run : s.run (first ++ .failWrite :: more) = some s') (writes : .failWrite ∉ first) :
    FailLaw s (first ++ .failWrite :: more) s' := by
  obtain ⟨mid, next, before, step, after, shut, split⟩ := exists_of_failWrite run
  have rests := shut.of_run after
  have law := PostLaw.of_run running before writes
  cases step with
  | @failWrite datagram closes busy =>
    constructor
    · refine ⟨mid.desk.outbox.queue, ?_⟩
      rw [split, split, rests.taken, rests.entered]
      simp only [Server.taken, Server.entered, handed, List.map_nil, List.append_nil]
      exact law.queue
    · refine ⟨(datagram, closes), ?_⟩
      have posts := law.posts
      rw [busy] at posts
      rw [split, split, rests.taken, rests.posted]
      simp only [Server.taken, Server.posted, List.append_nil]
      exact posts
    · have broken : (Move.failWrite :: more).filterMap Move.failure? =
          true :: more.filterMap Move.failure? := rfl
      rw [split, rests.posted, List.filterMap_append, law.failures, broken, rests.failures]
      simp only [Server.posted, List.append_nil]
    · exact rests.shut

end FailLaw

/-! ## A writer that is left alone -/

section FailsAs

variable {fails : Nat → Bool} {m : Move} {moves : List Move}

theorem failsAs_nil : FailsAs fails [] := rfl

theorem FailsAs.cons_of_none (obeyed : FailsAs fails moves) (other : m.failure? = none) :
    FailsAs fails (m :: moves) := by
  unfold FailsAs at obeyed ⊢
  rwa [List.filterMap_cons_none other]

theorem FailsAs.cons_of_some (obeyed : FailsAs (fun n => fails (n + 1)) moves)
    (first : m.failure? = some (fails 0)) : FailsAs fails (m :: moves) := by
  unfold FailsAs at obeyed ⊢
  rw [List.filterMap_cons_some first, List.length_cons, List.range_succ_eq_map, List.map_cons,
    List.map_map]
  exact congrArg (fails 0 :: ·) obeyed

/-- How a write of the run has ended is as `fails` tells of it. -/
theorem FailsAs.eq_of_getElem? (obeyed : FailsAs fails moves) {n : Nat} {failed : Bool}
    (at_n : (moves.filterMap Move.failure?)[n]? = some failed) : fails n = failed := by
  have inside := (List.getElem?_eq_some_iff.1 at_n).1
  rw [obeyed, List.getElem?_map, List.getElem?_range inside] at at_n
  exact Option.some.inj at_n

end FailsAs

/-- By moves of its writer alone, the server comes to where the writer has ended or waits, its
writes ending as `fails` tells; and the writer has ended if nobody can queue a reply. -/
def ComesToRest (fails : Nat → Bool) (s : Server) : Prop :=
  ∃ moves s', s.run moves = some s' ∧ FailsAs fails moves ∧ (∀ m ∈ moves, m.isOfWriter = true) ∧
    s'.IsIdle ∧ (s.senders = 0 → s'.writing = .ended)

namespace ComesToRest

variable {fails : Nat → Bool} {s next : Server}

/-- If one move of the writer leads to where it comes to rest, it comes to rest. -/
theorem of_step {m : Move} {fails' : Nat → Bool} (rest : ComesToRest fails' next)
    (moved : s.step m = some next) (own : m.isOfWriter = true)
    (senders : next.senders = s.senders)
    (obeyed : ∀ moves, FailsAs fails' moves → FailsAs fails (m :: moves)) :
    ComesToRest fails s := by
  obtain ⟨moves, s', run, obeys, alone, idle, ended⟩ := rest
  refine ⟨m :: moves, s', ?_, obeyed moves obeys, ?_, idle, fun nobody => ended ?_⟩
  · rw [Server.run, moved]
    exact run
  · exact List.forall_mem_cons.2 ⟨own, alone⟩
  · rw [senders, nobody]

theorem of_idle (idle : s.IsIdle) : ComesToRest fails s := by
  by_cases finished : s.writing = .ready ∧ s.senders = 0
  · obtain ⟨ready, nobody⟩ := finished
    have empty : s.desk.outbox.queue = [] := by
      rcases idle with ended | ⟨-, empty⟩
      · cases ended.symm.trans ready
      · exact empty
    have moved : s.step .finish = some s.endWriting := by
      simp only [step, finish, ready, empty, nobody, if_true]
    refine ⟨[.finish], s.endWriting, ?_, failsAs_nil.cons_of_none rfl, ?_, .inl rfl, fun _ => rfl⟩
    · rw [Server.run, moved]
      rfl
    · simp [Move.isOfWriter]
  · refine ⟨[], s, rfl, failsAs_nil, fun _ none => absurd none List.not_mem_nil, idle, ?_⟩
    intro nobody
    rcases idle with ended | ⟨ready, -⟩
    · exact ended
    · exact absurd ⟨ready, nobody⟩ finished

/-- The write under way fails, or is followed by the rest. -/
theorem of_busy {datagram : Datagram} {closes : Bool} (busy : s.writing = .busy datagram closes)
    (later : ∀ next : Server, next.writing = .ready →
      next.desk.outbox.queue = s.desk.outbox.queue →
      ComesToRest (fun n => fails (n + 1)) next) : ComesToRest fails s := by
  cases broken : fails 0 with
  | true =>
    let next : Server := { s.endWriting with lifecycle := s.lifecycle.stopped }
    have moved : s.step .failWrite = some next := by
      simp only [step, failWrite, busy, next]
    have rest : ComesToRest (fun n => fails (n + 1)) next := of_idle (.inl rfl)
    exact rest.of_step moved rfl rfl fun moves others =>
      others.cons_of_some (congrArg some broken.symm)
  | false =>
    let next : Server := { s with
      writing := .ready
      written := s.written ++ [datagram]
      lifecycle := if closes then s.lifecycle.stopped else s.lifecycle }
    have moved : s.step .write = some next := by
      simp only [step, write, busy, next]
    have rest : ComesToRest (fun n => fails (n + 1)) next := later next rfl rfl
    exact rest.of_step moved rfl rfl fun moves others =>
      others.cons_of_some (congrArg some broken.symm)

theorem of_ready (ready : s.writing = .ready) : ComesToRest fails s := by
  -- by induction on the replies; after each write `fails` is asked from the next place on
  generalize queued : s.desk.outbox.queue = queue
  induction queue generalizing s fails with
  | nil => exact of_idle (.inr ⟨ready, queued⟩)
  | cons reply rest ih =>
    obtain ⟨outbox, taken, left⟩ := Outbox.exists_take?_of_queue queued
    cases encoded : reply.response.encode with
    | ok contents =>
      let next : Server := { s with
        writing := .busy ⟨reply.recipient, contents⟩ reply.closes
        desk := { s.desk with outbox := outbox } }
      have moved : s.step .take = some next := by
        simp only [step, take, ready, taken, encoded, next]
      have rest : ComesToRest fails next :=
        of_busy rfl fun later laterReady same => ih laterReady (same.trans left)
      exact rest.of_step moved rfl rfl fun moves others => others.cons_of_none rfl
    | error failure =>
      let next : Server := { s with
        writing := .ready
        desk := { s.desk with outbox := outbox } }
      have moved : s.step .take = some next := by
        simp only [step, take, ready, taken, encoded, next]
      have rest : ComesToRest fails next := ih rfl left
      exact rest.of_step moved rfl rfl fun moves others => others.cons_of_none rfl

end ComesToRest

/-- A writer that is left alone comes to rest, whichever of its writes fail. -/
theorem exists_run_of_writer (fails : Nat → Bool) (s : Server) : ComesToRest fails s := by
  cases writing : s.writing with
  | ready => exact .of_ready writing
  | busy datagram closes => exact .of_busy writing fun _ ready _ => .of_ready ready
  | ended => exact .of_idle (.inl writing)

/-! ## From end to end -/

section EndToEnd

variable {s s' : Server} {moves : List Move} {fails : Nat → Bool}

/-- The writes that have not failed are those that `fails` says so of. -/
theorem works_of_failsAs {posts : List (Datagram × Bool)} {more : List Bool}
    (obeyed : FailsAs fails moves)
    (failures : moves.filterMap Move.failure? = (posts.map fun _ => false) ++ more) :
    ∀ n < posts.length, fails n = false := by
  intro n inside
  refine obeyed.eq_of_getElem? ?_
  rw [failures, List.getElem?_append_left (by rwa [List.length_map]), List.getElem?_map,
    List.getElem?_eq_getElem inside, Option.map_some]

/-- What is written is what comes before the first failure: of what has been taken out, when nothing
is being written, and of all replies, when the writer has come to rest. -/
theorem posted_of_run (running : s.writing ≠ .ended) (run : s.run moves = some s')
    (obeyed : FailsAs fails moves) :
    s.noted taken moves <+: s.desk.outbox.queue ++ s.noted entered moves ∧
    (s'.writing.outgoing? = none →
      s.noted posted moves = beforeFailure fails (s.due (s.noted taken moves))) ∧
    (s'.IsIdle → s.noted posted moves =
      beforeFailure fails (s.due (s.desk.outbox.queue ++ s.noted entered moves))) := by
  by_cases failed : .failWrite ∈ moves
  · -- the first failed write divides the run
    obtain ⟨first, more, rfl, unfailed⟩ := List.eq_append_cons_of_mem failed
    have law := FailLaw.of_run running run unfailed
    obtain ⟨lost, queue⟩ := law.queue
    obtain ⟨bad, posts⟩ := law.posts
    have works := works_of_failsAs obeyed law.failures
    have broken : fails (s.noted posted (first ++ .failWrite :: more)).length = true := by
      refine obeyed.eq_of_getElem? ?_
      rw [law.failures, List.getElem?_append_right (by rw [List.length_map]), List.length_map,
        Nat.sub_self]
      rfl
    refine ⟨⟨lost, queue⟩, fun _ => ?_, fun _ => ?_⟩
    · rw [← posts, beforeFailure_append_cons works broken]
    · rw [← queue, due_append, ← posts, List.append_assoc, List.singleton_append,
        beforeFailure_append_cons works broken]
  · have law := PostLaw.of_run running run failed
    have works := works_of_failsAs obeyed (law.failures.trans (List.append_nil _).symm)
    have all (free : s'.writing.outgoing? = none) :
        s.noted posted moves = beforeFailure fails (s.due (s.noted taken moves)) := by
      have posts := law.posts
      rw [free, Option.toList_none, List.append_nil] at posts
      rw [← posts, beforeFailure_eq_self works]
    refine ⟨⟨_, law.queue⟩, all, fun idle => ?_⟩
    have empty : s'.desk.outbox.queue = [] := by
      rcases idle with ended | ⟨-, empty⟩
      · exact (law.drained ended).1
      · exact empty
    rw [← law.queue, empty, List.append_nil]
    exact all (outgoing?_of_idle idle)

/-- The writer ends with a failed write, or when there is no reply left and nobody to queue one. -/
theorem failWrite_mem_or_of_ended (running : s.writing ≠ .ended) (run : s.run moves = some s')
    (ended : s'.writing = .ended) : .failWrite ∈ moves ∨
      s.noted taken moves = s.desk.outbox.queue ++ s.noted entered moves ∧ s'.senders = 0 := by
  by_cases failed : .failWrite ∈ moves
  · exact .inl failed
  · have law := PostLaw.of_run running run failed
    obtain ⟨empty, nobody⟩ := law.drained ended
    rw [← law.queue, empty, List.append_nil]
    exact .inr ⟨rfl, nobody⟩

/-- **The writer from end to end.**  Take a server whose writer has not ended, with any replies in
its outbox and in whatever stage of its life, and let `fails` say which writes fail.  A writer that
is left alone comes to where it has ended or waits for a reply, and it has ended if nobody can queue
one.  And whatever else moves in between, be it replies that are queued or somebody who stops the
server,

* the replies are taken out in the order in which they were queued; whenever nothing is being
  written, what has been written of them are the encodings of those that have one, each to its own
  recipient, up to the first write that fails; and when the writer has come to rest, none of them is
  left out;
* after a failed write the writer has ended, and no reply is taken out any more;
* it ends for no other reason than a failed write, or that all replies have been taken out and
  nobody can queue one;
* it stops the server when a write fails or a reply is written that closes the server, and not
  otherwise: if nobody else stops the server, this is all that becomes of its life, and with others
  around, the server does not listen any more exactly if it did not before, somebody else has
  stopped it, or its writer has. -/
theorem writes_in_order_until_failure (s : Server) (running : s.writing ≠ .ended)
    (fails : Nat → Bool) :
    ComesToRest fails s ∧
    ∀ moves s', s.run moves = some s' → FailsAs fails moves →
      let replies := s.desk.outbox.queue ++ s.noted entered moves
      let sent := beforeFailure fails (s.due (s.noted taken moves))
      (s.noted taken moves <+: replies ∧
        (s'.writing.outgoing? = none → s'.written = s.written ++ sent.map (·.1)) ∧
        (s'.IsIdle → sent = beforeFailure fails (s.due replies))) ∧
      (∀ first more, moves = first ++ .failWrite :: more →
        s'.writing = .ended ∧ s.noted taken moves = s.noted taken first) ∧
      (s'.writing = .ended →
        .failWrite ∈ moves ∨ s.noted taken moves = replies ∧ s'.senders = 0) ∧
      (s'.writing.outgoing? = none →
        ((∀ m ∈ moves, m.stopsApart = false) → s'.lifecycle =
          if s.stage < .stopping ∧ StopsFor moves sent then ⟨.stopping, true⟩ else s.lifecycle) ∧
        (.stopping ≤ s'.stage ↔ .stopping ≤ s.stage ∨ (∃ m ∈ moves, m.stopsApart = true) ∨
          StopsFor moves sent)) := by
  refine ⟨exists_run_of_writer fails s, fun moves s' run obeyed => ?_⟩
  intro replies sent
  obtain ⟨inOrder, whenFree, whenIdle⟩ := posted_of_run running run obeyed
  refine ⟨⟨inOrder, fun free => ?_, fun idle => ?_⟩, ?_, failWrite_mem_or_of_ended running run,
    fun free => ⟨fun apart => ?_, ?_⟩⟩
  · rw [written_eq_of_run run, whenFree free]
  · rw [← whenIdle idle, whenFree (outgoing?_of_idle idle)]
  · rintro first more rfl
    obtain ⟨mid, next, -, -, after, shut, -⟩ := exists_of_failWrite run
    exact ⟨(shut.of_run after).shut.writing, taken_of_failWrite run⟩
  · rw [lifecycle_of_run run apart, whenFree free, Lifecycle.stopped_eq, ← ite_and]
    exact if_congr and_comm rfl rfl
  · rw [stopping_le_stage_of_run run, whenFree free]

/-- Four replies are queued by an owner.  The second one closes the server, and the third one cannot
be written. -/
def closeThenFail : List Move :=
  let reply (port : Nat) (closes : Bool) : Reply :=
    ⟨.loopback port, .shutdown (.ok .shutdown ⟨"first"⟩), closes⟩
  [.push (reply 9000 false), .push (reply 9001 true), .push (reply 9002 false),
    .push (reply 9003 false), .take, .write, .take, .write, .take, .failWrite]

theorem written_of_closeThenFail :
    let s := opened 1 {}
    let fails := fun n => n == 2
    s.writing ≠ .ended ∧ FailsAs fails closeThenFail ∧
    ∃ s', s.run closeThenFail = some s' ∧
      s'.written.map (·.peer) = [.loopback 9000, .loopback 9001] ∧
      s'.written = s.written ++
        (beforeFailure fails (s.due (s.noted taken closeThenFail))).map (·.1) ∧
      s.noted taken closeThenFail <+: s.noted entered closeThenFail ∧
      s'.lifecycle = ⟨.stopping, true⟩ := by
  intro s fails
  have running : s.writing ≠ .ended := by decide
  have obeyed : FailsAs fails closeThenFail := by decide
  have seen : (s.run closeThenFail).map
      (fun s' => (s'.writing.outgoing?, s'.written.map (·.peer))) =
      some (none, [.loopback 9000, .loopback 9001]) := by decide +kernel
  obtain ⟨s', run, same⟩ := Option.map_eq_some_iff.1 seen
  obtain ⟨free, peers⟩ := Prod.mk.inj same
  obtain ⟨⟨inOrder, written, -⟩, -, -, life⟩ :=
    (writes_in_order_until_failure s running fails).2 closeThenFail s' run obeyed
  have apart : ∀ m ∈ closeThenFail, m.stopsApart = false := by decide +kernel
  refine ⟨running, obeyed, s', run, peers, written free, inOrder, ?_⟩
  rw [(life free).1 apart, if_pos]
  decide +kernel

end EndToEnd

end Server

end DatagramSession
