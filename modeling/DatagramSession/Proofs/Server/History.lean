import DatagramSession.Proofs.Server.Step
import Mathlib.Data.List.Induction

/-!
# Histories of a run

A server does not remember what it has done, so a statement about a whole run speaks of the run's
moves.  `s.noted see moves` is what an observer of single moves writes down along a run from `s`,
and `s.Throughout P moves` says that every move of the run is made in a state that allows it.

* `run_induction`: what holds before a run and is kept by each of its moves holds after it.
* `noted_snoc`, `Throughout.of_snoc`: what one more move adds.

Several observers are defined here, because more than one theorem speaks of them: what tasks hand
to the outbox (`handed`), the ids that they issue (`issued`), and what owners save (`savedIds`).
-/

namespace DatagramSession

/-- Moves that may be impossible, one after the other: what holds of no moves and is kept by one
more possible move holds of every run. -/
theorem foldlM_induction {σ μ : Type} {step : σ → μ → Option σ} {s s' : σ}
    {motive : List μ → σ → Prop} (nil : motive [] s)
    (snoc : ∀ {moves : List μ} {m : μ} {mid after : σ}, moves.foldlM step s = some mid →
      step mid m = some after → motive moves mid → motive (moves ++ [m]) after)
    {moves : List μ} (run : moves.foldlM step s = some s') : motive moves s' := by
  induction moves using List.reverseRecOn generalizing s' with
  | nil =>
    cases run
    exact nil
  | append_singleton moves m ih =>
    rw [List.foldlM_append] at run
    obtain ⟨mid, before, last⟩ := Option.bind_eq_some_iff.1 run
    obtain ⟨after, moved, rest⟩ := Option.bind_eq_some_iff.1 last
    cases rest
    exact snoc before moved (ih before)

/-- What an observer of single moves writes down along moves that may be impossible. -/
def notedAlong {σ μ α : Type} (step : σ → μ → Option σ) (see : σ → μ → σ → List α) :
    σ → List μ → List α
  | _, [] => []
  | s, m :: rest =>
    match step s m with
    | some s' => see s m s' ++ notedAlong step see s' rest
    | none => []

/-- More moves add what is seen of them. -/
theorem notedAlong_append {σ μ α : Type} {step : σ → μ → Option σ} (see : σ → μ → σ → List α)
    {s mid : σ} {moves : List μ} (run : moves.foldlM step s = some mid) (more : List μ) :
    notedAlong step see s (moves ++ more) =
      notedAlong step see s moves ++ notedAlong step see mid more := by
  induction moves generalizing s with
  | nil =>
    cases run
    rfl
  | cons first rest ih =>
    rw [List.foldlM_cons] at run
    obtain ⟨next, firstStep, run⟩ := Option.bind_eq_some_iff.1 run
    simp only [List.cons_append, notedAlong, firstStep, ih run, List.append_assoc]

/-- One more move adds what is seen of it. -/
theorem notedAlong_snoc {σ μ α : Type} {step : σ → μ → Option σ} (see : σ → μ → σ → List α)
    {s mid after : σ} {moves : List μ} {m : μ} (run : moves.foldlM step s = some mid)
    (moved : step mid m = some after) :
    notedAlong step see s (moves ++ [m]) = notedAlong step see s moves ++ see mid m after := by
  rw [notedAlong_append see run]
  simp only [notedAlong, moved, List.append_nil]

namespace Server

/-! ## Runs -/

theorem run_eq_foldlM (s : Server) (moves : List Move) : s.run moves = moves.foldlM step s := by
  induction moves generalizing s with
  | nil => rfl
  | cons m rest ih =>
    rw [List.foldlM_cons, run]
    exact congrArg (s.step m).bind (funext ih)

/-- A run goes through the state that its first part ends in. -/
theorem run_append (s : Server) (first rest : List Move) :
    s.run (first ++ rest) = (s.run first).bind fun mid => mid.run rest := by
  simp only [run_eq_foldlM]
  exact List.foldlM_append

theorem run_snoc_eq_some_iff {s after : Server} {moves : List Move} {m : Move} :
    s.run (moves ++ [m]) = some after ↔
      ∃ mid, s.run moves = some mid ∧ mid.step m = some after := by
  rw [run_append, Option.bind_eq_some_iff]
  simp only [run, Option.bind_fun_some]

/-- **Induction along a run.**  What holds of no moves and is kept by one more possible move holds
of every run. -/
theorem run_induction {s : Server} {motive : List Move → Server → Prop} (nil : motive [] s)
    (snoc : ∀ {moves : List Move} {m : Move} {mid after : Server}, s.run moves = some mid →
      mid.step m = some after → motive moves mid → motive (moves ++ [m]) after)
    {moves : List Move} {s' : Server} (run : s.run moves = some s') : motive moves s' := by
  simp only [run_eq_foldlM] at run snoc
  exact foldlM_induction nil snoc run

/-! ## What is seen along a run -/

/-- What an observer of single moves writes down along a run. -/
def noted {α : Type} (see : Server → Move → Server → List α) : Server → List Move → List α
  | _, [] => []
  | s, m :: rest =>
    match s.step m with
    | some s' => see s m s' ++ noted see s' rest
    | none => []

theorem noted_eq_notedAlong {α : Type} (see : Server → Move → Server → List α) (s : Server)
    (moves : List Move) : s.noted see moves = notedAlong step see s moves := by
  induction moves generalizing s with
  | nil => rfl
  | cons m rest ih =>
    rw [noted, notedAlong]
    cases s.step m with
    | none => rfl
    | some s' => exact congrArg (see s m s' ++ ·) (ih s')

/-- One more move adds what is seen of it. -/
theorem noted_snoc {α : Type} (see : Server → Move → Server → List α) {s mid after : Server}
    {moves : List Move} {m : Move} (run : s.run moves = some mid) (step : mid.step m = some after) :
    s.noted see (moves ++ [m]) = s.noted see moves ++ see mid m after := by
  rw [noted_eq_notedAlong, noted_eq_notedAlong]
  exact notedAlong_snoc see (run_eq_foldlM s moves ▸ run) step

/-- Nothing is written down along moves that the observer does not look at. -/
theorem noted_eq_nil {α : Type} {see : Server → Move → Server → List α} {moves : List Move}
    (unseen : ∀ m ∈ moves, ∀ s s', see s m s' = []) (s : Server) : s.noted see moves = [] := by
  induction moves generalizing s with
  | nil => rfl
  | cons m rest ih =>
    obtain ⟨first, others⟩ := List.forall_mem_cons.1 unseen
    rw [noted]
    split
    · next s' moved =>
      rw [first, ih others]
      rfl
    · rfl

/-- A run around one of its moves: the states before and after it, and what is seen. -/
theorem exists_of_run_append_cons {s s' : Server} {first more : List Move} {m : Move}
    (run : s.run (first ++ m :: more) = some s') :
    ∃ mid next, s.run first = some mid ∧ mid.step m = some next ∧ next.run more = some s' ∧
      ∀ {α : Type} (see : Server → Move → Server → List α),
        s.noted see (first ++ m :: more) =
          s.noted see first ++ (see mid m next ++ next.noted see more) := by
  rw [run_append] at run
  obtain ⟨mid, before, rest⟩ := Option.bind_eq_some_iff.1 run
  obtain ⟨next, moved, after⟩ := Option.bind_eq_some_iff.1 rest
  refine ⟨mid, next, before, moved, after, fun see => ?_⟩
  rw [noted_eq_notedAlong, notedAlong_append see (run_eq_foldlM s first ▸ before),
    ← noted_eq_notedAlong, ← noted_eq_notedAlong, noted, moved]

/-- Every move of a run is made in a state that allows it. -/
def Throughout (P : Server → Move → Prop) : Server → List Move → Prop
  | _, [] => True
  | s, m :: rest => P s m ∧ ∀ s' ∈ s.step m, Throughout P s' rest

instance Throughout.decidable (P : Server → Move → Prop) [∀ s m, Decidable (P s m)] :
    (s : Server) → (moves : List Move) → Decidable (s.Throughout P moves)
  | _, [] => .isTrue trivial
  | s, m :: rest =>
    have (s' : Server) : Decidable (s'.Throughout P rest) := decidable P s' rest
    inferInstanceAs (Decidable (P s m ∧ ∀ s' ∈ s.step m, s'.Throughout P rest))

/-- A longer run is allowed in its first part and in its last move. -/
theorem Throughout.of_snoc {P : Server → Move → Prop} {s mid : Server} {moves : List Move}
    {m : Move} (allowed : s.Throughout P (moves ++ [m])) (run : s.run moves = some mid) :
    s.Throughout P moves ∧ P mid m := by
  induction moves generalizing s with
  | nil =>
    cases run
    exact ⟨trivial, allowed.1⟩
  | cons first rest ih =>
    simp only [Server.run] at run
    obtain ⟨next, firstStep, run⟩ := Option.bind_eq_some_iff.1 run
    obtain ⟨restAllowed, lastAllowed⟩ := ih (allowed.2 next firstStep) run
    refine ⟨⟨allowed.1, fun s' step => ?_⟩, lastAllowed⟩
    cases firstStep.symm.trans step
    exact restAllowed

/-- A server that begins to listen has done nothing yet. -/
theorem eq_opened_of_spawnWith {spare : Nat} {settings : Settings} {s : Server}
    (spawned : spawnWith spare settings = some s) : s = opened spare settings := by
  unfold spawnWith at spawned
  split at spawned
  · exact (Option.some.inj spawned).symm
  · cases spawned

/-! ## Observers -/

/-- The replies that a task's move puts behind those that are queued, with the task. -/
def handed (s : Server) : Move → Server → List (Ticket × Reply)
  | .task m, s' =>
    (s'.desk.outbox.queue.drop s.desk.outbox.queue.length).map fun reply => (m.ticket, reply)
  | _, _ => []

/-- The id that a response tells its receiver to hold from now on: that of a successful login. -/
def issuedId? : Response → Option SessionId
  | .login header _ => if header.isOk then some header.session else none
  | _ => none

/-- The ids that a move issues, with the task. -/
def issued (s : Server) (m : Move) (s' : Server) : List (Ticket × SessionId) :=
  (s.handed m s').filterMap fun (ticket, reply) => (issuedId? reply.response).map (ticket, ·)

/-- The ids that owners save in a run; the absent id is never stored. -/
def savedIds (moves : List Move) : List SessionId :=
  moves.filterMap fun
    | .save id _ => if id.isAbsent then none else some id
    | _ => none

/-- The id that a login draws when it is served. -/
def drawnIds (s : Server) : Move → List SessionId
  | .task (.serve ticket draw) =>
    match s.desk.errand? ticket with
    | some errand =>
      if errand.action = .login ∧ errand.request.bodyAction = .login then [draw.fresh] else []
    | none => []
  | _ => []

/-- The tasks that a move ends without a reply. -/
def dropped (s : Server) : Move → Server → List Ticket
  | .task m, s' =>
    if (s.desk.errand? m.ticket).isSome ∧ (s'.desk.errand? m.ticket).isNone
        ∧ s.handed (.task m) s' = [] then [m.ticket]
    else []
  | _, _ => []

/-! ## What a move of a task hands over -/

theorem handed_settle {s : Server} {ticket : Ticket} {draw : Draw} {table : Table} {reply : Reply} :
    s.handed (.task (.serve ticket draw)) { s with desk := ({ s.desk with
      table := table
      outbox := s.desk.outbox.put ticket reply }.finish ticket) } = [(ticket, reply)] := by
  simp [handed, Task.Move.ticket]

theorem handed_wait {s : Server} {m : Task.Move} {ticket : Ticket} :
    s.handed (.task m) { s with desk := { s.desk with outbox := s.desk.outbox.wait ticket } } =
      [] := by
  simp [handed]

/-- Who gives up hands nothing over. -/
theorem handed_giveUp {s : Server} {m : Task.Move} {ticket : Ticket} :
    s.handed (.task m) { s with desk := s.desk.giveUp ticket } = [] := by
  simp [handed]

end Server

end DatagramSession
