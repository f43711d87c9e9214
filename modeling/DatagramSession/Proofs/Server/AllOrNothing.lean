import DatagramSession.Proofs.Server.Capacity
import DatagramSession.Server.Trial
import Mathlib.Logic.Basic

/-!
# All or nothing

A task that wants to answer waits for a slot of the outbox, and four things can happen while it does:
it gets the slot, the tasks are cancelled, the outbox is closed, or its patience ends.  Meanwhile
others fill and drain the outbox, start tasks, move theirs, and save ids.

The moves of a task are compared with what they leave behind.  A task gets in line at most once,
which shows in the line and nowhere else, and then ends in a single move.  That move either queues
its reply and changes the table, or does neither.

* `Trial.Step.frame`: what others do leaves the task alone.
* `Trial.Vanishes.of_giveUp`, `Trial.Delivers.of_settle`: how a task ends.
* `Trial.attend_ends`: a task that is attended makes such moves, and ends.
* `Trial.Course.of_run`: a task along a whole run.
* `Trial.task_is_all_or_nothing`: the whole law.
-/

namespace DatagramSession.Server

namespace Trial

/-! ## Moves -/

/-- A possible move in a trial. -/
inductive Move where
  | task (m : Task.Move)
  /-- A task starts on a free permit. -/
  | start (errand : Errand)
  | interrupt (i : Interruption)
  /-- Somebody else queues a reply, if there is a free slot. -/
  | fill (reply : Reply)
  | save (id : SessionId) (now : Instant)
deriving DecidableEq, Repr

/-- The move is one of this task. -/
def Move.isOf (ticket : Ticket) : Move → Bool
  | .task m => m.ticket = ticket
  | _ => false

theorem Move.exists_of_isOf {ticket : Ticket} {m : Move} (own : m.isOf ticket = true) :
    ∃ a, m = .task a ∧ a.ticket = ticket := by
  cases m with
  | task a => exact ⟨a, rfl, by simpa [isOf] using own⟩
  | _ => cases own

/-- The trial after a move, or none when the move is not possible. -/
def step (t : Trial) : Move → Option Trial
  | .task m => (t.desk.step t.isCancelled m).map fun desk => { t with desk := desk }
  | .start errand =>
    if 0 < t.desk.permits then
      some { t with desk := { t.desk with permits := t.desk.permits - 1 }.start errand }
    else none
  | .interrupt i => some (t.interrupt i).2
  | .fill reply => some (t.fill reply).2
  | .save id now => some (t.save id now).2

/-- The trial after moves of any number of tasks and of others, in this order. -/
def run (t : Trial) (moves : List Move) : Option Trial := moves.foldlM step t

theorem run_append (t : Trial) (first rest : List Move) :
    t.run (first ++ rest) = (t.run first).bind fun mid => mid.run rest :=
  List.foldlM_append

theorem run_singleton (t : Trial) (m : Move) : t.run [m] = t.step m := by
  rw [run, List.foldlM_cons]
  cases t.step m <;> rfl

/-- The replies that a move takes out of the outbox. -/
def seeTaken (t : Trial) : Move → Trial → List Reply
  | .interrupt i, _ => (t.interrupt i).1.toList
  | _, _ => []

/-- The replies that are taken out of the outbox along a run, oldest first. -/
def taken (t : Trial) (moves : List Move) : List Reply := notedAlong step seeTaken t moves

/-- One move in a trial. -/
inductive Step (t : Trial) : Move → Trial → Prop
  | task {m : Task.Move} {desk : Desk} :
    t.desk.Step t.isCancelled m desk → Step t (.task m) { t with desk := desk }
  | start (errand : Errand) :
    Step t (.start errand)
      { t with desk := { t.desk with permits := t.desk.permits - 1 }.start errand }
  | drain {reply : Reply} {outbox : Outbox} :
    t.desk.outbox.take? = some (reply, outbox) →
    Step t (.interrupt .drainOne) { t with desk := { t.desk with outbox := outbox } }
  | fill {reply : Reply} {outbox : Outbox} :
    t.desk.outbox.push? reply = some outbox →
    Step t (.fill reply) { t with desk := { t.desk with outbox := outbox } }
  | empty : t.desk.outbox.take? = none → Step t (.interrupt .drainOne) t
  | full {reply : Reply} : t.desk.outbox.push? reply = none → Step t (.fill reply) t
  | cancel : Step t (.interrupt .cancel) t.cancel
  | close : Step t (.interrupt .close) t.close
  | save (id : SessionId) (now : Instant) :
    Step t (.save id now)
      { t with desk := { t.desk with table := (t.desk.table.save id now).2 } }

/-- A possible move is an instance of a rule. -/
theorem Step.of_step {t t' : Trial} {m : Move} (moved : t.step m = some t') : Step t m t' := by
  cases m with
  | task m =>
    obtain ⟨desk, acted, rfl⟩ := Option.map_eq_some_iff.1 moved
    exact .task (.of_step acted)
  | start errand =>
    simp only [step] at moved
    split at moved
    · cases moved
      exact .start errand
    · cases moved
  | interrupt i =>
    cases moved
    cases i with
    | drainOne =>
      simp only [interrupt, Trial.drainOne]
      cases out : t.desk.outbox.take? with
      | none => exact .empty out
      | some rest => exact .drain out
    | cancel => exact .cancel
    | close => exact .close
  | fill reply =>
    cases moved
    simp only [Trial.fill]
    cases pushed : t.desk.outbox.push? reply with
    | none => exact .full pushed
    | some outbox => exact .fill pushed
  | save id now =>
    cases moved
    exact .save id now

/-! ## The others -/

section Others

variable {t t' : Trial} {m : Move} {ticket : Ticket}

theorem orderly_of_step (orderly : t.desk.IsOrderly) (h : Step t m t') : t'.desk.IsOrderly := by
  cases h with
  | task step => exact orderly.of_step step
  | start errand =>
    have same : ({ t.desk with permits := t.desk.permits - 1 } : Desk).IsOrderly :=
      orderly.of_sublist ⟨rfl, rfl⟩ (List.Sublist.refl _)
    exact same.start errand
  | drain out =>
    exact orderly.of_sublist ⟨rfl, rfl⟩ (by rw [(Outbox.slots_of_take? out).2.2])
  | fill pushed =>
    exact orderly.of_sublist ⟨rfl, rfl⟩ (by rw [(Outbox.slots_of_push? pushed).2.2.2])
  | empty => exact orderly
  | full => exact orderly
  | cancel => exact orderly
  | close => exact orderly.of_sublist ⟨rfl, rfl⟩ (List.nil_sublist _)
  | save => exact orderly.of_sublist ⟨rfl, rfl⟩ (List.Sublist.refl _)

/-- A task that has got in line has a place, as long as there is a line. -/
def IsPlaced (ticket : Ticket) (t : Trial) : Prop :=
  ticket ∈ t.desk.outbox.holders ∨ t.desk.outbox.isOpen = false

/-- Tickets that were given out are not given out again. -/
theorem Step.next_le (h : Step t m t') : t.desk.next ≤ t'.desk.next := by
  cases h with
  | task step => cases step <;> exact Nat.le_refl _
  | start => exact Nat.le_succ _
  | _ => exact Nat.le_refl _

/-- What others do leaves a task alone: it keeps its errand, and its place. -/
theorem Step.frame (h : Step t m t') (other : m.isOf ticket = false)
    (given : ticket < t.desk.next) :
    t'.desk.errand? ticket = t.desk.errand? ticket ∧
      (IsPlaced ticket t → IsPlaced ticket t') := by
  cases h with
  | @task m desk step =>
    have differ : ticket ≠ m.ticket := by
      rintro rfl
      simp [Move.isOf] at other
    cases step with
    | @wait waiting =>
      refine ⟨rfl, Or.imp_left fun placed => ?_⟩
      rw [Outbox.holders_wait]
      exact List.mem_append_left _ placed
    | settle _ servable _ =>
      refine ⟨Desk.errand?_finish_of_ne _ differ, Or.imp (fun placed => ?_) fun closed => ?_⟩
      · rw [Desk.outbox_finish, Outbox.holders_put servable]
        exact (List.mem_erase_of_ne differ).2 placed
      · rw [Desk.outbox_finish, Outbox.isOpen_put]
        exact closed
    | giveUp =>
      refine ⟨Desk.errand?_finish_of_ne _ differ, Or.imp (fun placed => ?_) fun closed => ?_⟩
      · rw [Desk.giveUp, Desk.outbox_finish, Outbox.holders_leave]
        exact (List.mem_erase_of_ne differ).2 placed
      · rw [Desk.giveUp, Desk.outbox_finish, Outbox.isOpen_leave]
        exact closed
  | start errand =>
    exact ⟨Desk.errand?_start_of_ne _ errand (Nat.ne_of_lt given), id⟩
  | drain out =>
    obtain ⟨isOpen, -, holders⟩ := Outbox.slots_of_take? out
    refine ⟨rfl, fun placed => ?_⟩
    rw [IsPlaced, holders, isOpen]
    exact placed
  | fill pushed =>
    obtain ⟨isOpen, -, -, holders⟩ := Outbox.slots_of_push? pushed
    refine ⟨rfl, fun placed => ?_⟩
    rw [IsPlaced, holders, isOpen]
    exact placed
  | empty => exact ⟨rfl, id⟩
  | full => exact ⟨rfl, id⟩
  | cancel => exact ⟨rfl, id⟩
  | close => exact ⟨rfl, fun _ => .inr rfl⟩
  | save => exact ⟨rfl, id⟩

end Others

/-! ## The end of a task -/

/-- A task that ends gives back what it has: its permit, and its place in the outbox, which has as
many slots as before. -/
structure GivesBack (t : Trial) (ticket : Ticket) (t' : Trial) : Prop where
  gone : t'.desk.errand? ticket = none
  permit : t'.desk.permits = t.desk.permits + 1
  place : ticket ∉ t'.desk.outbox.holders
  slots : t'.desk.outbox.slots = t.desk.outbox.slots

/-- A task ends with this move, and leaves nothing behind.  There are four reasons. -/
structure Vanishes (t : Trial) (m : Task.Move) (errand : Errand) (t' : Trial) : Prop where
  queue : t'.desk.outbox.queue = t.desk.outbox.queue
  table : t'.desk.table = t.desk.table
  reason : m = .abandon m.ticket ∧ t.isCancelled = true ∨
    m = .refuse m.ticket ∧ t.desk.outbox.isOpen = false ∨
    m = .expire m.ticket ∧ t.desk.outbox.isServable m.ticket = false ∨
    (∃ draw, m = .serve m.ticket draw) ∧ errand.request.bodyAction ≠ errand.action

/-- A task ends with this move, and has settled its errand: its reply is behind all that were queued,
the server is to stop exactly if it granted a shutdown, and the table is as it was settled. -/
structure Delivers (t : Trial) (m : Task.Move) (errand : Errand) (t' : Trial) : Prop where
  agree : errand.request.bodyAction = errand.action
  outcome : ∃ draw settled closes, m = .serve m.ticket draw ∧
    errand.settle draw t.desk.table = .ok settled ∧
    t'.desk.table = settled.table ∧
    t'.desk.outbox.queue =
      t.desk.outbox.queue ++ [⟨errand.sender, settled.verdict.response, closes⟩] ∧
    (closes = true ↔
      errand.action = .shutdown ∧ t.desk.table.has errand.request.session = true)

section End

variable {t t' : Trial} {m : Task.Move} {ticket : Ticket} {errand : Errand}

/-- Who has delivered has not vanished. -/
theorem Delivers.not_vanishes (delivers : t.Delivers m errand t') : ¬ t.Vanishes m errand t' := by
  intro vanishes
  obtain ⟨draw, settled, closes, -, -, -, queue, -⟩ := delivers.outcome
  rw [vanishes.queue] at queue
  simp at queue

theorem GivesBack.of_finish (orderly : t.desk.IsOrderly) {d : Desk}
    (permits : d.permits = t.desk.permits)
    (left : d.outbox.holders = t.desk.outbox.holders.erase ticket)
    (slots : d.outbox.slots = t.desk.outbox.slots) :
    t.GivesBack ticket { t with desk := d.finish ticket } where
  gone := d.errand?_finish_self ticket
  permit := congrArg (· + 1) permits
  place := by
    rw [Desk.outbox_finish, left]
    exact orderly.places.not_mem_erase
  slots := slots

theorem Vanishes.of_giveUp (live : t.desk.errand? m.ticket = some errand)
    (gaveUp : t.desk.GivesUp t.isCancelled m) :
    t.Vanishes m errand { t with desk := t.desk.giveUp m.ticket } := by
  refine ⟨Desk.queue_giveUp _ _, rfl, ?_⟩
  cases gaveUp with
  | @mismatched ticket draw other mismatch found _ unsettled =>
    cases live.symm.trans found
    refine .inr (.inr (.inr ⟨⟨draw, rfl⟩, fun agree => ?_⟩))
    obtain ⟨settled, settling⟩ := Errand.exists_settle_eq_ok_iff.2 agree
    rw [unsettled] at settling
    cases settling
  | abandon _ cancelled => exact .inl ⟨rfl, cancelled⟩
  | refuse _ closed => exact .inr (.inl ⟨rfl, closed⟩)
  | expire _ _ unservable => exact .inr (.inr (.inl ⟨rfl, unservable⟩))

theorem Delivers.of_settle (ticket : Ticket) {draw : Draw} {settled : Settlement}
    (settling : errand.settle draw t.desk.table = .ok settled) :
    t.Delivers (.serve ticket draw) errand
      { t with
        desk := ({ t.desk with
          table := settled.table
          outbox := t.desk.outbox.put ticket (.ofVerdict errand.sender settled.verdict) } :
            Desk).finish ticket } where
  agree := Errand.exists_settle_eq_ok_iff.1 ⟨settled, settling⟩
  outcome := ⟨draw, settled, settled.verdict.isShutDown, rfl, settling, rfl,
    Outbox.queue_put _ _ _, Errand.isShutDown_iff_of_settle settling⟩

/-- A move of a task puts it in line, or ends it. -/
theorem waits_or_ends (orderly : t.desk.IsOrderly) (live : t.desk.errand? m.ticket = some errand)
    (moved : t.step (.task m) = some t') :
    (m = .wait m.ticket ∧ ¬ IsPlaced m.ticket t ∧
      t' = { t with desk := { t.desk with outbox := t.desk.outbox.wait m.ticket } }) ∨
    t.GivesBack m.ticket t' ∧ Xor (t.Vanishes m errand t') (t.Delivers m errand t') := by
  cases Step.of_step moved with
  | @task m desk step =>
    cases step with
    | @wait ticket other found uncancelled isOpen unservable outside =>
      refine .inl ⟨rfl, ?_, rfl⟩
      change ¬ IsPlaced ticket t
      rintro (placed | closed)
      · rcases List.mem_append.1 placed with granted | waits
        · simp [Outbox.isServable, isOpen, granted] at unservable
        · exact outside waits
      · cases isOpen.symm.trans closed
    | @settle ticket draw other settled found servable settling =>
      cases live.symm.trans found
      have delivers := Delivers.of_settle ticket settling
      refine .inr ⟨?_, .inr ⟨delivers, delivers.not_vanishes⟩⟩
      exact .of_finish orderly rfl (Outbox.holders_put servable) (Outbox.slots_put servable)
    | giveUp gaveUp =>
      have vanishes := Vanishes.of_giveUp live gaveUp
      refine .inr ⟨?_, .inl ⟨vanishes, fun delivers => delivers.not_vanishes vanishes⟩⟩
      exact .of_finish orderly rfl (Outbox.holders_leave _ _) (Outbox.slots_leave _ _)

/-- Who gets in line changes nothing but the line. -/
theorem eq_of_wait (moved : t.step (.task (.wait ticket)) = some t') :
    t' = { t with desk := { t.desk with outbox := t.desk.outbox.wait ticket } } := by
  cases Step.of_step moved with
  | task step =>
    cases step with
    | wait => rfl
    | giveUp gaveUp => cases gaveUp

/-- Only a live task moves. -/
theorem exists_errand_of_step (moved : t.step (.task m) = some t') :
    ∃ errand, t.desk.errand? m.ticket = some errand := by
  cases Step.of_step moved with
  | task step =>
    cases step with
    | wait live => exact ⟨_, live⟩
    | settle live => exact ⟨_, live⟩
    | giveUp gaveUp => exact gaveUp.live

/-- A live task can end at any time. -/
theorem exists_end (live : t.desk.errand? ticket = some errand) (draw : Draw) :
    ∃ m, m ∈ [Task.Move.serve ticket draw, .refuse ticket, .expire ticket] ∧
      (t.step (.task m)).isSome := by
  by_cases servable : t.desk.outbox.isServable ticket = true
  · refine ⟨.serve ticket draw, by simp, ?_⟩
    simp [step, Desk.step, live, servable]
  by_cases isOpen : t.desk.outbox.isOpen = true
  · refine ⟨.expire ticket, by simp, ?_⟩
    simp [step, Desk.step, live, servable, isOpen]
  · refine ⟨.refuse ticket, by simp, ?_⟩
    simp [step, Desk.step, live, isOpen]

end End

/-! ## A task that is attended -/

section Attend

variable {t t' : Trial} {ticket : Ticket} {errand : Errand}

/-- Of some moves of tasks, the first that is possible is made. -/
theorem move_eq (t : Trial) (moves : List Task.Move) :
    (t.move moves = t ∧ ∀ m ∈ moves, t.step (.task m) = none) ∨
      ∃ m ∈ moves, t.step (.task m) = some (t.move moves) := by
  unfold move
  cases found : moves.findSome? (t.desk.step t.isCancelled) with
  | none =>
    refine .inl ⟨rfl, fun m member => ?_⟩
    exact Option.map_eq_none_iff.2 (List.findSome?_eq_none_iff.1 found m member)
  | some desk =>
    obtain ⟨m, member, moved⟩ := List.exists_of_findSome?_eq_some found
    exact .inr ⟨m, member, Option.map_eq_some_iff.2 ⟨desk, moved, rfl⟩⟩

theorem exists_run_of_move (t : Trial) (moves : List Task.Move) :
    ∃ made, t.run made = some (t.move moves) ∧ ∀ m ∈ made, ∃ a ∈ moves, m = .task a := by
  rcases t.move_eq moves with ⟨same, -⟩ | ⟨a, member, moved⟩
  · rw [same]
    exact ⟨[], rfl, nofun⟩
  · refine ⟨[.task a], ?_, fun m only => ⟨a, member, List.mem_singleton.1 only⟩⟩
    rw [run_singleton, moved]

/-- A task has ended, or has to wait for a slot. -/
def IsIdle (ticket : Ticket) (t : Trial) : Prop :=
  t.desk.errand? ticket = none ∨
    t.desk.outbox.isOpen = true ∧ t.desk.outbox.isServable ticket = false

/-- A task that has taken its turn has ended, or has to wait. -/
theorem isIdle_turn (orderly : t.desk.IsOrderly) (ticket : Ticket) (draw : Draw) :
    IsIdle ticket (t.turn ticket draw) := by
  unfold turn
  rcases t.move_eq [.serve ticket draw, .refuse ticket, .abandon ticket, .wait ticket] with
    ⟨same, stuck⟩ | ⟨m, member, moved⟩
  · rw [same]
    cases live : t.desk.errand? ticket with
    | none => exact .inl live
    | some errand =>
      obtain ⟨m, member, possible⟩ := exists_end live draw
      simp only [List.mem_cons, List.not_mem_nil, or_false] at member
      rcases member with rfl | rfl | rfl
      · rw [stuck _ (by simp)] at possible
        cases possible
      · rw [stuck _ (by simp)] at possible
        cases possible
      · obtain ⟨u, moved⟩ := Option.isSome_iff_exists.1 possible
        cases Step.of_step moved with
        | task step =>
          cases step with
          | giveUp gaveUp =>
            cases gaveUp with
            | expire _ isOpen unservable => exact .inr ⟨isOpen, unservable⟩
  · have own : m.ticket = ticket := by
      simp only [List.mem_cons, List.not_mem_nil, or_false] at member
      rcases member with rfl | rfl | rfl | rfl <;> rfl
    obtain ⟨errand, live⟩ := exists_errand_of_step moved
    rcases waits_or_ends orderly live moved with ⟨-, unplaced, after⟩ | ⟨back, -⟩
    · rw [own, IsPlaced, not_or, Outbox.holders, List.mem_append, not_or] at unplaced
      obtain ⟨⟨ungranted, -⟩, isOpen⟩ := unplaced
      rw [Bool.not_eq_false] at isOpen
      right
      rw [after, own]
      refine ⟨isOpen, ?_⟩
      simp [Outbox.isServable, Outbox.wait, ungranted]
    · rw [own] at back
      exact .inl back.gone

/-- Patience ends a task that is idle. -/
theorem errand?_expire (orderly : t.desk.IsOrderly) (idle : IsIdle ticket t) :
    (t.move [.expire ticket]).desk.errand? ticket = none := by
  rcases t.move_eq [.expire ticket] with ⟨same, stuck⟩ | ⟨m, member, moved⟩
  · rw [same]
    rcases idle with gone | ⟨isOpen, unservable⟩
    · exact gone
    · have impossible := stuck _ List.mem_cons_self
      simpa [step, Desk.step, isOpen, unservable] using impossible
  · obtain rfl := List.mem_singleton.1 member
    obtain ⟨errand, live⟩ := exists_errand_of_step moved
    rcases waits_or_ends orderly live moved with ⟨waits, -, -⟩ | ⟨back, -⟩
    · cases waits
    · exact back.gone

theorem orderly_of_run {moves : List Move} (orderly : t.desk.IsOrderly)
    (run : t.run moves = some t') : t'.desk.IsOrderly :=
  foldlM_induction (motive := fun _ t' => t'.desk.IsOrderly) orderly
    (fun _ moved orderly => orderly_of_step orderly (.of_step moved)) run

/-- The moves of a turn are those of its task. -/
theorem exists_run_of_turn (t : Trial) (ticket : Ticket) (draw : Draw) :
    ∃ made, t.run made = some (t.turn ticket draw) ∧ ∀ m ∈ made, m.isOf ticket = true := by
  obtain ⟨made, run, own⟩ :=
    t.exists_run_of_move [.serve ticket draw, .refuse ticket, .abandon ticket, .wait ticket]
  refine ⟨made, run, fun m member => ?_⟩
  obtain ⟨a, listed, rfl⟩ := own m member
  simp only [List.mem_cons, List.not_mem_nil, or_false] at listed
  rcases listed with rfl | rfl | rfl | rfl <;> simp [Move.isOf, Task.Move.ticket]

/-- A task that takes its turn, and has no more patience, has ended. -/
theorem errand?_last_turn (orderly : t.desk.IsOrderly) (ticket : Ticket) (draw : Draw) :
    ((t.turn ticket draw).move [.expire ticket]).desk.errand? ticket = none := by
  obtain ⟨made, run, -⟩ := t.exists_run_of_turn ticket draw
  exact errand?_expire (orderly_of_run orderly run) (isIdle_turn orderly ticket draw)

/-- What is done with a task that is attended is a run: it starts, takes its turns, and something
happens between them or not.  At the end it has ended. -/
theorem attend_ends (orderly : t.desk.IsOrderly) (permit : 0 < t.desk.permits) (errand : Errand)
    (draw : Draw) (meanwhile : Option Interruption) :
    let ended := (t.attend errand draw meanwhile).2
    ended.desk.errand? t.desk.next = none ∧
      ∃ moves, t.run (.start errand :: moves) = some ended ∧
        ∀ m ∈ moves, m.isOf t.desk.next = true ∨ ∃ i, m = .interrupt i := by
  intro ended
  let started : Trial :=
    { t with desk := { t.desk with permits := t.desk.permits - 1 }.start errand }
  let turned := started.turn t.desk.next draw
  let hindered := meanwhile.elim turned fun i => (turned.interrupt i).2
  have same : ended = (hindered.turn t.desk.next draw).move [.expire t.desk.next] := by
    cases meanwhile <;> rfl
  have start : t.step (.start errand) = some started := if_pos permit
  obtain ⟨first, firstRun, firstOwn⟩ := started.exists_run_of_turn t.desk.next draw
  obtain ⟨between, betweenRun, others⟩ : ∃ between, turned.run between = some hindered ∧
      ∀ m ∈ between, ∃ i, m = Move.interrupt i := by
    cases meanwhile with
    | none => exact ⟨[], rfl, fun m listed => absurd listed List.not_mem_nil⟩
    | some i => exact ⟨[.interrupt i], rfl, fun m only => ⟨i, List.mem_singleton.1 only⟩⟩
  obtain ⟨second, secondRun, secondOwn⟩ := hindered.exists_run_of_turn t.desk.next draw
  obtain ⟨last, lastRun, lastOwn⟩ :=
    (hindered.turn t.desk.next draw).exists_run_of_move [.expire t.desk.next]
  have untilHindered : t.run ([.start errand] ++ first ++ between) = some hindered := by
    rw [run_append, run_append, run_singleton, start, Option.bind_some, firstRun, Option.bind_some,
      betweenRun]
  have inOrder : hindered.desk.IsOrderly := orderly_of_run orderly untilHindered
  constructor
  · rw [same]
    exact errand?_last_turn inOrder _ draw
  · refine ⟨first ++ between ++ second ++ last, ?_, fun m member => ?_⟩
    · have split : Move.start errand :: (first ++ between ++ second ++ last) =
          [.start errand] ++ first ++ between ++ second ++ last := by
        simp
      rw [split, run_append, run_append, untilHindered, Option.bind_some, secondRun,
        Option.bind_some, lastRun, same]
    · simp only [List.mem_append] at member
      rcases member with ((isFirst | isBetween) | isSecond) | isLast
      · exact .inl (firstOwn m isFirst)
      · exact .inr (others m isBetween)
      · exact .inl (secondOwn m isSecond)
      · obtain ⟨a, listed, rfl⟩ := lastOwn m isLast
        rw [List.mem_singleton.1 listed]
        simp [Move.isOf, Task.Move.ticket]

end Attend

/-! ## A whole run -/

/-- The task waits after these moves: it has made one of them at most, and got in line with it. -/
structure Waits (t : Trial) (ticket : Ticket) (errand : Errand) (moves : List Move)
    (t' : Trial) : Prop where
  run : t.run moves = some t'
  live : t'.desk.errand? ticket = some errand
  own : (moves.filter (·.isOf ticket)).Sublist [.task (.wait ticket)]

/-- The task has ended with one of these moves: it waited before, and has made none since. -/
structure Ends (t : Trial) (ticket : Ticket) (errand : Errand) (first : List Move) (m : Task.Move)
    (rest : List Move) (mid next t' : Trial) : Prop where
  waits : t.Waits ticket errand first mid
  own : m.ticket = ticket
  step : mid.step (.task m) = some next
  run : next.run rest = some t'
  silent : rest.filter (·.isOf ticket) = []
  gone : t'.desk.errand? ticket = none
  back : mid.GivesBack ticket next
  outcome : Xor (mid.Vanishes m errand next) (mid.Delivers m errand next)

/-- Where a task is after a run in which it was live at first. -/
inductive Course (t : Trial) (ticket : Ticket) (errand : Errand) : List Move → Trial → Prop
  | waits {moves : List Move} {t' : Trial} :
    t.Waits ticket errand moves t' →
    (moves.filter (·.isOf ticket) ≠ [] → IsPlaced ticket t') → Course t ticket errand moves t'
  | ends {first rest : List Move} {m : Task.Move} {mid next t' : Trial} :
    t.Ends ticket errand first m rest mid next t' →
    Course t ticket errand (first ++ .task m :: rest) t'

section Run

variable {t mid t' : Trial} {ticket : Ticket} {errand : Errand} {moves : List Move} {m : Move}

theorem run_snoc (before : t.run moves = some mid) (moved : mid.step m = some t') :
    t.run (moves ++ [m]) = some t' := by
  rw [run_append, before, Option.bind_some, run_singleton, moved]

/-- One more move. -/
theorem Course.of_step (course : t.Course ticket errand moves mid) (orderly : mid.desk.IsOrderly)
    (given : ticket < mid.desk.next) (moved : mid.step m = some t') :
    t.Course ticket errand (moves ++ [m]) t' := by
  have one := Step.of_step moved
  cases course with
  | waits waits placed =>
    cases own : m.isOf ticket with
    | false =>
      obtain ⟨errand_eq, keeps⟩ := one.frame own given
      have same : (moves ++ [m]).filter (·.isOf ticket) = moves.filter (·.isOf ticket) := by
        simp [own]
      refine .waits ⟨run_snoc waits.run moved, ?_, ?_⟩ ?_
      · rw [errand_eq]
        exact waits.live
      · rw [same]
        exact waits.own
      · rw [same]
        exact fun some => keeps (placed some)
    | true =>
      obtain ⟨a, rfl, rfl⟩ := Move.exists_of_isOf own
      rcases waits_or_ends orderly waits.live moved with ⟨same, unplaced, rfl⟩ | ⟨back, outcome⟩
      · -- without a place it has not been in line before
        have none : moves.filter (·.isOf a.ticket) = [] := Decidable.not_not.1 (mt placed unplaced)
        have first : (moves ++ [Move.task a]).filter (·.isOf a.ticket) = [.task (.wait a.ticket)] := by
          rw [List.filter_append, none, ← same]
          simp [Move.isOf]
        refine .waits ⟨run_snoc waits.run moved, waits.live, ?_⟩ fun _ => .inl ?_
        · rw [first]
        · rw [Outbox.holders_wait]
          exact List.mem_append_right _ (List.mem_singleton.2 rfl)
      · exact .ends ⟨waits, rfl, moved, rfl, rfl, back.gone, back, outcome⟩
  | @ends first rest a last next _ ends =>
    -- a task that has ended has no move left
    have other : m.isOf ticket = false := by
      by_contra own
      rw [Bool.not_eq_false] at own
      obtain ⟨b, rfl, rfl⟩ := Move.exists_of_isOf own
      obtain ⟨errand', live⟩ := exists_errand_of_step moved
      cases ends.gone.symm.trans live
    obtain ⟨errand_eq, -⟩ := one.frame other given
    rw [List.append_assoc, List.cons_append]
    refine .ends { ends with run := run_snoc ends.run moved, silent := ?_, gone := ?_ }
    · rw [List.filter_append, ends.silent]
      simp [other]
    · rw [errand_eq]
      exact ends.gone

theorem Course.of_run (orderly : t.desk.IsOrderly) (live : t.desk.errand? ticket = some errand)
    (run : t.run moves = some t') :
    t'.desk.IsOrderly ∧ ticket < t'.desk.next ∧ t.Course ticket errand moves t' := by
  refine foldlM_induction (motive := fun moves t' => t'.desk.IsOrderly ∧ ticket < t'.desk.next ∧
    t.Course ticket errand moves t') ?_ ?_ run
  · have given := orderly.given ticket (Desk.ticket_mem_of_errand? live)
    exact ⟨orderly, given, .waits ⟨rfl, live, List.nil_sublist _⟩ fun none => absurd rfl none⟩
  · rintro moves m mid after - moved ⟨orderly, given, course⟩
    have one := Step.of_step moved
    exact ⟨orderly_of_step orderly one, Nat.lt_of_lt_of_le given one.next_le,
      course.of_step orderly given moved⟩

/-! ## While nobody else queues replies -/

/-- Who waits leaves the queue and the table alone, and others take replies out. -/
theorem Step.still (h : Step t m t')
    (quiet : m = .task (.wait ticket) ∨ ∃ i, m = .interrupt i) :
    seeTaken t m t' ++ t'.desk.outbox.queue = t.desk.outbox.queue ∧
      t'.desk.table = t.desk.table ∧ t'.desk.permits = t.desk.permits := by
  rcases quiet with rfl | ⟨i, rfl⟩
  · cases h with
    | task step =>
      cases step with
      | wait => exact ⟨rfl, rfl, rfl⟩
      | giveUp gaveUp => cases gaveUp
  · cases h with
    | @drain reply outbox out =>
      refine ⟨?_, rfl, rfl⟩
      have first : t.drainOne.1 = some reply := by simp only [Trial.drainOne, out]
      rw [Outbox.queue_of_take?_eq_some out]
      simp only [seeTaken, interrupt, first, Option.toList_some, List.singleton_append]
    | empty nothing =>
      have none : t.drainOne.1 = none := by simp only [Trial.drainOne, nothing]
      refine ⟨?_, rfl, rfl⟩
      simp only [seeTaken, interrupt, none, Option.toList_none, List.nil_append]
    | cancel => exact ⟨rfl, rfl, rfl⟩
    | close => exact ⟨rfl, rfl, rfl⟩

theorem still_of_run (run : t.run moves = some t')
    (quiet : ∀ m ∈ moves, m = .task (.wait ticket) ∨ ∃ i, m = .interrupt i) :
    t.taken moves ++ t'.desk.outbox.queue = t.desk.outbox.queue ∧
      t'.desk.table = t.desk.table ∧ t'.desk.permits = t.desk.permits := by
  refine foldlM_induction (motive := fun moves t' =>
    (∀ m ∈ moves, m = .task (.wait ticket) ∨ ∃ i, m = .interrupt i) →
    t.taken moves ++ t'.desk.outbox.queue = t.desk.outbox.queue ∧
      t'.desk.table = t.desk.table ∧ t'.desk.permits = t.desk.permits) ?_ ?_ run quiet
  · exact fun _ => ⟨rfl, rfl, rfl⟩
  · intro moves m mid after before moved ih quiet
    obtain ⟨queue, table, permits⟩ := ih fun m member => quiet m (List.mem_append_left _ member)
    have last := quiet m (List.mem_append_right _ (List.mem_singleton.2 rfl))
    obtain ⟨queue', table', permits'⟩ := (Step.of_step moved).still last
    refine ⟨?_, table'.trans table, permits'.trans permits⟩
    rw [taken, notedAlong_snoc _ before moved, List.append_assoc, queue']
    exact queue

/-- A task that has at most got in line, and others who take replies out, close or cancel. -/
theorem still_of_own (surroundings : ∀ m ∈ moves, m.isOf ticket = true ∨ ∃ i, m = .interrupt i)
    (own : (moves.filter (·.isOf ticket)).Sublist [.task (.wait ticket)]) :
    ∀ m ∈ moves, m = .task (.wait ticket) ∨ ∃ i, m = .interrupt i := by
  intro m member
  rcases surroundings m member with isOwn | other
  · exact .inl (List.mem_singleton.1 (own.subset (List.mem_filter.2 ⟨member, isOwn⟩)))
  · exact .inr other

theorem taken_of_ends {first rest : List Move} {a : Task.Move} {next : Trial}
    (ends : t.Ends ticket errand first a rest mid next t') :
    t.taken (first ++ .task a :: rest) = t.taken first ++ next.taken rest := by
  rw [taken, notedAlong_append _ ends.waits.run, notedAlong, ends.step]
  rfl

end Run

/-- **A task is all or nothing.**  Take a task that is live in some trial, whatever the outbox holds
and whether it is open, and any run from there.

* After the run it waits still, and ends with its next turn if its patience is over by then; or it
  has ended with one move.  Before that it has got in line at most, and after it the task makes no
  move.  With that move it has given back its permit and its place, and either leaves no trace,
  since it was cancelled, found the outbox closed, ran out of patience before there was a slot, or
  had a body that does not belong to its action; or it has settled its errand and queued its reply
  behind all that were queued.
* Who gets in line changes nothing but the line.
* If all that happens meanwhile is that replies are taken out, the outbox is closed and the tasks
  are cancelled, then what was taken out and what is still queued is what was queued at first, with
  the reply behind it if there is one, and the table is as it was, or as it was settled. -/
theorem task_is_all_or_nothing {t t' : Trial} {ticket : Ticket} {errand : Errand}
    {moves : List Move} (orderly : t.desk.IsOrderly) (live : t.desk.errand? ticket = some errand)
    (run : t.run moves = some t') :
    ((t.Waits ticket errand moves t' ∧
        ∀ draw, ((t'.turn ticket draw).move [.expire ticket]).desk.errand? ticket = none) ∨
      ∃ first m rest mid next, moves = first ++ .task m :: rest ∧
        t.Ends ticket errand first m rest mid next t') ∧
    (∀ u u' : Trial, u.step (.task (.wait ticket)) = some u' →
      u' = { u with desk := { u.desk with outbox := u.desk.outbox.wait ticket } }) ∧
    ((∀ m ∈ moves, m.isOf ticket = true ∨ ∃ i, m = .interrupt i) →
      let queued := t.taken moves ++ t'.desk.outbox.queue
      (t'.desk.errand? ticket = some errand ∧ queued = t.desk.outbox.queue ∧
        t'.desk.table = t.desk.table ∧ t'.desk.permits = t.desk.permits) ∨
      t'.desk.errand? ticket = none ∧ t'.desk.permits = t.desk.permits + 1 ∧
        (queued = t.desk.outbox.queue ∧ t'.desk.table = t.desk.table ∨
          errand.request.bodyAction = errand.action ∧
          ∃ draw settled closes, errand.settle draw t.desk.table = .ok settled ∧
            t'.desk.table = settled.table ∧
            queued =
              t.desk.outbox.queue ++ [⟨errand.sender, settled.verdict.response, closes⟩] ∧
            (closes = true ↔
              errand.action = .shutdown ∧ t.desk.table.has errand.request.session = true))) := by
  obtain ⟨inOrder, -, course⟩ := Course.of_run orderly live run
  cases course with
  | waits waits _ =>
    refine ⟨.inl ⟨waits, errand?_last_turn inOrder ticket⟩, fun _ _ => eq_of_wait,
      fun surroundings => .inl ⟨waits.live, ?_⟩⟩
    exact still_of_run run (still_of_own surroundings waits.own)
  | @ends first rest m mid next _ ends =>
    refine ⟨.inr ⟨first, m, rest, mid, next, rfl, ends⟩, fun _ _ => eq_of_wait,
      fun surroundings => .inr ⟨ends.gone, ?_⟩⟩
    have before := still_of_run ends.waits.run (still_of_own
      (fun m member => surroundings m (List.mem_append_left _ member)) ends.waits.own)
    have later := still_of_run ends.run (still_of_own
      (fun m member => surroundings m (List.mem_append_right _ (List.mem_cons_of_mem _ member)))
      (ends.silent ▸ List.nil_sublist _))
    obtain ⟨queue, table, permits⟩ := before
    obtain ⟨queue', table', permits'⟩ := later
    rw [taken_of_ends ends, List.append_assoc, queue', table', permits', ends.back.permit, permits,
      ← queue, ← table]
    refine ⟨rfl, ?_⟩
    rcases ends.outcome with ⟨vanishes, -⟩ | ⟨delivers, -⟩
    · exact .inl ⟨congrArg _ vanishes.queue, vanishes.table⟩
    · obtain ⟨draw, settled, closes, -, settling, stored, put, grants⟩ := delivers.outcome
      refine .inr ⟨delivers.agree, draw, settled, closes, settling, stored, ?_, grants⟩
      rw [put, List.append_assoc]

/-- A login of Alice. -/
def login : Errand := .ofRequest (.loopback 9000) (.ofCredentials "alice" "pw")

/-- The login has just started in front of a full outbox. -/
def crowded : Trial :=
  let held : Reply := ⟨.loopback 9001, .refusal (.failed .shutdown .absent "busy"), false⟩
  let filled := ((ofCapacity 1).fill held).2
  { filled with desk := { filled.desk with permits := 0 }.start login }

/-- The login is granted a slot, and takes it although the tasks are cancelled by then. -/
def raced : List Move :=
  [.task (.wait 0), .interrupt .drainOne, .interrupt .cancel, .task (.serve 0 ⟨⟨"fresh"⟩, 1⟩)]

theorem task_is_all_or_nothing_of_raced :
    ∃ t', crowded.desk.IsOrderly ∧ crowded.desk.errand? 0 = some login ∧
      crowded.run raced = some t' ∧ t'.desk.table.ids = [⟨"fresh"⟩] ∧ t'.desk.permits = 0 + 1 ∧
      ∃ draw : Draw, crowded.taken raced ++ t'.desk.outbox.queue =
        crowded.desk.outbox.queue ++
          [⟨.loopback 9000, .login (.ok .login draw.fresh) "Welcome alice", false⟩] := by
  have orderly : crowded.desk.IsOrderly := ⟨by decide, by decide, by decide, by decide⟩
  have live : crowded.desk.errand? 0 = some login := rfl
  have surroundings : ∀ m ∈ raced, m.isOf 0 = true ∨ ∃ i, m = .interrupt i := by
    simp [raced, Move.isOf, Task.Move.ticket]
  have seen : (crowded.run raced).map (fun t' => (t'.desk.errand? 0, t'.desk.table.ids)) =
      some (none, [⟨"fresh"⟩]) := by decide +kernel
  obtain ⟨t', run, same⟩ := Option.map_eq_some_iff.1 seen
  obtain ⟨gone, ids⟩ := Prod.mk.inj same
  rcases (task_is_all_or_nothing orderly live run).2.2 surroundings with
    ⟨waits, -⟩ | ⟨-, permits, ⟨-, table⟩ | ⟨-, draw, settled, closes, settling, -, put, grants⟩⟩
  · cases gone.symm.trans waits
  · rw [table] at ids
    cases ids
  · have lasts : closes = false :=
      Bool.eq_false_iff.2 fun closing => absurd (grants.1 closing).1 (by decide)
    cases settling
    rw [lasts] at put
    exact ⟨t', orderly, live, run, ids, permits, draw, put⟩

end Trial

end DatagramSession.Server
