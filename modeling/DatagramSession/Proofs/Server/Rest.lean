import DatagramSession.Proofs.Server.Stages
import Mathlib.Algebra.GroupWithZero.Nat
import Mathlib.Algebra.Order.BigOperators.Group.List
import Mathlib.Algebra.Order.Group.Nat

/-!
# A stopping server comes to rest

`Server.load` bounds the moves that the parts of a server can still make of themselves, whatever the
order in which they make them: each of their moves lightens it, and of what clients and owners do
only a datagram and a reply of an owner add to it.  A task weighs less once it has a place in the
line, and keeps it until it ends; a reply weighs less than the task that queues it; and a datagram
weighs more than all that can come of it.

A server whose parts are cancelled can always go on until it has stopped: the reader and the tasks
give up wherever they wait, the writer takes what is queued, and no part waits for another that
waits for it.

* `own_add_load_le_of_step`: what one move adds to the load and takes from it.
* `Supervised.own_add_load_le_of_run`: the same along a run, under supervision.
* `Supervised.IsQuiet.stopped`: a cancelled server in which nobody can move has stopped.
* `Supervised.comes_to_rest`: both together.
-/

namespace DatagramSession.Server

/-! ## Whose moves, and what they add -/

/-- A part makes the move, and not a client or an owner. -/
def Move.isOwn : Move → Bool
  | .arrive _ | .stop | .save .. | .push _ | .letGo | .join => false
  | _ => true

/-- A part makes the move, and neither the socket nor the patience of a task has failed. -/
def Move.isSteady : Move → Bool
  | .failRead | .failWrite | .task (.expire _) => false
  | m => m.isOwn

/-- What a move of a client or of an owner adds to the load. -/
def Move.burden : Move → Nat
  | .arrive _ => 8
  | .push _ => 3
  | _ => 0

/-! ## The load of the tasks -/

/-- The ticket waits in the line, or has been granted a slot. -/
def Outbox.HasPlace (b : Outbox) (ticket : Ticket) : Prop := ticket ∈ b.line ∨ ticket ∈ b.granted

namespace Outbox

variable {b : Outbox} {ticket other : Ticket}

/-- A slot that comes back takes nobody's place: it moves the first in the line. -/
theorem HasPlace.release (place : b.HasPlace other) : b.release.HasPlace other := by
  unfold Outbox.release
  split
  · exact place
  · next first rest line =>
    rcases place with waits | granted
    · rw [line] at waits
      rcases List.mem_cons.1 waits with rfl | later
      · exact .inr (List.mem_append_right _ (List.mem_singleton.2 rfl))
      · exact .inl later
    · exact .inr (List.mem_append_left _ granted)

theorem HasPlace.wait (place : b.HasPlace other) : (b.wait ticket).HasPlace other :=
  place.imp_left (List.mem_append_left _)

/-- Who gives up takes nobody else's place. -/
theorem HasPlace.leave (place : b.HasPlace other) (differ : other ≠ ticket) :
    (b.leave ticket).HasPlace other := by
  unfold Outbox.leave
  split
  · have kept : ({ b with granted := b.granted.erase ticket } : Outbox).HasPlace other :=
      place.imp_right (List.mem_erase_of_ne differ).2
    exact kept.release
  · exact place.imp_left (List.mem_erase_of_ne differ).2

theorem HasPlace.put {reply : Reply} (place : b.HasPlace other) (differ : other ≠ ticket) :
    (b.put ticket reply).HasPlace other := by
  unfold Outbox.put
  split
  · exact place.imp_right (List.mem_erase_of_ne differ).2
  · exact place

/-- The writer leaves everybody in place. -/
theorem keeps_of_take? {b' : Outbox} {reply : Reply} (taken : b.take? = some (reply, b')) :
    b'.isOpen = b.isOpen ∧ ∀ other, b.HasPlace other → b'.HasPlace other := by
  unfold Outbox.take? at taken
  split at taken
  · cases taken
  · cases taken
    exact ⟨isOpen_release _, fun other place => HasPlace.release place⟩

theorem keeps_of_push? {b' : Outbox} {reply : Reply} (pushed : b.push? reply = some b') :
    b'.isOpen = b.isOpen ∧ ∀ other, b.HasPlace other → b'.HasPlace other := by
  unfold Outbox.push? at pushed
  split at pushed
  · cases pushed
    exact ⟨rfl, fun other place => place⟩
  · cases pushed

end Outbox

namespace Desk

variable {d : Desk}

theorem taskLoad_le (d : Desk) (t : Task) : d.taskLoad t ≤ 5 := by
  unfold taskLoad
  split <;> omega

theorem le_taskLoad (d : Desk) (t : Task) : 4 ≤ d.taskLoad t := by
  unfold taskLoad
  split <;> omega

/-- A task has yet to get in line if the outbox is open and has no place for it. -/
theorem taskLoad_eq_five_iff {t : Task} :
    d.taskLoad t = 5 ↔ d.outbox.isOpen = true ∧ ¬ d.outbox.HasPlace t.ticket := by
  unfold taskLoad Outbox.HasPlace
  split
  · next waits =>
    simp only [Bool.and_eq_true, decide_eq_true_eq] at waits
    tauto
  · next placed =>
    simp only [Bool.and_eq_true, decide_eq_true_eq] at placed
    have different : ¬ (4 = 5) := by omega
    tauto

/-- A task that keeps its place weighs no more. -/
theorem taskLoad_le_of_keeps {d d' : Desk} {t : Task}
    (opened : d'.outbox.isOpen = d.outbox.isOpen)
    (keeps : d.outbox.HasPlace t.ticket → d'.outbox.HasPlace t.ticket) :
    d'.taskLoad t ≤ d.taskLoad t := by
  by_cases five : d'.taskLoad t = 5
  · obtain ⟨isOpen, outside⟩ := taskLoad_eq_five_iff.1 five
    rw [opened] at isOpen
    have before : d.taskLoad t = 5 := taskLoad_eq_five_iff.2 ⟨isOpen, mt keeps outside⟩
    omega
  · have most := taskLoad_le d' t
    have least := le_taskLoad d t
    omega

theorem load_eq_sum (d : Desk) : d.load = (d.tasks.map d.taskLoad).sum := by
  unfold load
  induction d.tasks with
  | nil => rfl
  | cons t tasks ih => simp only [List.foldr_cons, List.map_cons, List.sum_cons, ih]

/-- Tasks that keep their places weigh no more. -/
theorem load_le_of_keeps {d d' : Desk} (tasks : d'.tasks = d.tasks)
    (opened : d'.outbox.isOpen = d.outbox.isOpen)
    (keeps : ∀ ticket, d.outbox.HasPlace ticket → d'.outbox.HasPlace ticket) :
    d'.load ≤ d.load := by
  rw [load_eq_sum, load_eq_sum, tasks]
  exact List.sum_le_sum fun t _ => taskLoad_le_of_keeps opened (keeps t.ticket)

/-- Tasks that nobody lets get in line any more weigh as little as they can. -/
theorem load_le_of_closed {d d' : Desk} (tasks : d'.tasks = d.tasks)
    (closed : d'.outbox.isOpen = false) : d'.load ≤ d.load := by
  rw [load_eq_sum, load_eq_sum, tasks]
  refine List.sum_le_sum fun t _ => ?_
  have four : d'.taskLoad t ≠ 5 := by simp [taskLoad_eq_five_iff, closed]
  have most := taskLoad_le d' t
  have least := le_taskLoad d t
  omega

theorem load_start_le (d : Desk) (errand : Errand) : (d.start errand).load ≤ d.load + 5 := by
  have same : (d.start errand).taskLoad = d.taskLoad := rfl
  have last := taskLoad_le d ⟨d.next, errand⟩
  rw [load_eq_sum, load_eq_sum, same]
  simp only [start, List.map_append, List.sum_append, List.map_cons, List.map_nil, List.sum_cons,
    List.sum_nil]
  omega

/-- A live task that ends takes its load with it, whatever is left of the others'. -/
theorem sum_filter_add_le {tasks : List Task} {ticket : Ticket} {errand : Errand}
    {before after : Task → Nat} (live : ⟨ticket, errand⟩ ∈ tasks)
    (least : ∀ t, 4 ≤ before t) (others : ∀ t, t.ticket ≠ ticket → after t ≤ before t) :
    ((tasks.filter (·.ticket ≠ ticket)).map after).sum + 4 ≤ (tasks.map before).sum := by
  have rest (tasks : List Task) :
      ((tasks.filter (·.ticket ≠ ticket)).map after).sum ≤ (tasks.map before).sum := by
    induction tasks with
    | nil => exact Nat.le_refl 0
    | cons t tasks ih =>
      rw [List.map_cons, List.sum_cons]
      by_cases same : t.ticket = ticket
      · rw [List.filter_cons_of_neg (by simpa using same)]
        omega
      · have lighter := others t same
        rw [List.filter_cons_of_pos (by simpa using same), List.map_cons, List.sum_cons]
        omega
  obtain ⟨front, back, split⟩ := List.append_of_mem live
  have ended := least ⟨ticket, errand⟩
  have first := rest front
  have last := rest back
  rw [split, List.filter_append, List.filter_cons_of_neg (by simp), List.map_append,
    List.map_append, List.map_cons, List.sum_append, List.sum_append, List.sum_cons]
  omega

/-- A task ends, and the others keep their places. -/
theorem load_finish_le (d' : Desk) {ticket : Ticket} {errand : Errand}
    (live : d.errand? ticket = some errand) (tasks : d'.tasks = d.tasks)
    (opened : d'.outbox.isOpen = d.outbox.isOpen)
    (keeps : ∀ other, other ≠ ticket → d.outbox.HasPlace other → d'.outbox.HasPlace other) :
    (d'.finish ticket).load + 4 ≤ d.load := by
  have same : (d'.finish ticket).taskLoad = d'.taskLoad := rfl
  rw [load_eq_sum, load_eq_sum, same, finish, tasks]
  refine sum_filter_add_le (mem_tasks_of_errand? live) (le_taskLoad d) fun t differ => ?_
  exact taskLoad_le_of_keeps opened (keeps _ differ)

theorem load_giveUp_le {ticket : Ticket} {errand : Errand} (live : d.errand? ticket = some errand) :
    (d.giveUp ticket).load + 4 ≤ d.load :=
  load_finish_le _ live rfl (Outbox.isOpen_leave _ _) fun _ differ place => place.leave differ

/-- A task that gets in line weighs less from then on. -/
theorem load_wait_lt {ticket : Ticket} {errand : Errand} (live : d.errand? ticket = some errand)
    (isOpen : d.outbox.isOpen = true) (unservable : d.outbox.isServable ticket = false)
    (outside : ticket ∉ d.outbox.line) :
    ({ d with outbox := d.outbox.wait ticket } : Desk).load < d.load := by
  have placed : (d.outbox.wait ticket).HasPlace ticket :=
    .inl (List.mem_append_right _ (List.mem_singleton.2 rfl))
  have unplaced : ¬ d.outbox.HasPlace ticket := by
    rintro (waits | granted)
    · exact outside waits
    · simp [Outbox.isServable, isOpen, granted] at unservable
  have before : d.taskLoad ⟨ticket, errand⟩ = 5 := taskLoad_eq_five_iff.2 ⟨isOpen, unplaced⟩
  have after : ({ d with outbox := d.outbox.wait ticket } : Desk).taskLoad ⟨ticket, errand⟩ ≠ 5 :=
    fun five => (taskLoad_eq_five_iff.1 five).2 placed
  have most := taskLoad_le { d with outbox := d.outbox.wait ticket } ⟨ticket, errand⟩
  rw [load_eq_sum, load_eq_sum]
  refine List.sum_lt_sum _ _ (fun t _ => ?_) ⟨_, mem_tasks_of_errand? live, by omega⟩
  exact taskLoad_le_of_keeps rfl fun place => place.wait

/-! ### Tasks and replies together -/

/-- The load of the tasks and of the replies that they have queued. -/
def weight (d : Desk) : Nat := d.load + 3 * d.outbox.queue.length

theorem weight_start_le (d : Desk) (errand : Errand) :
    (d.start errand).weight ≤ d.weight + 5 := by
  have tasks := load_start_le d errand
  have queue : (d.start errand).outbox.queue = d.outbox.queue := rfl
  unfold weight
  rw [queue]
  omega

theorem weight_take_le {reply : Reply} {outbox : Outbox}
    (taken : d.outbox.take? = some (reply, outbox)) :
    ({ d with outbox := outbox } : Desk).weight + 3 ≤ d.weight := by
  obtain ⟨opened, keeps⟩ := Outbox.keeps_of_take? taken
  have tasks : ({ d with outbox := outbox } : Desk).load ≤ d.load :=
    load_le_of_keeps rfl opened keeps
  have queue := congrArg List.length (Outbox.queue_of_take?_eq_some taken)
  rw [List.length_cons] at queue
  simp only [weight]
  omega

theorem weight_push_le {reply : Reply} {outbox : Outbox}
    (pushed : d.outbox.push? reply = some outbox) :
    ({ d with outbox := outbox } : Desk).weight ≤ d.weight + 3 := by
  obtain ⟨opened, keeps⟩ := Outbox.keeps_of_push? pushed
  have tasks : ({ d with outbox := outbox } : Desk).load ≤ d.load :=
    load_le_of_keeps rfl opened keeps
  have queue := congrArg List.length (Outbox.queue_of_push?_eq_some pushed)
  rw [List.length_append, List.length_singleton] at queue
  simp only [weight]
  omega

/-- Without its writer the desk weighs no more. -/
theorem weight_discard_le (d : Desk) :
    ({ d with outbox := d.outbox.discard } : Desk).weight ≤ d.weight := by
  have tasks : ({ d with outbox := d.outbox.discard } : Desk).load ≤ d.load :=
    load_le_of_closed rfl rfl
  have queue : d.outbox.discard.queue.length = 0 := rfl
  simp only [weight]
  omega

/-- A move of a task lightens the desk: a task weighs more than its reply. -/
theorem weight_lt_of_step {d' : Desk} {isCancelled : Bool} {m : Task.Move}
    (h : d.Step isCancelled m d') : d'.weight < d.weight := by
  unfold weight
  cases h with
  | wait live _ isOpen unservable outside =>
    have lighter := load_wait_lt live isOpen unservable outside
    rw [Outbox.queue_wait]
    omega
  | @settle ticket draw errand settled live =>
    have lighter := load_finish_le { d with
        table := settled.table
        outbox := d.outbox.put ticket (.ofVerdict errand.sender settled.verdict) }
      live rfl (Outbox.isOpen_put _ _ _) fun _ differ place => place.put differ
    rw [Desk.outbox_finish, Outbox.queue_put, List.length_append, List.length_singleton]
    omega
  | giveUp gaveUp =>
    obtain ⟨errand, live⟩ := gaveUp.live
    have lighter := load_giveUp_le live
    rw [queue_giveUp]
    omega

end Desk

/-! ## The load of the server, part by part -/

/-- The load of the reader and of the datagrams that it has yet to read. -/
def intakeLoad (reading : Reading) (inbox : List Datagram) : Nat :=
  (if reading = .ended then 0 else 8 * inbox.length) + reading.load

/-- A server that has yet to stop has one more move to make. -/
def Lifecycle.load (l : Lifecycle) : Nat := if l.stage = .stopped then 0 else 1

theorem load_eq (s : Server) :
    s.load = intakeLoad s.reading s.inbox + s.desk.weight + s.writing.load + s.lifecycle.load := by
  unfold load intakeLoad Desk.weight Lifecycle.load stage
  omega

/-- A stop does not set the last stage. -/
theorem Lifecycle.load_stopped (l : Lifecycle) : l.stopped.load = l.load := by
  unfold Lifecycle.stopped Lifecycle.stop
  split
  · next early =>
    have running : l.stage ≠ .stopped := by
      intro stopped
      rw [stopped] at early
      exact absurd early (by decide)
    rw [load, load, if_neg running]
    rfl
  · rfl

/-- **One move.**  A part's move lightens the load, and no other move adds more than its burden. -/
theorem own_add_load_le_of_step {s s' : Server} {m : Move} (h : Step s m s') :
    m.isOwn.toNat + s'.load ≤ s.load + m.burden := by
  rw [load_eq, load_eq]
  cases h with
  | arrive datagram =>
    have inbox :
        intakeLoad s.reading (s.inbox ++ [datagram]) ≤ intakeLoad s.reading s.inbox + 8 := by
      unfold intakeLoad
      rw [List.length_append, List.length_singleton]
      split <;> omega
    simp only [Move.isOwn, Move.burden, Bool.toNat_false]
    omega
  | stop =>
    simp only [Move.isOwn, Move.burden, Lifecycle.load_stopped, Bool.toNat_false]
    omega
  | save => exact Nat.le_of_eq (Nat.zero_add _)
  | push _ pushed =>
    have desk := Desk.weight_push_le pushed
    simp only [Move.isOwn, Move.burden, Bool.toNat_false]
    omega
  | letGo => exact Nat.le_of_eq (Nat.zero_add _)
  | join => exact Nat.le_of_eq (Nat.zero_add _)
  | read ready inbox =>
    simp only [ready, inbox, intakeLoad, Reading.load, Move.isOwn, Move.burden, List.length_cons,
      reduceCtorEq, if_false, Bool.toNat_true]
    omega
  | drop ready inbox =>
    simp only [ready, inbox, intakeLoad, Reading.load, Move.isOwn, Move.burden, List.length_cons,
      reduceCtorEq, if_false, Bool.toNat_true]
    omega
  | failRead ready =>
    simp only [ready, intakeLoad, Reading.load, Move.isOwn, Move.burden, Lifecycle.load_stopped,
      reduceCtorEq, if_false, if_true, Bool.toNat_true]
    omega
  | accept admitting =>
    have desk : ({ s.desk with permits := s.desk.permits - 1 } : Desk).weight = s.desk.weight := rfl
    simp only [admitting, intakeLoad, Reading.load, Move.isOwn, Move.burden,
      reduceCtorEq, if_false, Bool.toNat_true, desk]
    omega
  | @start errand admitted =>
    have desk := s.desk.weight_start_le errand
    simp only [admitted, intakeLoad, Reading.load, Move.isOwn, Move.burden,
      reduceCtorEq, if_false, Bool.toNat_true]
    omega
  | quit waits =>
    have reader : 1 ≤ s.reading.load := by
      rcases waits with ready | ⟨errand, admitting⟩
      · simp [ready, Reading.load]
      · simp [admitting, Reading.load]
    have before : 1 ≤ intakeLoad s.reading s.inbox := Nat.le_add_left_of_le reader
    have after : intakeLoad .ended s.inbox = 0 := rfl
    simp only [after, Move.isOwn, Move.burden, Bool.toNat_true]
    omega
  | task step =>
    have desk := Desk.weight_lt_of_step step
    simp only [Move.isOwn, Move.burden, Bool.toNat_true]
    omega
  | take ready taken =>
    have desk := Desk.weight_take_le taken
    simp only [ready, Writing.load, Move.isOwn, Move.burden, Bool.toNat_true]
    omega
  | skip ready taken =>
    have desk := Desk.weight_take_le taken
    simp only [ready, Writing.load, Move.isOwn, Move.burden, Bool.toNat_true]
    omega
  | @write datagram closes busy =>
    have life : (if closes then s.lifecycle.stopped else s.lifecycle).load = s.lifecycle.load := by
      cases closes with
      | false => rfl
      | true => exact Lifecycle.load_stopped _
    simp only [busy, life, Writing.load, Move.isOwn, Move.burden, Bool.toNat_true]
    omega
  | failWrite busy =>
    have desk := s.desk.weight_discard_le
    simp only [busy, endWriting, Lifecycle.load_stopped, Writing.load, Move.isOwn, Move.burden,
      Bool.toNat_true]
    omega
  | finish ready =>
    have desk := s.desk.weight_discard_le
    simp only [ready, endWriting, Writing.load, Move.isOwn, Move.burden, Bool.toNat_true]
    omega
  | retire _ _ running =>
    have life : s.lifecycle.load = 1 := if_neg running
    have last : ({ s.lifecycle with stage := .stopped } : Lifecycle).load = 0 := if_pos rfl
    simp only [life, last, Move.isOwn, Move.burden, Bool.toNat_true]
    omega

/-- A steady move lightens the load. -/
theorem Step.load_lt {s s' : Server} {m : Move} (h : Step s m s') (steady : m.isSteady = true) :
    s'.load < s.load := by
  have own : m.isOwn = true ∧ m.burden = 0 := by
    cases m <;> first | exact ⟨rfl, rfl⟩ | cases steady
  have lighter := own_add_load_le_of_step h
  rw [own.1, own.2, Bool.toNat_true] at lighter
  omega

/-! ## Under supervision -/

/-- What the supervisor has yet to do. -/
def Supervision.load : Supervision → Nat
  | reader => 2
  | writer => 1
  | nothing => 0

/-- The permits that the reader held are nobody's burden. -/
theorem load_abortReading_lt {s : Server} (live : s.reading ≠ .ended) :
    s.abortReading.load < s.load := by
  have reader : 1 ≤ s.reading.load := by
    cases reading : s.reading with
    | ended => contradiction
    | _ => simp [Reading.load]
  have before : 1 ≤ intakeLoad s.reading s.inbox := Nat.le_add_left_of_le reader
  have after (inbox : List Datagram) : intakeLoad .ended inbox = 0 := rfl
  have desk : s.abortReading.desk.weight = s.desk.weight := by
    rw [desk_abortReading]
    rfl
  rw [load_eq, load_eq, reading_abortReading, writing_abortReading, lifecycle_abortReading, after,
    desk]
  omega

theorem load_endWriting_lt {s : Server} (live : s.writing ≠ .ended) :
    s.endWriting.load < s.load := by
  have desk := s.desk.weight_discard_le
  have writer : 1 ≤ s.writing.load := by
    cases writing : s.writing with
    | ended => contradiction
    | _ => simp [Writing.load]
  have after : Writing.ended.load = 0 := rfl
  simp only [load_eq, endWriting, after]
  omega

namespace Supervised

/-- A part or the supervisor makes the move, and not a client or an owner. -/
def Move.isOwn : Move → Bool
  | .part m => m.isOwn
  | .handle .. => false
  | _ => true

/-- A part or the supervisor makes the move, and nothing has failed. -/
def Move.isSteady : Move → Bool
  | .part m => m.isSteady
  | .supervise => true
  | _ => false

/-- What a move of a client or of an owner adds to the load. -/
def Move.burden : Move → Nat
  | .part m => m.burden
  | _ => 0

/-- The stop that somebody will be the first to make, and those that have yet to cancel the
parts. -/
def stopLoad (pending : Nat) (stage : Stage) : Nat := pending + (if stage < .stopping then 1 else 0)

/-- A bound on the moves that parts and supervisor can make without the surroundings. -/
def load (v : Supervised) : Nat :=
  v.server.load + stopLoad v.pending v.stage + v.supervision.load

/-- A stop that moves the stage has been counted before. -/
theorem stopLoad_le_of_stops {l l' : Lifecycle} {answers : List Bool} (pending : Nat)
    (stops : Stops l answers l') :
    stopLoad (pending + answers.count true) l'.stage ≤ stopLoad pending l.stage := by
  unfold stopLoad
  cases stops with
  | late none =>
    rw [List.count_eq_zero_of_not_mem none]
    omega
  | first early =>
    have counted : [true].count true = 1 := rfl
    have late : ¬ (Stage.stopping < .stopping) := by decide
    rw [counted, if_pos early, if_neg late]

/-- Stops leave as much to do as there was. -/
theorem load_proceed_le {v : Supervised} {s : Server} {answers : List Bool}
    (stops : Stops v.server.lifecycle answers s.lifecycle) :
    (v.proceed s answers).load + v.server.load ≤ v.load + s.load := by
  have server : (v.proceed s answers).server.load = s.load := rfl
  have stopping := stopLoad_le_of_stops v.pending stops
  rw [load, load, server, supervision_proceed, pending_proceed, stage_proceed]
  simp only [stage, Server.stage]
  omega

theorem load_seeReader_lt {v : Supervised} (waits : v.supervision = .reader) :
    v.seeReader.load < v.load := by
  have onward (w : Supervised) (waits : w.supervision = .reader) :
      ({ w with supervision := .writer } : Supervised).load < w.load := by
    simp only [load, waits, Supervision.load, stage]
    omega
  unfold seeReader
  by_cases faulted : v.hasFaulted
  · rw [if_pos faulted]
    have stops := load_proceed_le (.of_stop v.server.lifecycle) (v := v) (s := v.server.stop)
    have server := own_add_load_le_of_step (.stop (s := v.server))
    simp only [Server.Move.isOwn, Server.Move.burden, Bool.toNat_false] at server
    rw [← Server.stop] at server
    have stopped : (v.proceed v.server.stop [v.server.lifecycle.stop.1]).load ≤ v.load := by omega
    exact Nat.lt_of_lt_of_le (onward _ waits) stopped
  · rw [if_neg faulted]
    exact onward v waits

theorem load_seeWriter_lt {v : Supervised} (waits : v.supervision = .writer) :
    v.seeWriter.load < v.load := by
  have life : ({ v.server.lifecycle with stage := .stopped } : Lifecycle).load = 0 := if_pos rfl
  have stopping : stopLoad v.pending .stopped ≤ stopLoad v.pending v.stage := by
    have late : ¬ (Stage.stopped < .stopping) := by decide
    simp only [stopLoad, if_neg late]
    omega
  have last : v.seeWriter.stage = .stopped := rfl
  simp only [load, last, waits, Supervision.load]
  simp only [seeWriter, load_eq, life]
  omega

/-- **One move under supervision.** -/
theorem own_add_load_le_of_move {v v' : Supervised} {m : Move} (h : Step v m v') :
    m.isOwn.toNat + v'.load ≤ v.load + m.burden := by
  cases h with
  | part living moved =>
    have step := Server.Step.of_step moved
    have stops := load_proceed_le (.of_step step living)
    have lighter := own_add_load_le_of_step step
    simp only [Move.isOwn, Move.burden]
    omega
  | cancel pending =>
    have stopping : stopLoad (v.pending - 1) v.stage + 1 = stopLoad v.pending v.stage := by
      unfold stopLoad
      omega
    have server : v.cancel.server.load = v.server.load := rfl
    have rest : stopLoad v.cancel.pending v.cancel.stage = stopLoad (v.pending - 1) v.stage := rfl
    have supervision : v.cancel.supervision.load = v.supervision.load := rfl
    simp only [Move.isOwn, Move.burden, Bool.toNat_true, load]
    omega
  | breakReader live =>
    have server := load_abortReading_lt live
    simp only [Move.isOwn, Move.burden, Bool.toNat_true, load, stage, Server.stage,
      lifecycle_abortReading]
    omega
  | breakWriter live =>
    have server := load_endWriting_lt live
    have life : v.server.endWriting.lifecycle = v.server.lifecycle := rfl
    simp only [Move.isOwn, Move.burden, Bool.toNat_true, load, stage, Server.stage, life]
    omega
  | seeReader waits =>
    have lighter := load_seeReader_lt waits
    simp only [Move.isOwn, Move.burden, Bool.toNat_true]
    omega
  | seeWriter waits =>
    have lighter := load_seeWriter_lt waits
    simp only [Move.isOwn, Move.burden, Bool.toNat_true]
    omega
  | handle => exact Nat.le_of_eq (Nat.zero_add _)
  | returns => exact Nat.le_of_eq (Nat.zero_add _)

/-- **A whole run.**  The parts have made no more moves than the load at its beginning and what
clients and owners have added to it. -/
theorem own_add_load_le_of_run {v v' : Supervised} {moves : List Move}
    (run : v.run moves = some v') :
    moves.countP Move.isOwn + v'.load ≤ v.load + (moves.map Move.burden).sum := by
  refine run_induction (motive := fun moves v' =>
    moves.countP Move.isOwn + v'.load ≤ v.load + (moves.map Move.burden).sum) ?_ ?_ run
  · exact Nat.le_of_eq (Nat.zero_add _)
  · intro moves m mid after step before
    have now := own_add_load_le_of_move step
    have counted : [m].countP Move.isOwn = m.isOwn.toNat := by
      rw [List.countP_singleton]
      cases m.isOwn <;> rfl
    rw [List.countP_append, counted, List.map_append, List.sum_append, List.map_singleton,
      List.sum_singleton]
    omega

/-! ## Where a stopping server rests -/

/-- A server that was told to stop, with every sender onto its outbox in its own hands. -/
structure RestLaw (v : Supervised) : Prop where
  stages : StageLaw v
  cancelled : v.isCancelled = true
  spare : v.server.spare = 0

theorem spare_of_step {s s' : Server} {m : Server.Move} (h : Server.Step s m s')
    (none : s.spare = 0) : s'.spare = 0 := by
  cases h with
  | letGo spare => exact absurd none (Nat.ne_of_gt spare)
  | _ => exact none

theorem spare_of_move {v v' : Supervised} {m : Move} (h : Step v m v')
    (none : v.server.spare = 0) : v'.server.spare = 0 := by
  cases h with
  | part _ moved =>
    have step := Server.Step.of_step moved
    have after := spare_of_step step none
    exact after
  | breakReader =>
    unfold abortReading
    split <;> exact none
  | seeReader =>
    rw [server_seeReader]
    exact none
  | _ => exact none

/-- Nothing takes the cancelling back. -/
theorem isCancelled_of_move {v v' : Supervised} {m : Move} (h : Step v m v')
    (cancelled : v.isCancelled = true) : v'.isCancelled = true := by
  cases h with
  | cancel => rfl
  | breakReader => rw [isCancelled, lifecycle_abortReading]; exact cancelled
  | seeReader =>
    unfold seeReader
    split <;> exact cancelled
  | _ => exact cancelled

namespace RestLaw

variable {v v' : Supervised}

theorem of_step {m : Move} (law : RestLaw v) (h : Step v m v') : RestLaw v' where
  stages := law.stages.of_step h
  cancelled := isCancelled_of_move h law.cancelled
  spare := spare_of_move h law.spare

theorem of_run {moves : List Move} (law : RestLaw v) (run : v.run moves = some v') : RestLaw v' :=
  run_induction (motive := fun _ => RestLaw) law (fun h law => law.of_step h) run

theorem of_spawn {settings : Settings} {s : Server} {moves : List Move}
    (spawned : spawn settings = some s) (run : (ofServer s).run moves = some v)
    (cancelled : v.isCancelled = true) : RestLaw v where
  stages := .of_run spawned run
  cancelled := cancelled
  spare := by
    refine run_induction (motive := fun _ v => v.server.spare = 0) ?_ ?_ run
    · rw [eq_opened_of_spawnWith spawned]
      rfl
    · intro _ _ _ _ step none
      exact spare_of_move step none

end RestLaw

/-- Neither a part nor the supervisor can move, unless something fails. -/
def IsQuiet (v : Supervised) : Prop := ∀ m : Move, m.isSteady = true → v.step m = none

namespace IsQuiet

variable {v : Supervised}

theorem part (quiet : v.IsQuiet) {m : Server.Move} (steady : m.isSteady = true)
    (living : m ≠ .retire) : v.server.step m = none := by
  have acting : m ≠ .join := by
    rintro rfl
    cases steady
  have stuck := quiet (.part m) steady
  rw [step_part living acting] at stuck
  exact Option.map_eq_none_iff.1 stuck

/-- A reader does not wait for a datagram or for a permit once it is cancelled. -/
theorem readerEnded (quiet : v.IsQuiet) (law : RestLaw v) : v.server.reading = .ended := by
  have cancelled : v.server.lifecycle.isCancelled = true := law.cancelled
  have quits := quiet.part (m := .quit) rfl nofun
  have starts := quiet.part (m := .start) rfl nofun
  cases reading : v.server.reading with
  | ready => simp [Server.step, Server.quit, reading, cancelled] at quits
  | admitting errand => simp [Server.step, Server.quit, reading, cancelled] at quits
  | admitted errand => simp [Server.step, Server.start, reading] at starts
  | ended => rfl

/-- A task does not wait for a slot once it is cancelled. -/
theorem noTask (quiet : v.IsQuiet) (law : RestLaw v) : v.server.desk.tasks = [] := by
  have cancelled : v.server.lifecycle.isCancelled = true := law.cancelled
  refine List.eq_nil_iff_forall_not_mem.2 fun t live => ?_
  have abandons := quiet.part (m := .task (.abandon t.ticket)) rfl nofun
  cases errand : v.server.desk.errand? t.ticket with
  | none => exact Desk.errand?_eq_none_iff.1 errand t live rfl
  | some errand' => simp [Server.step, Desk.step, errand, cancelled] at abandons

/-- A writer ends when it has nothing to write and nobody is left who could queue a reply. -/
theorem writerEnded (quiet : v.IsQuiet) (law : RestLaw v) : v.server.writing = .ended := by
  have nobody : v.server.senders = 0 :=
    senders_eq_zero_iff.2 ⟨quiet.readerEnded law, quiet.noTask law, law.spare⟩
  have takes := quiet.part (m := .take) rfl nofun
  have writes := quiet.part (m := .write) rfl nofun
  have finishes := quiet.part (m := .finish) rfl nofun
  cases writing : v.server.writing with
  | ready =>
    cases queue : v.server.desk.outbox.queue with
    | nil => simp [Server.step, Server.finish, writing, queue, nobody] at finishes
    | cons reply rest => simp [Server.step, Server.take, Outbox.take?, writing, queue] at takes
  | busy datagram closes => simp [Server.step, Server.write, writing] at writes
  | ended => rfl

/-- **A stopping server that is quiet has stopped.** -/
theorem stopped (quiet : v.IsQuiet) (law : RestLaw v) : v.stage = .stopped := by
  have readerEnded := quiet.readerEnded law
  have writerEnded := quiet.writerEnded law
  have supervises := quiet .supervise rfl
  refine law.stages.stopped.2 ?_
  cases supervision : v.supervision with
  | reader => simp [step, supervise, supervision, readerEnded] at supervises
  | writer => simp [step, supervise, supervision, writerEnded] at supervises
  | nothing => rfl

end IsQuiet

/-- A steady move lightens the load. -/
theorem load_lt_of_isSteady {v v' : Supervised} {m : Move} (h : Step v m v')
    (steady : m.isSteady = true) : v'.load < v.load := by
  have own : m.isOwn = true ∧ m.burden = 0 := by
    cases m with
    | part m => cases m <;> first | exact ⟨rfl, rfl⟩ | cases steady
    | supervise => exact ⟨rfl, rfl⟩
    | _ => cases steady
  have lighter := own_add_load_le_of_move h
  rw [own.1, own.2, Bool.toNat_true] at lighter
  omega

/-- A stopping server comes to rest by steady moves alone, and soon. -/
theorem RestLaw.exists_run {v : Supervised} (law : RestLaw v) :
    ∃ more later, v.run more = some later ∧ (∀ m ∈ more, m.isSteady = true) ∧
      more.length + later.load ≤ v.load ∧ later.IsQuiet := by
  induction weight : v.load using Nat.strongRecOn generalizing v with
  | ind bound ih =>
    by_cases quiet : v.IsQuiet
    · exact ⟨[], v, rfl, nofun, by simp [weight], quiet⟩
    · obtain ⟨m, steady, moves⟩ : ∃ m : Move, m.isSteady = true ∧ v.step m ≠ none := by
        simpa [IsQuiet] using quiet
      obtain ⟨next, moved⟩ := Option.ne_none_iff_exists'.1 moves
      have step := Step.of_step moved
      have lighter := load_lt_of_isSteady step steady
      obtain ⟨more, later, run, steadily, short, rests⟩ :=
        ih next.load (by omega) (law.of_step step) rfl
      refine ⟨m :: more, later, ?_, ?_, ?_, rests⟩
      · rw [run_cons, moved]
        exact run
      · exact List.forall_mem_cons.2 ⟨steady, steadily⟩
      · rw [List.length_cons]
        omega

/-- **A stopping server comes to rest.**  In every state of a spawned server in which its parts have
been cancelled, and whatever clients and owners do from then on,

* parts and supervisor make no more moves than the load and what the moves of the others add to it,
  and these add only for a datagram that arrives or a reply that an owner queues;
* when neither can move any more, unless something fails, the server has stopped, reader and writer
  have ended and no task is left;
* and so it ends without any failure, within as many moves as the load. -/
theorem comes_to_rest {settings : Settings} {s : Server} {v : Supervised} {moves : List Move}
    (spawned : spawn settings = some s) (run : (ofServer s).run moves = some v)
    (cancelled : v.isCancelled = true) :
    (∀ more later, v.run more = some later →
      more.countP Move.isOwn + later.load ≤ v.load + (more.map Move.burden).sum) ∧
    (∀ more later, v.run more = some later → later.IsQuiet →
      later.stage = .stopped ∧ later.server.reading = .ended ∧ later.server.writing = .ended ∧
        later.server.desk.tasks = []) ∧
    ∃ more later, v.run more = some later ∧ (∀ m ∈ more, m.isSteady = true) ∧
      more.length ≤ v.load ∧ later.IsQuiet ∧ later.stage = .stopped := by
  have law := RestLaw.of_spawn spawned run cancelled
  refine ⟨fun more later further => own_add_load_le_of_run further, ?_, ?_⟩
  · intro more later further quiet
    have law := law.of_run further
    exact ⟨quiet.stopped law, quiet.readerEnded law, quiet.writerEnded law, quiet.noTask law⟩
  · obtain ⟨more, later, further, steady, short, quiet⟩ := law.exists_run
    exact ⟨more, later, further, steady, by omega, quiet, quiet.stopped (law.of_run further)⟩

/-- Four logins, two permits and one slot.  The first is served, the second is granted the slot when
the first reply is taken out, the third waits for a slot and the fourth for a permit; then the write
fails, and stops the server. -/
def failedWhileFull : List Move :=
  let login (port : Nat) : Datagram :=
    ⟨.loopback port, (Request.ofCredentials "alice" "pw").written⟩
  [.part (.arrive (login 9000)), .part (.arrive (login 9001)), .part (.arrive (login 9002)),
    .part (.arrive (login 9003)), .part .read, .part .accept, .part .start,
    .part (.task (.serve 0 ⟨⟨"first"⟩, 1⟩)), .part .read, .part .accept, .part .start,
    .part (.task (.wait 1)), .part .read, .part .accept, .part .start, .part (.task (.wait 2)),
    .part .read, .part .take, .part .failWrite, .cancel]

theorem comes_to_rest_of_failedWhileFull :
    let settings : Settings := { workers := 2, outboxCapacity := 1 }
    spawn settings = some (opened 0 settings) ∧
    ∃ v, (ofServer (opened 0 settings)).run failedWhileFull = some v ∧ v.isCancelled = true ∧
      v.server.desk.permits = 0 ∧ v.server.desk.tasks.map (·.ticket) = [1, 2] ∧ v.load = 19 ∧
      (∀ more later, v.run more = some later → later.IsQuiet → later.stage = .stopped) ∧
      ∃ more later, v.run more = some later ∧ more.length ≤ 19 ∧ later.stage = .stopped := by
  intro settings
  have spawned : spawn settings = some (opened 0 settings) := by decide
  have seen : ((ofServer (opened 0 settings)).run failedWhileFull).map (fun v =>
      (v.isCancelled, v.server.desk.permits, v.server.desk.tasks.map (·.ticket), v.load)) =
      some (true, 0, [1, 2], 19) := by decide +kernel
  obtain ⟨v, run, same⟩ := Option.map_eq_some_iff.1 seen
  simp only [Prod.mk.injEq] at same
  obtain ⟨cancelled, permits, tasks, load⟩ := same
  obtain ⟨_, rests, more, later, further, _, short, _, stopped⟩ :=
    comes_to_rest spawned run cancelled
  rw [load] at short
  exact ⟨spawned, v, run, cancelled, permits, tasks, load,
    fun more later further quiet => (rests more later further quiet).1,
    more, later, further, short, stopped⟩

end Supervised

end DatagramSession.Server
