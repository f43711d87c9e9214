import DatagramSession.Proofs.Server.Intake
import Mathlib.Data.List.Nodup
import Mathlib.Data.List.Perm.Subperm
import Mathlib.Order.Fin.Basic

/-!
# Replies and their requests

Every datagram that the writer writes answers one request that the reader has read before, and no
request is answered twice.  A run is a list of moves, so a datagram that was read is named by the
place of its reading in the run, and a reply by the place of the move that queued it.

* `TakesAt`, `HandsAt`: what happened at a place of a run.
* `Trail`: the work that is under way and the replies that were written, each with the places that
  it has come through.  Work goes one way, from the reader over the tasks and the outbox to the
  writer, so a move only shifts the trail, shortens it, or begins it at a new place.
* `exists_injective_requests`: what was written answers what was read.
-/

namespace DatagramSession

/-- What a server answers to a request: a login is welcomed with a session of its own, and a shutdown
is acknowledged or refused under the session that it named. -/
def Request.IsAnsweredBy (fresh : SessionId) : Request → Response → Prop
  | .login _ account _, response => response = .login (.ok .login fresh) ("Welcome " ++ account)
  | .shutdown header, response =>
    response = .shutdown (.ok .shutdown header.session) ∨
      response = .refusal (.failed .shutdown header.session "invalid session id")

theorem Errand.isAnsweredBy_of_settle {sender : Address} {r : Request} {draw : Draw}
    {table : Table} {settled : Settlement}
    (settling : (ofRequest sender r).settle draw table = .ok settled) :
    r.IsAnsweredBy draw.fresh settled.verdict.response := by
  rcases settle_eq_ok_iff.1 settling with
    ⟨header, account, password, _, request, rfl⟩ | ⟨header, _, request, rfl⟩
  · obtain rfl : r = .login header account password := request
    rfl
  · obtain rfl : r = .shutdown header := request
    cases known : table.has header.session with
    | true => exact .inl (by rw [verdict_shutDown_of_has _ known]; rfl)
    | false => exact .inr (by rw [verdict_shutDown_of_not_has _ known]; rfl)

namespace Server

variable {s mid after : Server} {moves : List Move} {place : Nat}

/-! ## Places of a run -/

/-- The move at a place of the run, and the state in which it was made. -/
def MovesAt (s : Server) (moves : List Move) (place : Nat) (m : Move) (mid : Server) : Prop :=
  moves[place]? = some m ∧ s.run (moves.take place) = some mid

theorem MovesAt.lt {m : Move} (h : s.MovesAt moves place m mid) : place < moves.length :=
  (List.getElem?_eq_some_iff.1 h.1).1

/-- A longer run goes through the same places. -/
theorem MovesAt.append {m : Move} (h : s.MovesAt moves place m mid) (more : List Move) :
    s.MovesAt (moves ++ more) place m mid := by
  refine ⟨?_, ?_⟩
  · rw [List.getElem?_append_left h.lt]
    exact h.1
  · rw [List.take_append_of_le_length (Nat.le_of_lt h.lt)]
    exact h.2

/-- The last move of a run. -/
theorem MovesAt.last (run : s.run moves = some mid) (m : Move) :
    s.MovesAt (moves ++ [m]) moves.length m mid := by
  refine ⟨List.getElem?_concat_length, ?_⟩
  rw [List.take_left]
  exact run

/-- The run goes on from the state after the move. -/
theorem MovesAt.run_rest {m : Move} {next s' : Server} (h : s.MovesAt moves place m mid)
    (step : mid.step m = some next) (run : s.run moves = some s') :
    next.run (moves.drop (place + 1)) = some s' := by
  have split : moves = moves.take place ++ m :: moves.drop (place + 1) := by
    obtain ⟨lt, rfl⟩ := List.getElem?_eq_some_iff.1 h.1
    rw [← List.drop_eq_getElem_cons lt, List.take_append_drop]
  rw [split, run_append, h.2, Option.bind_some, Server.run, step, Option.bind_some] at run
  exact run

/-- At a place of the run the reader took a datagram that carried a request. -/
def TakesAt (s : Server) (moves : List Move) (place : Nat) (datagram : Datagram)
    (request : Request) : Prop :=
  ∃ taking rest, s.MovesAt moves place .read taking ∧ taking.reading = .ready ∧
    taking.inbox = datagram :: rest ∧
    Request.decode (datagram.contents.take Wire.limit) = .ok request

/-- At a place of the run a task settled its errand with a draw, and queued the reply behind all
that were queued. -/
def HandsAt (s : Server) (moves : List Move) (place : Nat) (errand : Errand) (draw : Draw)
    (reply : Reply) : Prop :=
  ∃ ticket serving next settled, s.MovesAt moves place (.task (.serve ticket draw)) serving ∧
    serving.step (.task (.serve ticket draw)) = some next ∧
    serving.desk.errand? ticket = some errand ∧
    errand.settle draw serving.desk.table = .ok settled ∧
    next.desk.table = settled.table ∧
    reply = .ofVerdict errand.sender settled.verdict ∧
    next.desk.outbox.queue = serving.desk.outbox.queue ++ [reply]

/-- The errand was made of the datagram that was taken at a place of the run. -/
def MadeAt (s : Server) (moves : List Move) (place : Nat) (errand : Errand) : Prop :=
  ∃ datagram request, s.TakesAt moves place datagram request ∧
    errand = .ofRequest datagram.peer request

/-- Where a reply has come through: its request was read at one place, and it was queued at a later
one. -/
structure Course where
  readAt : Nat
  queuedAt : Nat

/-- The reply answers the request that was read at the first place of its course. -/
def Answers (s : Server) (moves : List Move) (course : Course) (reply : Reply) : Prop :=
  ∃ errand draw, s.MadeAt moves course.readAt errand ∧ course.readAt < course.queuedAt ∧
    s.HandsAt moves course.queuedAt errand draw reply

/-- The datagram carries a reply that answers a request. -/
def Carries (s : Server) (moves : List Move) (course : Course) (datagram : Datagram) : Prop :=
  ∃ reply, s.Answers moves course reply ∧ datagram.peer = reply.recipient ∧
    reply.response.encode = .ok datagram.contents

theorem MadeAt.append {errand : Errand} (h : s.MadeAt moves place errand) (more : List Move) :
    s.MadeAt (moves ++ more) place errand := by
  obtain ⟨datagram, request, ⟨taking, rest, moved, taken⟩, made⟩ := h
  exact ⟨datagram, request, ⟨taking, rest, moved.append more, taken⟩, made⟩

theorem MadeAt.lt {errand : Errand} (h : s.MadeAt moves place errand) : place < moves.length := by
  obtain ⟨_, _, ⟨_, _, moved, _⟩, _⟩ := h
  exact moved.lt

theorem HandsAt.lt {errand : Errand} {draw : Draw} {reply : Reply}
    (h : s.HandsAt moves place errand draw reply) : place < moves.length := by
  obtain ⟨_, _, _, _, moved, _⟩ := h
  exact moved.lt

theorem Answers.append {course : Course} {reply : Reply} (h : s.Answers moves course reply)
    (more : List Move) : s.Answers (moves ++ more) course reply := by
  obtain ⟨errand, draw, made, before, ticket, serving, next, settled, moved, handed⟩ := h
  exact ⟨errand, draw, made.append more, before, ticket, serving, next, settled,
    moved.append more, handed⟩

theorem Carries.append {course : Course} {datagram : Datagram}
    (h : s.Carries moves course datagram) (more : List Move) :
    s.Carries (moves ++ more) course datagram := by
  obtain ⟨reply, answers, sent⟩ := h
  exact ⟨reply, answers.append more, sent⟩

/-! ## The trail -/

/-- The datagram that the writer is writing. -/
def Writing.datagram? : Writing → Option Datagram
  | busy datagram _ => some datagram
  | ready | ended => none

/-- What has been written and what is under way, with where it has come through, the most advanced
first. -/
structure Trail where
  written : List (Datagram × Course)
  writing : List (Datagram × Course)
  queue : List (Reply × Course)
  tasks : List (Task × Nat)
  reading : List (Errand × Nat)

namespace Trail

/-- The courses of the replies that were written or are under way. -/
def courses (t : Trail) : List Course :=
  t.written.map (·.2) ++ t.writing.map (·.2) ++ t.queue.map (·.2)

/-- The places at which the requests were read. -/
def readPlaces (t : Trail) : List Nat :=
  t.courses.map (·.readAt) ++ t.tasks.map (·.2) ++ t.reading.map (·.2)

/-- The places at which the replies were queued. -/
def queuedPlaces (t : Trail) : List Nat := t.courses.map (·.queuedAt)

end Trail

/-- The trail of a state that a run has reached. -/
structure TrailLaw (s : Server) (moves : List Move) (s' : Server) (t : Trail) : Prop where
  spare : s'.spare = 0
  written_eq : t.written.map (·.1) = s'.written
  writing_eq : t.writing.map (·.1) = s'.writing.datagram?.toList
  queue_eq : t.queue.map (·.1) = s'.desk.outbox.queue
  tasks_eq : t.tasks.map (·.1) = s'.desk.tasks
  reading_eq : t.reading.map (·.1) = s'.reading.errand?.toList
  written : ∀ p ∈ t.written, s.Carries moves p.2 p.1
  writing : ∀ p ∈ t.writing, s.Carries moves p.2 p.1
  queue : ∀ p ∈ t.queue, s.Answers moves p.2 p.1
  tasks : ∀ p ∈ t.tasks, s.MadeAt moves p.2 p.1.errand
  reading : ∀ p ∈ t.reading, s.MadeAt moves p.2 p.1
  read_once : t.readPlaces.Nodup
  queued_in_order : t.queuedPlaces.Pairwise (· < ·)

namespace TrailLaw

variable {s' : Server} {t : Trail}

/-- The trail stays as it is while the run goes on. -/
theorem append (law : TrailLaw s moves s' t) (more : List Move) :
    TrailLaw s (moves ++ more) s' t :=
  { law with
    written := fun p member => (law.written p member).append more
    writing := fun p member => (law.writing p member).append more
    queue := fun p member => (law.queue p member).append more
    tasks := fun p member => (law.tasks p member).append more
    reading := fun p member => (law.reading p member).append more }

/-- The replies on the trail answer requests. -/
theorem exists_answers (law : TrailLaw s moves s' t) :
    ∀ course ∈ t.courses, ∃ reply, s.Answers moves course reply := by
  intro course member
  simp only [Trail.courses, List.mem_append, List.mem_map] at member
  rcases member with (⟨p, old, rfl⟩ | ⟨p, now, rfl⟩) | ⟨p, queued, rfl⟩
  · obtain ⟨reply, answers, _⟩ := law.written p old
    exact ⟨reply, answers⟩
  · obtain ⟨reply, answers, _⟩ := law.writing p now
    exact ⟨reply, answers⟩
  · exact ⟨p.1, law.queue p queued⟩

theorem readPlaces_lt (law : TrailLaw s moves s' t) : ∀ n ∈ t.readPlaces, n < moves.length := by
  intro n member
  simp only [Trail.readPlaces, List.mem_append, List.mem_map] at member
  rcases member with (⟨course, replied, rfl⟩ | ⟨p, live, rfl⟩) | ⟨p, held, rfl⟩
  · obtain ⟨reply, errand, draw, made, _⟩ := law.exists_answers course replied
    exact made.lt
  · exact (law.tasks p live).lt
  · exact (law.reading p held).lt

theorem queuedPlaces_lt (law : TrailLaw s moves s' t) :
    ∀ n ∈ t.queuedPlaces, n < moves.length := by
  intro n member
  obtain ⟨course, replied, rfl⟩ := List.mem_map.1 member
  obtain ⟨reply, errand, draw, _, _, handed⟩ := law.exists_answers course replied
  exact handed.lt

/-- An errand that is taken on begins the trail at a new place. -/
theorem take (law : TrailLaw s moves mid t) {datagram : Datagram} {rest : List Datagram}
    {request : Request} (run : s.run moves = some mid) (ready : mid.reading = .ready)
    (inbox : mid.inbox = datagram :: rest)
    (decoded : Request.decode (datagram.contents.take Wire.limit) = .ok request) :
    TrailLaw s (moves ++ [.read])
      { mid with inbox := rest, reading := .admitting (.ofRequest datagram.peer request) }
      { t with reading := [(.ofRequest datagram.peer request, moves.length)] } := by
  have old := law.append [.read]
  have idle : t.reading = [] := by
    have none := law.reading_eq
    rw [ready] at none
    exact List.map_eq_nil_iff.1 none
  refine { old with reading_eq := rfl, reading := ?_, read_once := ?_ }
  · intro p member
    rw [List.mem_singleton.1 member]
    exact ⟨datagram, request, ⟨mid, rest, .last run .read, ready, inbox, decoded⟩, rfl⟩
  · have places := law.read_once
    have bound := law.readPlaces_lt
    simp only [Trail.readPlaces, idle, List.map_nil, List.append_nil] at places bound
    refine List.nodup_append.2 ⟨places, List.nodup_singleton _, ?_⟩
    intro n member new last same
    rw [List.mem_singleton.1 last] at same
    exact absurd (bound n member) (by rw [same]; exact Nat.lt_irrefl _)

/-- The place of a task leaves the tasks with it, whichever other tasks leave at the same time. -/
theorem places_of_leave (law : TrailLaw s moves mid t) {task : Task} {readAt : Nat}
    (member : (task, readAt) ∈ t.tasks) :
    (readAt :: (t.tasks.filter fun p => p.1.ticket ≠ task.ticket).map (·.2)).Subperm
      (t.tasks.map (·.2)) := by
  have apart : (task, readAt) ∉ t.tasks.filter fun p => p.1.ticket ≠ task.ticket := by simp
  have once : t.tasks.Nodup := by
    have places := law.read_once
    rw [Trail.readPlaces, List.nodup_append, List.nodup_append] at places
    exact places.1.2.1.of_map
  have shorter : ((task, readAt) :: t.tasks.filter fun p => p.1.ticket ≠ task.ticket).Subperm
      t.tasks := by
    refine (List.nodup_cons.2 ⟨apart, once.filter _⟩).subperm fun p kept => ?_
    rcases List.mem_cons.1 kept with rfl | other
    · exact member
    · exact List.mem_of_mem_filter other
  obtain ⟨same, perm, sublist⟩ := shorter
  exact ⟨same.map (·.2), perm.map (·.2), sublist.map (·.2)⟩

/-- A task that settles its errand hands the place of the reading over to its reply. -/
theorem settle (law : TrailLaw s moves mid t) {ticket : Ticket} {draw : Draw} {errand : Errand}
    {settled : Settlement} (run : s.run moves = some mid)
    (step : mid.step (.task (.serve ticket draw)) = some after)
    (table : after.desk.table = settled.table)
    (queue : after.desk.outbox.queue =
      mid.desk.outbox.queue ++ [.ofVerdict errand.sender settled.verdict])
    (tasks : after.desk.tasks = mid.desk.tasks.filter (·.ticket ≠ ticket))
    (others : after.reading = mid.reading ∧ after.writing = mid.writing ∧
      after.written = mid.written ∧ after.spare = mid.spare)
    (live : mid.desk.errand? ticket = some errand)
    (settling : errand.settle draw mid.desk.table = .ok settled) :
    ∃ t', TrailLaw s (moves ++ [.task (.serve ticket draw)]) after t' := by
  obtain ⟨reading, writing, written, spare⟩ := others
  have old := law.append [.task (.serve ticket draw)]
  have listed : (⟨ticket, errand⟩ : Task) ∈ t.tasks.map (·.1) := by
    rw [law.tasks_eq]
    exact Desk.mem_tasks_of_errand? live
  obtain ⟨⟨task, readAt⟩, member, named⟩ := List.mem_map.1 listed
  obtain rfl : task = ⟨ticket, errand⟩ := named
  have made : s.MadeAt moves readAt errand := law.tasks _ member
  let course : Course := ⟨readAt, moves.length⟩
  let left := t.tasks.filter fun p => p.1.ticket ≠ ticket
  have moved := law.places_of_leave member
  let t' : Trail := { t with
    queue := t.queue ++ [(.ofVerdict errand.sender settled.verdict, course)]
    tasks := left }
  have courses : t'.courses = t.courses ++ [course] := by
    simp only [t', Trail.courses, List.map_append, List.map_cons, List.map_nil, List.append_assoc]
  refine ⟨t', { old with
    spare := spare.trans old.spare
    written_eq := old.written_eq.trans written.symm
    writing_eq := by rw [writing]; exact old.writing_eq
    reading_eq := by rw [reading]; exact old.reading_eq
    queue_eq := ?_
    tasks_eq := ?_
    queue := ?_
    tasks := fun p kept => old.tasks p (List.mem_of_mem_filter kept)
    read_once := ?_
    queued_in_order := ?_ }⟩
  · rw [queue, List.map_append, law.queue_eq]
    rfl
  · rw [tasks, ← law.tasks_eq, List.filter_map]
    rfl
  · intro p queued
    rcases List.mem_append.1 queued with earlier | new
    · exact old.queue p earlier
    · rw [List.mem_singleton.1 new]
      exact ⟨errand, draw, made.append _, made.lt, ticket, mid, after, settled, .last run _, step,
        live, settling, table, rfl, queue⟩
  · have shifted : t'.readPlaces.Subperm t.readPlaces := by
      rw [Trail.readPlaces, Trail.readPlaces, courses, List.map_append, List.append_assoc,
        List.append_assoc, List.append_assoc, List.subperm_append_left]
      exact (List.subperm_append_right _).2 moved
    obtain ⟨same, perm, sublist⟩ := shifted
    exact perm.nodup_iff.1 (law.read_once.sublist sublist)
  · rw [Trail.queuedPlaces, courses, List.map_append, List.pairwise_append]
    refine ⟨law.queued_in_order, List.pairwise_singleton _ _, fun n earlier last new => ?_⟩
    rw [List.mem_singleton.1 new]
    exact law.queuedPlaces_lt n earlier

/-- Work that is given up shortens the trail. -/
theorem shorten (law : TrailLaw s moves mid t) (m : Move)
    {writing : List (Datagram × Course)} {queue : List (Reply × Course)}
    {tasks : List (Task × Nat)} {reading : List (Errand × Nat)}
    (kept : after.spare = mid.spare ∧ after.written = mid.written)
    (writingLeft : writing.map (·.1) = after.writing.datagram?.toList ∧ writing.Sublist t.writing)
    (queueLeft : queue.map (·.1) = after.desk.outbox.queue ∧ queue.Sublist t.queue)
    (tasksLeft : tasks.map (·.1) = after.desk.tasks ∧ tasks.Sublist t.tasks)
    (readingLeft : reading.map (·.1) = after.reading.errand?.toList ∧ reading.Sublist t.reading) :
    TrailLaw s (moves ++ [m]) after ⟨t.written, writing, queue, tasks, reading⟩ := by
  have old := law.append [m]
  have courses : (Trail.mk t.written writing queue tasks reading).courses.Sublist t.courses :=
    ((List.Sublist.refl _).append (writingLeft.2.map _)).append (queueLeft.2.map _)
  exact {
    spare := kept.1.trans law.spare
    written_eq := law.written_eq.trans kept.2.symm
    writing_eq := writingLeft.1
    queue_eq := queueLeft.1
    tasks_eq := tasksLeft.1
    reading_eq := readingLeft.1
    written := old.written
    writing := fun p member => old.writing p (writingLeft.2.subset member)
    queue := fun p member => old.queue p (queueLeft.2.subset member)
    tasks := fun p member => old.tasks p (tasksLeft.2.subset member)
    reading := fun p member => old.reading p (readingLeft.2.subset member)
    read_once := law.read_once.sublist
      (((courses.map _).append (tasksLeft.2.map _)).append (readingLeft.2.map _))
    queued_in_order := law.queued_in_order.sublist (courses.map _) }

/-- A task that is started takes the place of the reading over from the reader. -/
theorem start (law : TrailLaw s moves mid t) {errand : Errand}
    (admitted : mid.reading = .admitted errand) :
    ∃ t', TrailLaw s (moves ++ [.start])
      { mid with reading := .ready, desk := mid.desk.start errand } t' := by
  have old := law.append [.start]
  have held := law.reading_eq
  rw [admitted] at held
  obtain ⟨⟨errand, place⟩, single, rfl⟩ := List.map_eq_singleton_iff.1 held
  refine ⟨{ t with tasks := t.tasks ++ [(⟨mid.desk.next, errand⟩, place)], reading := [] },
    { old with
      reading_eq := rfl
      reading := fun p none => (by cases none)
      tasks_eq := ?_
      tasks := ?_
      read_once := ?_ }⟩
  · rw [List.map_append, law.tasks_eq]
    rfl
  · intro p live
    rcases List.mem_append.1 live with earlier | new
    · exact old.tasks p earlier
    · rw [List.mem_singleton.1 new]
      exact old.reading _ (by rw [single]; exact List.mem_singleton.2 rfl)
  · have places := law.read_once
    simpa only [Trail.readPlaces, Trail.courses, single, List.map_append, List.map_cons,
      List.map_nil, List.append_assoc, List.append_nil] using places

/-- The reply that the writer takes moves on to the writer. -/
theorem takeOut (law : TrailLaw s moves mid t) {reply : Reply} {outbox : Outbox}
    {contents : Octets} (ready : mid.writing = .ready)
    (taken : mid.desk.outbox.take? = some (reply, outbox))
    (encoded : reply.response.encode = .ok contents) :
    ∃ t', TrailLaw s (moves ++ [.take])
      { mid with
        writing := .busy ⟨reply.recipient, contents⟩ reply.closes
        desk := { mid.desk with outbox := outbox } } t' := by
  have old := law.append [.take]
  have first := law.queue_eq
  rw [Outbox.queue_of_take?_eq_some taken] at first
  obtain ⟨⟨reply, course⟩, rest, queue, rfl, left⟩ := List.map_eq_cons_iff.1 first
  have answers : s.Answers (moves ++ [.take]) course reply :=
    old.queue _ (by rw [queue]; exact List.mem_cons_self)
  have idle : t.writing = [] := by
    have none := law.writing_eq
    rw [ready] at none
    exact List.map_eq_nil_iff.1 none
  have courses : (Trail.mk t.written [(⟨reply.recipient, contents⟩, course)] rest t.tasks
      t.reading).courses = t.courses := by
    simp only [Trail.courses, idle, queue, List.map_cons, List.map_nil, List.append_assoc,
      List.nil_append, List.singleton_append]
  refine ⟨⟨t.written, [(⟨reply.recipient, contents⟩, course)], rest, t.tasks, t.reading⟩,
    { old with
      writing_eq := rfl
      queue_eq := left
      writing := ?_
      queue := fun p later => old.queue p (by rw [queue]; exact List.mem_cons_of_mem _ later)
      read_once := ?_
      queued_in_order := ?_ }⟩
  · intro p only
    rw [List.mem_singleton.1 only]
    exact ⟨reply, answers, rfl, encoded⟩
  · rw [Trail.readPlaces, courses]
    exact law.read_once
  · rw [Trail.queuedPlaces, courses]
    exact law.queued_in_order

/-- What the writer has written stays on the trail for good. -/
theorem write (law : TrailLaw s moves mid t) {datagram : Datagram} {closes : Bool}
    (busy : mid.writing = .busy datagram closes) :
    ∃ t', TrailLaw s (moves ++ [.write])
      { mid with
        writing := .ready
        written := mid.written ++ [datagram]
        lifecycle := if closes then mid.lifecycle.stopped else mid.lifecycle } t' := by
  have old := law.append [.write]
  have sent := law.writing_eq
  rw [busy] at sent
  have courses : (Trail.mk (t.written ++ t.writing) [] t.queue t.tasks t.reading).courses =
      t.courses := by
    simp only [Trail.courses, List.map_append, List.map_nil, List.append_nil]
  refine ⟨⟨t.written ++ t.writing, [], t.queue, t.tasks, t.reading⟩,
    { old with
      written_eq := ?_
      writing_eq := rfl
      written := ?_
      writing := fun p none => (by cases none)
      read_once := ?_
      queued_in_order := ?_ }⟩
  · rw [List.map_append, law.written_eq, sent]
    rfl
  · intro p member
    rcases List.mem_append.1 member with earlier | new
    · exact old.written p earlier
    · exact old.writing p new
  · rw [Trail.readPlaces, courses]
    exact law.read_once
  · rw [Trail.queuedPlaces, courses]
    exact law.queued_in_order

/-- One more move of a run shifts the trail, shortens it, or begins it at a new place. -/
theorem of_step (law : TrailLaw s moves mid t) {m : Move} (run : s.run moves = some mid)
    (step : mid.step m = some after) : ∃ t', TrailLaw s (moves ++ [m]) after t' := by
  have old := law.append [m]
  have writingSame := And.intro law.writing_eq (List.Sublist.refl t.writing)
  have queueSame := And.intro law.queue_eq (List.Sublist.refl t.queue)
  have tasksSame := And.intro law.tasks_eq (List.Sublist.refl t.tasks)
  have readingSame := And.intro law.reading_eq (List.Sublist.refl t.reading)
  cases Step.of_step step with
  | push spare => exact absurd law.spare (Nat.ne_of_gt spare)
  | letGo spare => exact absurd law.spare (Nat.ne_of_gt spare)
  | read ready inbox decoded => exact ⟨_, law.take run ready inbox decoded⟩
  | accept admitting =>
    have same := law.reading_eq
    rw [admitting] at same
    exact ⟨t, { old with reading_eq := same }⟩
  | start admitted => exact law.start admitted
  | @task last desk taskStep =>
    cases taskStep with
    | wait => exact ⟨t, { old with }⟩
    | settle live _ settling =>
      exact law.settle run step rfl (Outbox.queue_put _ _ _) rfl ⟨rfl, rfl, rfl, rfl⟩ live settling
    | giveUp gaveUp =>
      have left : (t.tasks.filter fun p => p.1.ticket ≠ last.ticket).map (·.1) =
          mid.desk.tasks.filter (·.ticket ≠ last.ticket) := by
        rw [← law.tasks_eq, List.filter_map]
        rfl
      refine ⟨_, law.shorten _ ⟨rfl, rfl⟩ writingSame ⟨?_, .refl _⟩
        ⟨left, List.filter_sublist⟩ readingSame⟩
      rw [Desk.queue_giveUp]
      exact law.queue_eq
  | take ready taken encoded => exact law.takeOut ready taken encoded
  | skip ready taken refused =>
    have first := law.queue_eq
    rw [Outbox.queue_of_take?_eq_some taken] at first
    obtain ⟨p, rest, queue, _, left⟩ := List.map_eq_cons_iff.1 first
    have idle := writingSame
    rw [ready] at idle
    refine ⟨_, law.shorten _ ⟨rfl, rfl⟩ idle ⟨left, ?_⟩ tasksSame readingSame⟩
    rw [queue]
    exact List.sublist_cons_self p rest
  | write busy => exact law.write busy
  | failWrite =>
    exact ⟨_, law.shorten _ ⟨rfl, rfl⟩ ⟨rfl, List.nil_sublist _⟩ ⟨rfl, List.nil_sublist _⟩
      tasksSame readingSame⟩
  | finish =>
    exact ⟨_, law.shorten _ ⟨rfl, rfl⟩ ⟨rfl, List.nil_sublist _⟩ ⟨rfl, List.nil_sublist _⟩
      tasksSame readingSame⟩
  | failRead =>
    exact ⟨_, law.shorten _ ⟨rfl, rfl⟩ writingSame queueSame tasksSame ⟨rfl, List.nil_sublist _⟩⟩
  | quit =>
    exact ⟨_, law.shorten _ ⟨rfl, rfl⟩ writingSame queueSame tasksSame ⟨rfl, List.nil_sublist _⟩⟩
  | _ => exact ⟨t, { old with }⟩

/-- Every state that a run of a spawned server reaches has a trail. -/
theorem exists_of_run {settings : Settings} (spawned : spawn settings = some s)
    (run : s.run moves = some s') : ∃ t, TrailLaw s moves s' t := by
  refine run_induction (motive := fun moves s' => ∃ t, TrailLaw s moves s' t) ?_ ?_ run
  · rw [eq_opened_of_spawnWith spawned]
    refine ⟨⟨[], [], [], [], []⟩, ?_⟩
    refine ⟨rfl, rfl, rfl, rfl, rfl, rfl, ?_, ?_, ?_, ?_, ?_, List.nodup_nil, List.Pairwise.nil⟩
    all_goals
      intro p none
      cases none
  · intro moves m mid after before step reached
    obtain ⟨t, law⟩ := reached
    exact law.of_step before step

/-- What was written was read at different places, and queued in the order of the writing. -/
theorem written_pairwise (law : TrailLaw s moves s' t) :
    t.written.Pairwise fun p q =>
      p.2.readAt ≠ q.2.readAt ∧ p.2.queuedAt < q.2.queuedAt := by
  have first : (t.written.map (·.2)).Sublist t.courses :=
    (List.sublist_append_left _ _).trans (List.sublist_append_left _ _)
  have readPlaces : ((t.written.map (·.2)).map (·.readAt)).Sublist t.readPlaces :=
    ((first.map _).trans (List.sublist_append_left _ _)).trans (List.sublist_append_left _ _)
  have readOnce := law.read_once.sublist readPlaces
  have inOrder := law.queued_in_order.sublist (first.map _)
  rw [List.Nodup, List.pairwise_map, List.pairwise_map] at readOnce
  rw [List.pairwise_map, List.pairwise_map] at inOrder
  exact readOnce.and inOrder

end TrailLaw

/-! ## What was written -/

/-- **Every reply answers one request of its receiver.**  The datagrams that a spawned server has
written can be assigned to places of the run at which the reader took a datagram, no two of them to
one place, and in the order in which their replies were queued: each goes to the sender of the
datagram that was taken, and carries the answer to the request in it, which a task has queued since,
under the id that was drawn for it. -/
theorem exists_injective_requests {settings : Settings} {s s' : Server} {moves : List Move}
    (spawned : spawn settings = some s) (run : s.run moves = some s') :
    ∃ readAt queuedAt : Fin s'.written.length → Nat,
      Function.Injective readAt ∧ StrictMono queuedAt ∧
      ∀ i, ∃ datagram request draw reply,
        s.TakesAt moves (readAt i) datagram request ∧
        readAt i < queuedAt i ∧
        s.HandsAt moves (queuedAt i) (.ofRequest datagram.peer request) draw reply ∧
        s'.written[i].peer = datagram.peer ∧
        reply.response.encode = .ok s'.written[i].contents ∧
        request.IsAnsweredBy draw.fresh reply.response := by
  obtain ⟨t, law⟩ := TrailLaw.exists_of_run spawned run
  have size : s'.written.length = t.written.length := by rw [← law.written_eq, List.length_map]
  let entry (i : Fin s'.written.length) : Datagram × Course := t.written.get (i.cast size)
  have datagram_eq (i : Fin s'.written.length) : s'.written[i] = (entry i).1 := by
    simp only [entry, ← law.written_eq, Fin.getElem_fin, List.getElem_map, List.get_eq_getElem,
      Fin.val_cast]
  have apart {i j : Fin s'.written.length} (lt : i < j) :
      (entry i).2.readAt ≠ (entry j).2.readAt ∧ (entry i).2.queuedAt < (entry j).2.queuedAt :=
    List.pairwise_iff_getElem.1 law.written_pairwise _ _ _ _ lt
  refine ⟨fun i => (entry i).2.readAt, fun i => (entry i).2.queuedAt, ?_, ?_, fun i => ?_⟩
  · intro i j same
    rcases lt_trichotomy i j with lt | eq | gt
    · exact absurd same (apart lt).1
    · exact eq
    · exact absurd same.symm (apart gt).1
  · intro i j lt
    exact (apart lt).2
  · obtain ⟨reply, answers, peer, encoded⟩ := law.written (entry i) (List.get_mem _ _)
    obtain ⟨errand, draw, ⟨datagram, request, taken, rfl⟩, before, handed⟩ := answers
    have ⟨_, _, _, settled, _, _, _, settling, _, queued, _⟩ := handed
    rw [datagram_eq]
    refine ⟨datagram, request, draw, reply, taken, before, handed, ?_, encoded, ?_⟩
    · rw [peer, queued]
      rfl
    · rw [queued]
      exact Errand.isAnsweredBy_of_settle settling

/-- Three datagrams, of which one is no request; the request that was read last is answered first. -/
def crossedReplies : List Move :=
  let login : Datagram := ⟨.loopback 9000, (Request.ofCredentials "alice" "pw").written⟩
  let noise : Datagram := ⟨.loopback 9001, [0xDE, 0xAD]⟩
  let forged : Datagram := ⟨.loopback 9002, (Request.ofShutdown.withSession ⟨"forged"⟩).written⟩
  [.arrive login, .arrive noise, .arrive forged, .read, .accept, .start, .read, .read, .accept,
    .start, .task (.serve 1 ⟨⟨"unused"⟩, 1⟩), .task (.serve 0 ⟨⟨"first"⟩, 2⟩), .take, .write, .take,
    .write]

theorem exists_injective_requests_of_crossedReplies :
    spawn {} = some (opened 0 {}) ∧
    ∃ s', (opened 0 {}).run crossedReplies = some s' ∧
      s'.written.map (·.peer) = [.loopback 9002, .loopback 9000] ∧
      ∃ readAt queuedAt : Fin s'.written.length → Nat,
        Function.Injective readAt ∧ StrictMono queuedAt ∧
        ∀ i, ∃ datagram request draw reply,
          (opened 0 {}).TakesAt crossedReplies (readAt i) datagram request ∧
          readAt i < queuedAt i ∧
          (opened 0 {}).HandsAt crossedReplies (queuedAt i) (.ofRequest datagram.peer request) draw
            reply ∧
          s'.written[i].peer = datagram.peer ∧
          reply.response.encode = .ok s'.written[i].contents ∧
          request.IsAnsweredBy draw.fresh reply.response := by
  have spawned : spawn {} = some (opened 0 {}) := by decide
  have peers : ((opened 0 {}).run crossedReplies).map (fun s' => s'.written.map (·.peer)) =
      some [.loopback 9002, .loopback 9000] := by decide +kernel
  obtain ⟨s', run, written⟩ := Option.map_eq_some_iff.1 peers
  exact ⟨spawned, s', run, written, exists_injective_requests spawned run⟩

end Server

end DatagramSession
