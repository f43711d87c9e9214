import DatagramSession.Proofs.Server.Capacity
import DatagramSession.Proofs.Server.ReplySize
import DatagramSession.Proofs.Server.Rest

/-!
# A single request

A listening server that has one request to deal with has one thing to do at a time, and always can
do it: the reader reads and admits, a task is started and served, the writer takes the reply and
writes it.  So a request that fits, in a datagram of its own, goes through the server in six moves,
and nothing else moves meanwhile.

* `Holds`: a listening server with this much work, and no more.
* `Passage`: the work that a request makes, and the table that goes with it.
* `Passage.step`: every steady move brings the request further, and the last one writes its reply.
* `Passage.exists_step`: there is such a move.
* `Holds.not_step_of_nothing`, `IsDone.step`: without a request nothing moves, but that a server
  which is to stop comes to its end.
-/

namespace DatagramSession

/-- An id of 36 octets that the table does not have. -/
def Draw.IsFreshFor (draw : Draw) (table : Table) : Prop :=
  draw.fresh.text.utf8ByteSize = 36 ∧ draw.fresh ∉ table.ids

instance (draw : Draw) (table : Table) : Decidable (draw.IsFreshFor table) :=
  inferInstanceAs (Decidable (_ ∧ _))

/-- It is a session. -/
theorem Draw.IsFreshFor.isAbsent_eq {draw : Draw} {table : Table} (fresh : draw.IsFreshFor table) :
    draw.fresh.isAbsent = false := by
  rw [SessionId.isAbsent, String.isEmpty, fresh.1]
  rfl

namespace Server

/-- What a move draws, if a task makes it to settle its errand. -/
def Move.draw? : Move → Option Draw
  | .task (.serve _ draw) => some draw
  | _ => none

/-! ## Work -/

/-- What there is to do for a request. -/
inductive Work where
  | nothing
  | arrived (datagram : Datagram)
  | admitting (errand : Errand)
  | admitted (errand : Errand)
  | live (errand : Errand)
  | queued (reply : Reply)
  | busy (datagram : Datagram) (closes : Bool)

namespace Work

def inbox : Work → List Datagram
  | arrived datagram => [datagram]
  | _ => []

def reading : Work → Reading
  | admitting errand => .admitting errand
  | admitted errand => .admitted errand
  | _ => .ready

def errands : Work → List Errand
  | live errand => [errand]
  | _ => []

def queue : Work → List Reply
  | queued reply => [reply]
  | _ => []

def writing : Work → Writing
  | busy datagram closes => .busy datagram closes
  | _ => .ready

end Work

/-- A server that listens, and has this to do and nothing else. -/
structure Holds (s : Server) (w : Work) : Prop where
  life : s.lifecycle = ⟨.listening, false⟩
  inbox : s.inbox = w.inbox
  reading : s.reading = w.reading
  errands : s.desk.tasks.map (·.errand) = w.errands
  queue : s.desk.outbox.queue = w.queue
  holders : s.desk.outbox.holders = []
  writing : s.writing = w.writing

namespace Holds

variable {s s' : Server} {w : Work} {settings : Settings} {m : Move}

theorem of_inbox (holds : s.Holds w) {d : Datagram} {rest : List Datagram}
    (inbox : s.inbox = d :: rest) : w = .arrived d ∧ rest = [] := by
  have same := holds.inbox.symm.trans inbox
  cases w with
  | arrived => cases same; exact ⟨rfl, rfl⟩
  | _ => cases same

theorem of_admitting (holds : s.Holds w) {e : Errand} (reading : s.reading = .admitting e) :
    w = .admitting e := by
  have same := holds.reading.symm.trans reading
  cases w with
  | admitting => cases same; rfl
  | _ => cases same

theorem of_admitted (holds : s.Holds w) {e : Errand} (reading : s.reading = .admitted e) :
    w = .admitted e := by
  have same := holds.reading.symm.trans reading
  cases w with
  | admitted => cases same; rfl
  | _ => cases same

/-- The live task is the only one. -/
theorem of_live (holds : s.Holds w) {ticket : Ticket} {e : Errand}
    (live : s.desk.errand? ticket = some e) : w = .live e ∧ s.desk.tasks = [⟨ticket, e⟩] := by
  have member := Desk.mem_tasks_of_errand? live
  have same := holds.errands
  cases w with
  | live =>
    rcases List.map_eq_singleton_iff.1 same with ⟨t, tasks, rfl⟩
    rw [tasks] at member
    cases List.mem_singleton.1 member
    exact ⟨rfl, tasks⟩
  | _ =>
    rw [List.map_eq_nil_iff.1 same] at member
    cases member

theorem of_take? (holds : s.Holds w) {reply : Reply} {outbox : Outbox}
    (taken : s.desk.outbox.take? = some (reply, outbox)) :
    w = .queued reply ∧ outbox.queue = [] := by
  have same := holds.queue.symm.trans (Outbox.queue_of_take?_eq_some taken)
  cases w with
  | queued =>
    rcases List.cons_eq_cons.1 same with ⟨rfl, rest⟩
    exact ⟨rfl, rest.symm⟩
  | _ => cases same

theorem of_busy (holds : s.Holds w) {d : Datagram} {closes : Bool}
    (writing : s.writing = .busy d closes) : w = .busy d closes := by
  have same := holds.writing.symm.trans writing
  cases w with
  | busy => cases same; rfl
  | _ => cases same

theorem not_cancelled (holds : s.Holds w) : s.lifecycle.isCancelled = false := by
  rw [holds.life]

theorem reading_ne_ended (holds : s.Holds w) : s.reading ≠ .ended := by
  rw [holds.reading]
  cases w <;> nofun

theorem writing_ne_ended (holds : s.Holds w) : s.writing ≠ .ended := by
  rw [holds.writing]
  cases w <;> nofun

theorem senders_ne_zero (holds : s.Holds w) : s.senders ≠ 0 := by
  intro nobody
  exact holds.reading_ne_ended (senders_eq_zero_iff.1 nobody).1

/-- With nobody in line and an empty queue, a task finds a slot. -/
theorem isServable (holds : s.Holds w) (law : CapacityLaw settings s)
    (capacity : 0 < settings.outboxCapacity) (empty : w.queue = []) (ticket : Ticket) :
    s.desk.outbox.isServable ticket = true := by
  rcases law.slots holds.writing_ne_ended with ⟨isOpen, slots⟩
  rcases List.append_eq_nil_iff.1 holds.holders with ⟨granted, line⟩
  have free : 0 < s.desk.outbox.free := by
    rw [Outbox.slots, holds.queue, empty, granted] at slots
    simp only [List.length_nil] at slots
    omega
  simp [Outbox.isServable, isOpen, granted, line, free]

/-- A server with nothing to do makes no steady move. -/
theorem not_step_of_nothing (holds : s.Holds .nothing) (h : Step s m s')
    (steady : m.isSteady = true) : False := by
  cases h with
  | read _ inbox => cases (holds.of_inbox inbox).1
  | drop _ inbox => cases (holds.of_inbox inbox).1
  | accept admitting => cases holds.of_admitting admitting
  | start admitted => cases holds.of_admitted admitted
  | quit _ cancelled => cases holds.not_cancelled.symm.trans cancelled
  | task step =>
    cases step with
    | wait live => cases (holds.of_live live).1
    | settle live => cases (holds.of_live live).1
    | giveUp gaveUp =>
      rcases gaveUp.live with ⟨errand, live⟩
      cases (holds.of_live live).1
  | take _ taken => cases (holds.of_take? taken).1
  | skip _ taken => cases (holds.of_take? taken).1
  | write busy => cases holds.of_busy busy
  | finish _ _ nobody => exact holds.senders_ne_zero nobody
  | retire ended => exact holds.reading_ne_ended ended
  | _ => cases steady

end Holds

/-- A server that is to stop, or has stopped, and has dealt with everything. -/
structure IsDone (s : Server) : Prop where
  stage : .stopping ≤ s.stage
  inbox : s.inbox = []
  reading : s.reading = .ready ∨ s.reading = .ended
  tasks : s.desk.tasks = []
  queue : s.desk.outbox.queue = []
  writing : s.writing = .ready ∨ s.writing = .ended

/-- It still ends its parts and sets the last stage, and does nothing else. -/
theorem IsDone.step {s s' : Server} {m : Move} (done : s.IsDone) (h : Step s m s')
    (steady : m.isSteady = true) :
    s'.IsDone ∧ s'.desk.table = s.desk.table ∧ s'.written = s.written := by
  have noTask : ∀ ticket errand, s.desk.errand? ticket ≠ some errand := by
    intro ticket errand live
    have member := Desk.mem_tasks_of_errand? live
    rw [done.tasks] at member
    cases member
  have noReply : ∀ reply outbox, s.desk.outbox.take? ≠ some (reply, outbox) := by
    intro reply outbox taken
    cases done.queue.symm.trans (Outbox.queue_of_take?_eq_some taken)
  cases h with
  | read _ inbox => cases done.inbox.symm.trans inbox
  | drop _ inbox => cases done.inbox.symm.trans inbox
  | accept admitting => rcases done.reading with same | same <;> cases same.symm.trans admitting
  | start admitted => rcases done.reading with same | same <;> cases same.symm.trans admitted
  | quit => exact ⟨{ done with reading := .inr rfl }, rfl, rfl⟩
  | task step =>
    cases step with
    | wait live => exact absurd live (noTask _ _)
    | settle live => exact absurd live (noTask _ _)
    | giveUp gaveUp =>
      rcases gaveUp.live with ⟨errand, live⟩
      exact absurd live (noTask _ _)
  | take _ taken => exact absurd taken (noReply _ _)
  | skip _ taken => exact absurd taken (noReply _ _)
  | write busy => rcases done.writing with same | same <;> cases same.symm.trans busy
  | finish => exact ⟨{ done with queue := rfl, writing := .inr rfl }, rfl, rfl⟩
  | retire => exact ⟨{ done with stage := Nat.le_succ 2 }, rfl, rfl⟩
  | _ => cases steady

/-! ## The passage of a request -/

/-- A request that is answered within the limit: it has the body that its header announces, and both
it and its reply fit. -/
structure IsSound (r : Request) (table : Table) : Prop where
  body : r.bodyAction = r.action
  within : r.encode = .ok r.written
  reply : r.replySize table ≤ 61440
  sized : ∀ id ∈ table.ids, id.text.utf8ByteSize = 36

/-- The request is settled so, when a fresh id is drawn. -/
def Settles (sender : Address) (r : Request) (table : Table) (settled : Settlement) : Prop :=
  ∃ draw : Draw, draw.IsFreshFor table ∧
    (Errand.ofRequest sender r).settle draw table = .ok settled

/-- The work that a request makes on its way, and the table that there is then. -/
def Passage (sender : Address) (r : Request) (table : Table) : Work → Table → Prop
  | .nothing, _ => False
  | .arrived d, now => d = ⟨sender, r.written⟩ ∧ now = table
  | .admitting e, now | .admitted e, now | .live e, now => e = .ofRequest sender r ∧ now = table
  | .queued reply, now => ∃ settled, Settles sender r table settled ∧
      reply = .ofVerdict sender settled.verdict ∧ now = settled.table
  | .busy d closes, now => ∃ settled, Settles sender r table settled ∧
      d = ⟨sender, settled.verdict.response.written⟩ ∧ closes = settled.verdict.isShutDown ∧
      now = settled.table

/-- What is left to do when a reply has been written. -/
def Leaves (closes : Bool) (s : Server) : Prop := if closes then s.IsDone else s.Holds .nothing

/-- The reply to a sound request is within the limit. -/
theorem IsSound.encode {r : Request} {table : Table} (sound : IsSound r table) {sender : Address}
    {settled : Settlement} (settles : Settles sender r table settled) :
    settled.verdict.response.encode = .ok settled.verdict.response.written := by
  rcases settles with ⟨draw, fresh, settling⟩
  exact (Errand.encode_of_settle sound.sized fresh.1 settling).trans (if_pos sound.reply)

/-- With its reply written, a request has nothing more done for it. -/
theorem Leaves.step {s s' : Server} {closes : Bool} {m : Move} (leaves : Leaves closes s)
    (h : Step s m s') (steady : m.isSteady = true) :
    Leaves closes s' ∧ s'.desk.table = s.desk.table ∧ s'.written = s.written := by
  cases closes with
  | false => exact (Holds.not_step_of_nothing leaves h steady).elim
  | true => exact IsDone.step leaves h steady

theorem Leaves.rests {s : Server} {closes : Bool} (leaves : Leaves closes s) :
    s.Holds .nothing ∨ s.IsDone := by
  cases closes with
  | false => exact .inl leaves
  | true => exact .inr leaves

/-- A sound request is read back from its datagram. -/
theorem IsSound.decode {r : Request} {table : Table} (sound : IsSound r table) :
    Request.decode (r.written.take Wire.limit) = .ok r := by
  have fits : r.written.length ≤ 61440 := (Wire.length_le_of_sealed sound.within).2
  have whole : r.written.take Wire.limit = r.written := List.take_of_length_le fits
  rw [whole]
  exact Request.decode_written (Request.isCountable_of_encode sound.within) sound.body

/-- A server that has written its reply goes on, or is to stop and has dealt with everything. -/
theorem Holds.leaves {s : Server} {d : Datagram} {closes : Bool}
    (holds : s.Holds (.busy d closes)) :
    Leaves closes { s with
      writing := .ready
      written := s.written ++ [d]
      lifecycle := if closes then s.lifecycle.stopped else s.lifecycle } := by
  cases closes with
  | false => exact { holds with writing := rfl }
  | true =>
    exact ⟨s.lifecycle.stopping_le_stopped, holds.inbox, .inl holds.reading,
      List.map_eq_nil_iff.1 holds.errands, holds.queue, .inl rfl⟩

namespace Passage

variable {s s' : Server} {w : Work} {settings : Settings} {m : Move} {sender : Address}
  {r : Request} {table : Table}

/-- **One move.**  A steady move brings a request further in its passage, or writes its reply. -/
theorem step (passage : Passage sender r table w s.desk.table) (holds : s.Holds w)
    (sound : IsSound r table) (law : CapacityLaw settings s)
    (capacity : 0 < settings.outboxCapacity) (h : Step s m s') (steady : m.isSteady = true)
    (fresh : ∀ draw ∈ m.draw?, draw.IsFreshFor s.desk.table) :
    (∃ w', s'.Holds w' ∧ Passage sender r table w' s'.desk.table ∧ s'.written = s.written) ∨
    ∃ settled, Settles sender r table settled ∧ s'.desk.table = settled.table ∧
      s'.written = s.written ++ [⟨sender, settled.verdict.response.written⟩] ∧
      Leaves settled.verdict.isShutDown s' := by
  cases h with
  | @read d rest request _ inbox decoded =>
    rcases holds.of_inbox inbox with ⟨rfl, rfl⟩
    rcases passage with ⟨rfl, known⟩
    cases decoded.symm.trans sound.decode
    exact .inl ⟨.admitting _, { holds with inbox := rfl, reading := rfl }, ⟨rfl, known⟩, rfl⟩
  | drop _ inbox rejected =>
    rcases holds.of_inbox inbox with ⟨rfl, rfl⟩
    rcases passage with ⟨rfl, -⟩
    cases rejected.symm.trans sound.decode
  | accept admitting =>
    cases holds.of_admitting admitting
    exact .inl ⟨.admitted _, { holds with reading := rfl }, passage, rfl⟩
  | @start errand admitted =>
    cases holds.of_admitted admitted
    have none : s.desk.tasks = [] := List.map_eq_nil_iff.1 holds.errands
    have tasks : (s.desk.start errand).tasks.map (·.errand) = [errand] := by
      rw [Desk.start, none]
      rfl
    exact .inl ⟨.live _, { holds with reading := rfl, errands := tasks }, passage, rfl⟩
  | quit _ cancelled => cases holds.not_cancelled.symm.trans cancelled
  | @task m desk step =>
    cases step with
    | wait live _ _ unservable =>
      rcases holds.of_live live with ⟨rfl, -⟩
      cases unservable.symm.trans (holds.isServable law capacity rfl _)
    | @settle ticket draw errand settled live servable settling =>
      rcases holds.of_live live with ⟨rfl, tasks⟩
      rcases passage with ⟨rfl, known⟩
      have drawn := fresh draw rfl
      rw [known] at drawn settling
      refine .inl ⟨.queued _, { holds with errands := ?_, queue := ?_, holders := ?_ },
        ⟨settled, ⟨draw, drawn, settling⟩, rfl, rfl⟩, rfl⟩
      · simp only [Desk.finish, tasks]
        simp [Work.errands]
      · rw [Desk.outbox_finish, Outbox.queue_put, holds.queue]
        rfl
      · rw [Desk.outbox_finish, Outbox.holders_put servable, holds.holders]
        rfl
    | giveUp gaveUp =>
      cases gaveUp with
      | mismatched live servable mismatch =>
        rcases holds.of_live live with ⟨rfl, -⟩
        rcases passage with ⟨rfl, -⟩
        rcases Errand.exists_settle_eq_ok sound.body sender _ _ with ⟨settled, settling⟩
        cases settling.symm.trans mismatch
      | abandon _ cancelled => cases holds.not_cancelled.symm.trans cancelled
      | refuse _ closed => cases (law.slots holds.writing_ne_ended).1.symm.trans closed
      | expire => cases steady
  | @take reply outbox contents _ taken encoded =>
    rcases holds.of_take? taken with ⟨rfl, rest⟩
    rcases passage with ⟨settled, settles, rfl, known⟩
    cases encoded.symm.trans (sound.encode settles)
    have holders : outbox.holders = [] := (Outbox.slots_of_take? taken).2.2.trans holds.holders
    exact .inl ⟨.busy _ _, { holds with queue := rest, holders := holders, writing := rfl },
      ⟨settled, settles, rfl, rfl, known⟩, rfl⟩
  | skip _ taken refused =>
    rcases holds.of_take? taken with ⟨rfl, -⟩
    rcases passage with ⟨settled, settles, rfl, -⟩
    cases refused.symm.trans (sound.encode settles)
  | @write d closes busy =>
    cases holds.of_busy busy
    rcases passage with ⟨settled, settles, rfl, rfl, known⟩
    exact .inr ⟨settled, settles, known, rfl, holds.leaves⟩
  | finish _ _ nobody => exact absurd nobody holds.senders_ne_zero
  | retire ended => exact absurd ended holds.reading_ne_ended
  | _ => cases steady

/-- There is always a steady move for a request in its passage, with any id that is drawn. -/
theorem exists_step (passage : Passage sender r table w s.desk.table) (holds : s.Holds w)
    (sound : IsSound r table) (law : CapacityLaw settings s)
    (capacity : 0 < settings.outboxCapacity) (workers : 0 < settings.workers) (draw : Draw) :
    ∃ m, m.isSteady = true ∧ s.step m ≠ none ∧ ∀ drawn ∈ m.draw?, drawn = draw := by
  have undrawn : ∀ drawn ∈ (none : Option Draw), drawn = draw :=
    fun drawn member => absurd member (Option.not_mem_none drawn)
  cases w with
  | nothing => cases passage
  | arrived d =>
    rcases passage with ⟨rfl, -⟩
    refine ⟨.read, rfl, ?_, undrawn⟩
    simp [Server.step, read, holds.reading, holds.inbox, Work.reading, Work.inbox, sound.decode]
  | admitting e =>
    have free : 0 < s.desk.permits := by
      have permits := law.permits
      have none : s.desk.tasks = [] := List.map_eq_nil_iff.1 holds.errands
      rw [Desk.permitsAndTasks, none, holds.reading] at permits
      simp only [List.length_nil, Work.reading, Reading.permits] at permits
      omega
    refine ⟨.accept, rfl, ?_, undrawn⟩
    simp [Server.step, accept, holds.reading, Work.reading, free]
  | admitted e =>
    refine ⟨.start, rfl, ?_, undrawn⟩
    simp [Server.step, start, holds.reading, Work.reading]
  | live e =>
    rcases List.map_eq_singleton_iff.1 holds.errands with ⟨t, tasks, same⟩
    have found : s.desk.errand? t.ticket = some e := by
      rw [Desk.errand?, tasks]
      simp [same]
    refine ⟨.task (.serve t.ticket draw), rfl, ?_, fun _ same => (Option.some.inj same).symm⟩
    simp [Server.step, Desk.step, found, holds.isServable law capacity rfl]
  | queued reply =>
    refine ⟨.take, rfl, ?_, undrawn⟩
    simp [Server.step, take, Outbox.take?, holds.writing, holds.queue, Work.writing, Work.queue]
  | busy d closes =>
    refine ⟨.write, rfl, ?_, undrawn⟩
    simp [Server.step, write, holds.writing, Work.writing]

end Passage

end Server

end DatagramSession
