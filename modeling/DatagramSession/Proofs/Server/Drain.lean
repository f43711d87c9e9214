import DatagramSession.Proofs.Server.Answer
import DatagramSession.Proofs.Server.Issue
import DatagramSession.Proofs.Server.Stages
import DatagramSession.Proofs.Wire.Layout

/-!
# The end of the outbox

A stop ends the reader and the tasks that wait, and leaves the outbox alone: the writer goes on
until nobody is left who could queue a reply, and that is only after the last reply has been taken
out.  So a server whose writer does not fail has dealt with every reply by the time it has stopped,
in the order in which they were queued.

* `queue_of_step`, `written_of_step`: a move puts replies behind the queue, or takes the first one
  off and hands it to the writer.
* `drained_of_step`: a writer ends when the outbox is empty and nobody can queue a reply, and this
  stays so.
* `DrainLaw.of_run`: what has been taken out and what has been written, along a run.
* `drained_of_stopped`: what has become of all replies when the server has stopped.
-/

namespace DatagramSession

/-- The datagram that a reply is written as; a reply above the limit is written as none. -/
def Reply.datagram? (reply : Reply) : Option Datagram :=
  reply.response.encode.toOption.map fun contents => ⟨reply.recipient, contents⟩

theorem Reply.datagram?_of_encode {reply : Reply} {contents : Octets}
    (encoded : reply.response.encode = .ok contents) :
    reply.datagram? = some ⟨reply.recipient, contents⟩ := by
  rw [datagram?, encoded]
  rfl

theorem Reply.datagram?_of_refused {reply : Reply} {failure : Wire.Failure}
    (refused : reply.response.encode = .error failure) : reply.datagram? = none := by
  rw [datagram?, refused]
  rfl

theorem Reply.datagram?_of_le {reply : Reply} (fits : reply.response.written.length ≤ 61440) :
    reply.datagram? = some ⟨reply.recipient, reply.response.written⟩ :=
  datagram?_of_encode ((Wire.sealed_eq _).trans (if_pos fits))

namespace Server

/-! ## One move -/

/-- The replies that a move puts into the outbox: those of tasks and those of owners. -/
def entered (s : Server) : Move → Server → List Reply
  | .push reply, _ => [reply]
  | m, s' => (s.handed m s').map (·.2)

/-- The reply that a move takes out of the outbox. -/
def taken (s : Server) : Move → Server → List Reply
  | .take, _ => s.desk.outbox.queue.head?.toList
  | _, _ => []

/-- What is taken out comes off the front of the queue, and what is put in goes to its end. -/
theorem queue_of_step {s s' : Server} {m : Move} (h : Step s m s') (sound : m ≠ .failWrite) :
    s.taken m s' ++ s'.desk.outbox.queue = s.desk.outbox.queue ++ s.entered m s' := by
  cases h with
  | push _ pushed =>
    have queue := Outbox.queue_of_push?_eq_some pushed
    simp only [taken, entered, queue, List.nil_append]
  | task step =>
    cases step with
    | wait => simp [taken, entered, handed_wait]
    | settle => simp [taken, entered, handed_settle]
    | giveUp => simp [taken, entered, handed_giveUp]
  | take _ taken =>
    have queue := Outbox.queue_of_take?_eq_some taken
    simp [Server.taken, entered, handed, queue]
  | skip _ taken =>
    have queue := Outbox.queue_of_take?_eq_some taken
    simp [Server.taken, entered, handed, queue]
  | finish _ empty =>
    have discarded : s.endWriting.desk.outbox.queue = [] := rfl
    simp [taken, entered, handed, empty, discarded]
  | failWrite => contradiction
  | _ => simp [taken, entered, handed, Desk.start]

/-- What the writer has been given is what was taken out, so far as it can be written. -/
theorem written_of_step {s s' : Server} {m : Move} (h : Step s m s') (sound : m ≠ .failWrite) :
    s'.written ++ s'.writing.datagram?.toList =
      s.written ++ s.writing.datagram?.toList ++ (s.taken m s').filterMap Reply.datagram? := by
  cases h with
  | take ready taken encoded =>
    have queue := Outbox.queue_of_take?_eq_some taken
    have sent := Reply.datagram?_of_encode encoded
    simp [Server.taken, queue, sent, ready, Writing.datagram?]
  | skip ready taken refused =>
    have queue := Outbox.queue_of_take?_eq_some taken
    have sent := Reply.datagram?_of_refused refused
    simp [Server.taken, queue, sent, ready, Writing.datagram?]
  | write busy => simp [taken, busy, Writing.datagram?]
  | finish ready => simp [taken, ready, Writing.datagram?, endWriting]
  | failWrite => contradiction
  | _ => simp [taken]

/-- When nobody can queue a reply, nobody does. -/
theorem queue_of_senders_eq_zero {s s' : Server} {m : Move} (h : Step s m s')
    (nobody : s.senders = 0) (empty : s.desk.outbox.queue = []) :
    s'.desk.outbox.queue = [] ∧ s'.senders = 0 := by
  obtain ⟨readerEnded, noTask, noSpare⟩ := senders_eq_zero_iff.1 nobody
  have dead : ∀ ticket errand, s.desk.errand? ticket ≠ some errand := by
    intro ticket errand live
    have member := Desk.mem_tasks_of_errand? live
    rw [noTask] at member
    cases member
  cases h with
  | push spare => exact absurd noSpare (Nat.ne_of_gt spare)
  | letGo spare => exact absurd noSpare (Nat.ne_of_gt spare)
  | read ready => cases readerEnded.symm.trans ready
  | drop ready => cases readerEnded.symm.trans ready
  | failRead ready => cases readerEnded.symm.trans ready
  | accept admitting => cases readerEnded.symm.trans admitting
  | start admitted => cases readerEnded.symm.trans admitted
  | task step =>
    cases step with
    | wait live => exact absurd live (dead _ _)
    | settle live => exact absurd live (dead _ _)
    | giveUp gaveUp =>
      cases gaveUp with
      | mismatched live => exact absurd live (dead _ _)
      | abandon live => exact absurd live (dead _ _)
      | refuse live => exact absurd live (dead _ _)
      | expire live => exact absurd live (dead _ _)
  | take _ taken =>
    have queue := Outbox.queue_of_take?_eq_some taken
    rw [empty] at queue
    cases queue
  | skip _ taken =>
    have queue := Outbox.queue_of_take?_eq_some taken
    rw [empty] at queue
    cases queue
  | quit => exact ⟨empty, senders_eq_zero_iff.2 ⟨rfl, noTask, noSpare⟩⟩
  | failWrite => exact ⟨rfl, nobody⟩
  | finish => exact ⟨rfl, nobody⟩
  | _ => exact ⟨empty, nobody⟩

/-- The writer has ended for want of replies, and there will be none. -/
def IsDrained (s : Server) : Prop :=
  s.writing = .ended → s.desk.outbox.queue = [] ∧ s.senders = 0

theorem drained_of_step {s s' : Server} {m : Move} (h : Step s m s') (sound : m ≠ .failWrite)
    (drained : s.IsDrained) : s'.IsDrained := by
  intro ended
  by_cases before : s.writing = .ended
  · obtain ⟨empty, nobody⟩ := drained before
    exact queue_of_senders_eq_zero h nobody empty
  · cases h with
    | take => cases ended
    | skip => cases ended
    | write => cases ended
    | failWrite => contradiction
    | finish _ _ nobody => exact ⟨rfl, nobody⟩
    | _ => exact absurd ended before

/-- A login that draws an id puts a reply with it into the outbox. -/
theorem exists_entered_of_drawn {s s' : Server} {m : Move} (h : Step s m s') {id : SessionId}
    (drawn : id ∈ s.drawnIds m) : ∃ reply ∈ s.entered m s', issuedId? reply.response = some id := by
  rw [← map_issued_eq_drawnIds h] at drawn
  obtain ⟨⟨ticket, id⟩, issuedPair, rfl⟩ := List.mem_map.1 drawn
  obtain ⟨⟨server, reply⟩, handedPair, told⟩ := List.mem_filterMap.1 issuedPair
  obtain ⟨told, issue, same⟩ := Option.map_eq_some_iff.1 told
  cases same
  refine ⟨reply, ?_, issue⟩
  cases m with
  | push other => cases handedPair
  | _ => exact List.mem_map.2 ⟨_, handedPair, rfl⟩

/-! ## A whole run -/

namespace Supervised

/-- The ids that logins draw along a run. -/
def drawnIds (v : Supervised) (moves : List Move) : List SessionId :=
  v.noted (fun s m _ => s.drawnIds m) moves

/-- The ids that owners save along a run. -/
def ownerIds (v : Supervised) (moves : List Move) : List SessionId :=
  v.noted (fun _ m _ => savedIds [m]) moves

/-- Where the replies of a run are whose writer has not failed. -/
structure DrainLaw (v : Supervised) (moves : List Move) (v' : Supervised) : Prop where
  /-- What was put in is taken out in order, or still queued. -/
  queue : v.noted taken moves ++ v'.server.desk.outbox.queue = v.noted entered moves
  /-- What was taken out is written in order, or being written, or above the limit. -/
  written : v'.server.written ++ v'.server.writing.datagram?.toList =
    (v.noted taken moves).filterMap Reply.datagram?
  drained : v'.server.IsDrained
  told : ∀ id ∈ v.drawnIds moves, ∃ reply ∈ v.noted entered moves,
    issuedId? reply.response = some id
  stored : ∀ id ∈ v'.server.desk.table.ids, id ∈ v.drawnIds moves ∨ id ∈ v.ownerIds moves

/-- What has been seen of the replies does not depend on the lifecycle. -/
theorem entered_proceed (v : Supervised) (s s' : Server) (m : Server.Move) (answers : List Bool) :
    s.entered m (v.proceed s' answers).server = s.entered m s' := by
  cases m <;> rfl

theorem taken_proceed (v : Supervised) (s s' : Server) (m : Server.Move) (answers : List Bool) :
    s.taken m (v.proceed s' answers).server = s.taken m s' := by
  cases m <;> rfl

namespace DrainLaw

variable {v mid after : Supervised} {moves : List Move}

theorem of_spawnWith {spare : Nat} {settings : Settings} {s : Server}
    (spawned : spawnWith spare settings = some s) :
    DrainLaw (ofServer s) [] (ofServer s) := by
  rw [eq_opened_of_spawnWith spawned]
  refine ⟨rfl, rfl, ?_, ?_, ?_⟩
  · intro ended
    cases ended
  · intro id drawn
    cases drawn
  · intro id stored
    cases stored

/-- A move of a part. -/
theorem part (law : DrainLaw v moves mid) {m : Server.Move} {s : Server} {answers : List Bool}
    (before : v.run moves = some mid) (moved : mid.server.step m = some s)
    (step : mid.step (.part m) = some (mid.proceed s answers)) (sound : m ≠ .failWrite) :
    DrainLaw v (moves ++ [.part m]) (mid.proceed s answers) := by
  have h := Server.Step.of_step moved
  have queue := queue_of_step h sound
  have written := written_of_step h sound
  have drained := drained_of_step h sound law.drained
  have later {α : Type} (see : Server → Server.Move → Server → List α) :
      v.noted see (moves ++ [.part m]) =
        v.noted see moves ++ see mid.server m (mid.proceed s answers).server :=
    noted_snoc see before step
  constructor
  · rw [later, later, entered_proceed, taken_proceed, ← law.queue, List.append_assoc,
      List.append_assoc, ← queue]
    rfl
  · rw [later, taken_proceed, List.filterMap_append, ← law.written, ← written]
    rfl
  · exact drained
  · intro id drawn
    rw [drawnIds, later] at drawn
    rw [later, entered_proceed]
    rcases List.mem_append.1 drawn with old | new
    · obtain ⟨reply, member, issue⟩ := law.told id old
      exact ⟨reply, List.mem_append_left _ member, issue⟩
    · obtain ⟨reply, member, issue⟩ := exists_entered_of_drawn h new
      exact ⟨reply, List.mem_append_right _ member, issue⟩
  · intro id stored
    rw [drawnIds, ownerIds, later, later, List.mem_append, List.mem_append]
    rcases (mem_ids_of_step h id).1 stored with old | ⟨_, drawn⟩ | saved
    · rcases law.stored id old with drawn | saved
      · exact .inl (.inl drawn)
      · exact .inr (.inl saved)
    · exact .inl (.inr drawn)
    · exact .inr (.inr saved)

/-- A move after which outbox, table and writer are as they were. -/
theorem quiet (law : DrainLaw v moves mid) {m : Move} (before : v.run moves = some mid)
    (step : mid.step m = some after)
    (unseen : ∀ {α : Type} (see : Server → Server.Move → Server → List α),
      mid.seen see m after = [])
    (outbox : after.server.desk.outbox = mid.server.desk.outbox)
    (table : after.server.desk.table = mid.server.desk.table)
    (writer : after.server.written = mid.server.written ∧
      after.server.writing = mid.server.writing)
    (senders : mid.server.senders = 0 → after.server.senders = 0) :
    DrainLaw v (moves ++ [m]) after := by
  have later {α : Type} (see : Server → Server.Move → Server → List α) :
      v.noted see (moves ++ [m]) = v.noted see moves := by
    rw [noted_snoc see before step, unseen, List.append_nil]
  constructor
  · rw [later, later, outbox]
    exact law.queue
  · rw [later, writer.1, writer.2]
    exact law.written
  · intro ended
    rw [writer.2] at ended
    obtain ⟨empty, nobody⟩ := law.drained ended
    exact ⟨by rw [outbox]; exact empty, senders nobody⟩
  · intro id drawn
    rw [drawnIds, later] at drawn
    rw [later]
    exact law.told id drawn
  · intro id stored
    rw [table] at stored
    rw [drawnIds, ownerIds, later, later]
    exact law.stored id stored

theorem of_step (law : DrainLaw v moves mid) {m : Move} (before : v.run moves = some mid)
    (moved : mid.step m = some after) (writes : m ≠ .part .failWrite) (sound : m ≠ .breakWriter) :
    DrainLaw v (moves ++ [m]) after := by
  cases Step.of_step moved with
  | part _ step =>
    have writes : _ ≠ Server.Move.failWrite := fun same => writes (congrArg Move.part same)
    exact law.part before step moved writes
  | breakWriter => contradiction
  | breakReader live =>
    have desk := desk_abortReading mid.server
    refine law.quiet before moved (fun _ => rfl) ?_ ?_ ⟨by simp, by simp⟩ ?_
    · rw [desk]
    · rw [desk]
    · intro nobody
      exact absurd (senders_eq_zero_iff.1 nobody).1 live
  | seeReader =>
    have server := server_seeReader mid
    refine law.quiet before moved (fun _ => rfl) ?_ ?_ ⟨?_, ?_⟩ ?_
    · rw [server]
    · rw [server]
    · rw [server]
    · rw [server]
    · rw [server]
      exact id
  | _ => exact law.quiet before moved (fun _ => rfl) rfl rfl ⟨rfl, rfl⟩ id

theorem of_run {spare : Nat} {settings : Settings} {s : Server} {v : Supervised}
    (spawned : spawnWith spare settings = some s) (run : (ofServer s).run moves = some v)
    (writes : .part .failWrite ∉ moves) (sound : .breakWriter ∉ moves) :
    DrainLaw (ofServer s) moves v := by
  refine foldlM_induction (motive := fun moves v => .part .failWrite ∉ moves →
    .breakWriter ∉ moves → DrainLaw (ofServer s) moves v) ?_ ?_ run writes sound
  · intro _ _
    exact of_spawnWith spawned
  · intro moves m mid after before moved ih writes sound
    rw [List.mem_append, not_or, List.mem_singleton] at writes sound
    exact (ih writes.1 sound.1).of_step before moved (Ne.symm writes.2) (Ne.symm sound.2)

end DrainLaw

/-- **The outbox is drained before a server has stopped.**  If no write of a spawned server has
failed and its writer has not faulted, then in whatever order its parts, its owners and its
supervisor have moved, by the time that it has stopped

* every reply that was put into the outbox has been taken out once, in the order in which they were
  put in, and has been written to its recipient unless it exceeds the limit;
* the outbox is empty, and no task is left;
* every id that a login drew is in such a reply, which was written unless it exceeds the limit; and
  the table has such ids and those that owners have saved. -/
theorem drained_of_stopped {spare : Nat} {settings : Settings} {s : Server} {v : Supervised}
    {moves : List Move} (spawned : spawnWith spare settings = some s)
    (run : (ofServer s).run moves = some v) (writes : .part .failWrite ∉ moves)
    (sound : .breakWriter ∉ moves) (stopped : v.stage = .stopped) :
    ((ofServer s).noted taken moves = (ofServer s).noted entered moves ∧
      v.server.written = ((ofServer s).noted entered moves).filterMap Reply.datagram?) ∧
    (v.server.desk.outbox.queue = [] ∧ v.server.desk.tasks = []) ∧
    (∀ id ∈ (ofServer s).drawnIds moves, ∃ reply ∈ (ofServer s).noted entered moves,
      issuedId? reply.response = some id ∧
      (⟨reply.recipient, reply.response.written⟩ ∈ v.server.written ∨
        61440 < reply.response.written.length)) ∧
    ∀ id ∈ v.server.desk.table.ids,
      id ∈ (ofServer s).drawnIds moves ∨ id ∈ (ofServer s).ownerIds moves := by
  have law := DrainLaw.of_run spawned run writes sound
  have writerEnded := ((StageLaw.of_run spawned run).ended_of_stopped stopped).2
  obtain ⟨empty, nobody⟩ := law.drained writerEnded
  have taken_eq : (ofServer s).noted taken moves = (ofServer s).noted entered moves := by
    rw [← law.queue, empty, List.append_nil]
  have written_eq :
      v.server.written = ((ofServer s).noted entered moves).filterMap Reply.datagram? := by
    rw [← taken_eq, ← law.written, writerEnded]
    exact (List.append_nil _).symm
  refine ⟨⟨taken_eq, written_eq⟩, ⟨empty, (senders_eq_zero_iff.1 nobody).2.1⟩, ?_, law.stored⟩
  intro id drawn
  obtain ⟨reply, member, issue⟩ := law.told id drawn
  refine ⟨reply, member, issue, ?_⟩
  by_cases fits : reply.response.written.length ≤ 61440
  · left
    rw [written_eq]
    exact List.mem_filterMap.2 ⟨reply, member, Reply.datagram?_of_le fits⟩
  · right
    exact Nat.lt_of_not_le fits

/-- Three logins and one slot.  The server is stopped when the first reply is under way and the
second login has been granted the slot: that login is served all the same, and the third is given
up. -/
def stopWhileWaiting : List Move :=
  let login (port : Nat) : Datagram :=
    ⟨.loopback port, (Request.ofCredentials "alice" "pw").written⟩
  [.part (.arrive (login 9000)), .part (.arrive (login 9001)), .part (.arrive (login 9002)),
    .part .read, .part .accept, .part .start, .part .read, .part .accept, .part .start,
    .part .read, .part .accept, .part .start, .part (.task (.serve 0 ⟨⟨"first"⟩, 1⟩)),
    .part (.task (.wait 1)), .part (.task (.wait 2)), .part .take, .part .stop, .cancel,
    .part .quit, .part (.task (.abandon 2)), .part (.task (.serve 1 ⟨⟨"second"⟩, 2⟩)),
    .part .write, .supervise, .part .take, .part .write, .part .finish, .supervise]

theorem drained_of_stopWhileWaiting :
    let v₀ := ofServer (opened 0 { outboxCapacity := 1 })
    spawnWith 0 { outboxCapacity := 1 } = some (opened 0 { outboxCapacity := 1 }) ∧
    .part .failWrite ∉ stopWhileWaiting ∧ .breakWriter ∉ stopWhileWaiting ∧
    ∃ v, v₀.run stopWhileWaiting = some v ∧ v.stage = .stopped ∧
      v.server.written.map (·.peer) = [.loopback 9000, .loopback 9001] ∧
      v₀.drawnIds stopWhileWaiting = [⟨"first"⟩, ⟨"second"⟩] ∧
      v.server.written = (v₀.noted entered stopWhileWaiting).filterMap Reply.datagram? ∧
      v.server.desk.outbox.queue = [] ∧ v.server.desk.tasks = [] := by
  intro v₀
  have spawned : spawnWith 0 { outboxCapacity := 1 } =
    some (opened 0 { outboxCapacity := 1 }) := by decide
  have writes : .part .failWrite ∉ stopWhileWaiting := by decide +kernel
  have sound : .breakWriter ∉ stopWhileWaiting := by decide +kernel
  have seen : (v₀.run stopWhileWaiting).map (fun v => (v.stage, v.server.written.map (·.peer))) =
      some (.stopped, [.loopback 9000, .loopback 9001]) := by decide +kernel
  obtain ⟨v, run, same⟩ := Option.map_eq_some_iff.1 seen
  simp only [Prod.mk.injEq] at same
  obtain ⟨stopped, peers⟩ := same
  have drawn : v₀.drawnIds stopWhileWaiting = [⟨"first"⟩, ⟨"second"⟩] := by decide +kernel
  obtain ⟨⟨_, written⟩, ⟨empty, idle⟩, _⟩ :=
    drained_of_stopped spawned run writes sound stopped
  exact ⟨spawned, writes, sound, v, run, stopped, peers, drawn, written, empty, idle⟩

end Supervised

end Server

end DatagramSession
