import DatagramSession.Server.Basic

/-!
# What one move does

`Server.step` is a partial function, written part by part.  `Step s m s'` is the same move as a
relation: one rule for each thing that can happen, with its guard and with the state that it
leaves.  `Desk.Step` does so for the moves of the tasks, where a task waits, settles its errand or
gives up, and `Desk.GivesUp` names the four reasons to give up.

* `Desk.Step.of_step` and `Step.of_step`: a possible move is an instance of a rule, so every
  invariant of the server is a case analysis over the rules and unfolds no part.
-/

namespace DatagramSession.Server

/-! ## The tasks -/

/-- The task that a move is of. -/
def Task.Move.ticket : Task.Move → Ticket
  | wait ticket | serve ticket _ | abandon ticket | refuse ticket | expire ticket => ticket

/-- The moves by which a task ends without a reply. -/
inductive Desk.GivesUp (d : Desk) (isCancelled : Bool) : Task.Move → Prop
  /-- The body of the request does not belong to its action. -/
  | mismatched {ticket : Ticket} {draw : Draw} {errand : Errand} {mismatch : Mismatch} :
    d.errand? ticket = some errand → d.outbox.isServable ticket = true →
    errand.settle draw d.table = .error mismatch →
    Desk.GivesUp d isCancelled (.serve ticket draw)
  | abandon {ticket : Ticket} {errand : Errand} :
    d.errand? ticket = some errand → isCancelled = true →
    Desk.GivesUp d isCancelled (.abandon ticket)
  | refuse {ticket : Ticket} {errand : Errand} :
    d.errand? ticket = some errand → d.outbox.isOpen = false →
    Desk.GivesUp d isCancelled (.refuse ticket)
  | expire {ticket : Ticket} {errand : Errand} :
    d.errand? ticket = some errand → d.outbox.isOpen = true →
    d.outbox.isServable ticket = false →
    Desk.GivesUp d isCancelled (.expire ticket)

/-- One move of a task. -/
inductive Desk.Step (d : Desk) (isCancelled : Bool) : Task.Move → Desk → Prop
  | wait {ticket : Ticket} {errand : Errand} :
    d.errand? ticket = some errand → isCancelled = false → d.outbox.isOpen = true →
    d.outbox.isServable ticket = false → ticket ∉ d.outbox.line →
    Desk.Step d isCancelled (.wait ticket) { d with outbox := d.outbox.wait ticket }
  | settle {ticket : Ticket} {draw : Draw} {errand : Errand} {settled : Settlement} :
    d.errand? ticket = some errand → d.outbox.isServable ticket = true →
    errand.settle draw d.table = .ok settled →
    Desk.Step d isCancelled (.serve ticket draw)
      ({ d with
        table := settled.table
        outbox := d.outbox.put ticket (.ofVerdict errand.sender settled.verdict) }.finish ticket)
  | giveUp {m : Task.Move} :
    d.GivesUp isCancelled m → Desk.Step d isCancelled m (d.giveUp m.ticket)

/-- The task that gives up is live. -/
theorem Desk.GivesUp.live {d : Desk} {isCancelled : Bool} {m : Task.Move}
    (gaveUp : d.GivesUp isCancelled m) : ∃ errand, d.errand? m.ticket = some errand := by
  cases gaveUp with
  | mismatched live => exact ⟨_, live⟩
  | abandon live => exact ⟨_, live⟩
  | refuse live => exact ⟨_, live⟩
  | expire live => exact ⟨_, live⟩

/-- A possible move of a task waits, settles or gives up. -/
theorem Desk.Step.of_step {d d' : Desk} {isCancelled : Bool} {m : Task.Move}
    (h : d.step isCancelled m = some d') : Desk.Step d isCancelled m d' := by
  cases m with
  | wait ticket =>
    simp only [Desk.step] at h
    split at h
    · next guard =>
      cases h
      simp only [Bool.and_eq_true, Bool.not_eq_true', decide_eq_true_eq] at guard
      obtain ⟨⟨⟨⟨live, uncancelled⟩, isOpen⟩, unservable⟩, outside⟩ := guard
      obtain ⟨errand, live⟩ := Option.isSome_iff_exists.1 live
      exact .wait live uncancelled isOpen unservable outside
    · cases h
  | serve ticket draw =>
    simp only [Desk.step] at h
    split at h
    · next errand live =>
      split at h
      · next servable =>
        cases h
        unfold Desk.serve
        cases settling : errand.settle draw d.table with
        | ok settled => exact .settle live servable settling
        | error mismatch => exact .giveUp (.mismatched live servable settling)
      · cases h
    · cases h
  | abandon ticket =>
    simp only [Desk.step] at h
    split at h
    · next guard =>
      cases h
      obtain ⟨live, cancelled⟩ := Bool.and_eq_true_iff.1 guard
      obtain ⟨errand, live⟩ := Option.isSome_iff_exists.1 live
      exact .giveUp (.abandon live cancelled)
    · cases h
  | refuse ticket =>
    simp only [Desk.step] at h
    split at h
    · next guard =>
      cases h
      obtain ⟨live, closed⟩ := Bool.and_eq_true_iff.1 guard
      obtain ⟨errand, live⟩ := Option.isSome_iff_exists.1 live
      exact .giveUp (.refuse live (by simpa using closed))
    · cases h
  | expire ticket =>
    simp only [Desk.step] at h
    split at h
    · next guard =>
      cases h
      simp only [Bool.and_eq_true, Bool.not_eq_true'] at guard
      obtain ⟨⟨live, isOpen⟩, unservable⟩ := guard
      obtain ⟨errand, live⟩ := Option.isSome_iff_exists.1 live
      exact .giveUp (.expire live isOpen unservable)
    · cases h

/-! ## The server -/

/-- One move of a server. -/
inductive Step (s : Server) : Move → Server → Prop
  | arrive (datagram : Datagram) :
    Step s (.arrive datagram) { s with inbox := s.inbox ++ [datagram] }
  | stop : Step s .stop { s with lifecycle := s.lifecycle.stopped }
  | save (id : SessionId) (now : Instant) :
    Step s (.save id now) { s with desk := { s.desk with table := (s.desk.table.save id now).2 } }
  | push {reply : Reply} {outbox : Outbox} :
    0 < s.spare → s.desk.outbox.push? reply = some outbox →
    Step s (.push reply) { s with desk := { s.desk with outbox := outbox } }
  | letGo : 0 < s.spare → Step s .letGo { s with spare := s.spare - 1 }
  | join : s.stage = .stopped → Step s .join s
  | read {datagram : Datagram} {rest : List Datagram} {request : Request} :
    s.reading = .ready → s.inbox = datagram :: rest →
    Request.decode (datagram.contents.take Wire.limit) = .ok request →
    Step s .read
      { s with inbox := rest, reading := .admitting (.ofRequest datagram.peer request) }
  /-- A datagram that is no request is dropped. -/
  | drop {datagram : Datagram} {rest : List Datagram} {failure : Wire.Failure} :
    s.reading = .ready → s.inbox = datagram :: rest →
    Request.decode (datagram.contents.take Wire.limit) = .error failure →
    Step s .read { s with inbox := rest }
  | failRead :
    s.reading = .ready →
    Step s .failRead { s with reading := .ended, lifecycle := s.lifecycle.stopped }
  | accept {errand : Errand} :
    s.reading = .admitting errand → 0 < s.desk.permits →
    Step s .accept { s with
      reading := .admitted errand
      desk := { s.desk with permits := s.desk.permits - 1 } }
  | start {errand : Errand} :
    s.reading = .admitted errand →
    Step s .start { s with reading := .ready, desk := s.desk.start errand }
  | quit :
    (s.reading = .ready ∨ ∃ errand, s.reading = .admitting errand) →
    s.lifecycle.isCancelled = true → Step s .quit { s with reading := .ended }
  | task {m : Task.Move} {desk : Desk} :
    s.desk.Step s.lifecycle.isCancelled m desk → Step s (.task m) { s with desk := desk }
  | take {reply : Reply} {outbox : Outbox} {contents : Octets} :
    s.writing = .ready → s.desk.outbox.take? = some (reply, outbox) →
    reply.response.encode = .ok contents →
    Step s .take { s with
      writing := .busy ⟨reply.recipient, contents⟩ reply.closes
      desk := { s.desk with outbox := outbox } }
  /-- A reply that exceeds the limit is taken out and skipped. -/
  | skip {reply : Reply} {outbox : Outbox} {failure : Wire.Failure} :
    s.writing = .ready → s.desk.outbox.take? = some (reply, outbox) →
    reply.response.encode = .error failure →
    Step s .take { s with writing := .ready, desk := { s.desk with outbox := outbox } }
  | write {datagram : Datagram} {closes : Bool} :
    s.writing = .busy datagram closes →
    Step s .write { s with
      writing := .ready
      written := s.written ++ [datagram]
      lifecycle := if closes then s.lifecycle.stopped else s.lifecycle }
  | failWrite {datagram : Datagram} {closes : Bool} :
    s.writing = .busy datagram closes →
    Step s .failWrite { s.endWriting with lifecycle := s.lifecycle.stopped }
  | finish :
    s.writing = .ready → s.desk.outbox.queue = [] → s.senders = 0 → Step s .finish s.endWriting
  | retire :
    s.reading = .ended → s.writing = .ended → s.stage ≠ .stopped →
    Step s .retire { s with lifecycle := { s.lifecycle with stage := .stopped } }

/-- The reader takes a request or drops a datagram. -/
theorem Step.of_read {s s' : Server} (h : s.read = some s') : Step s .read s' := by
  unfold Server.read at h
  split at h
  · next datagram rest ready inbox =>
    split at h
    · next request decoded =>
      cases h
      exact .read ready inbox decoded
    · next failure rejected =>
      cases h
      exact .drop ready inbox rejected
  · cases h

theorem Step.of_accept {s s' : Server} (h : s.accept = some s') : Step s .accept s' := by
  unfold Server.accept at h
  split at h
  · next errand admitting =>
    split at h
    · next permits =>
      cases h
      exact .accept admitting permits
    · cases h
  · cases h

theorem Step.of_quit {s s' : Server} (h : s.quit = some s') : Step s .quit s' := by
  unfold Server.quit at h
  split at h
  · next ready =>
    split at h
    · next cancelled =>
      cases h
      exact .quit (.inl ready) cancelled
    · cases h
  · next errand admitting =>
    split at h
    · next cancelled =>
      cases h
      exact .quit (.inr ⟨errand, admitting⟩) cancelled
    · cases h
  · cases h

/-- The writer takes a reply to write it, or skips it. -/
theorem Step.of_take {s s' : Server} (h : s.take = some s') : Step s .take s' := by
  unfold Server.take at h
  split at h
  · next reply outbox ready taken =>
    cases h
    cases encoded : reply.response.encode with
    | ok contents => exact .take ready taken encoded
    | error failure => exact .skip ready taken encoded
  · cases h

theorem Step.of_finish {s s' : Server} (h : s.finish = some s') : Step s .finish s' := by
  unfold Server.finish at h
  split at h
  · next ready empty =>
    split at h
    · next senders =>
      cases h
      exact .finish ready empty senders
    · cases h
  · cases h

theorem Step.of_push {s s' : Server} {reply : Reply} (h : s.push reply = some s') :
    Step s (.push reply) s' := by
  unfold Server.push at h
  split at h
  · next spare =>
    obtain ⟨outbox, pushed, rfl⟩ := Option.map_eq_some_iff.1 h
    exact .push spare pushed
  · cases h

/-- A possible move is an instance of a rule. -/
theorem Step.of_step {s s' : Server} {m : Move} (h : s.step m = some s') : Step s m s' := by
  cases m with
  | arrive datagram => cases h; exact .arrive datagram
  | stop => cases h; exact .stop
  | save id now => cases h; exact .save id now
  | push reply => exact .of_push h
  | letGo =>
    simp only [Server.step, Server.letGo] at h
    split at h
    · next spare => cases h; exact .letGo spare
    · cases h
  | join =>
    simp only [Server.step, Server.join] at h
    split at h
    · next stopped => cases h; exact .join stopped
    · cases h
  | read => exact .of_read h
  | failRead =>
    simp only [Server.step, Server.failRead] at h
    split at h
    · next ready => cases h; exact .failRead ready
    · cases h
  | accept => exact .of_accept h
  | start =>
    simp only [Server.step, Server.start] at h
    split at h
    · next errand admitted => cases h; exact .start admitted
    · cases h
  | quit => exact .of_quit h
  | task m =>
    obtain ⟨desk, moved, rfl⟩ := Option.map_eq_some_iff.1 h
    exact .task (.of_step moved)
  | take => exact .of_take h
  | write =>
    simp only [Server.step, Server.write] at h
    split at h
    · next datagram closes busy => cases h; exact .write busy
    · cases h
  | failWrite =>
    simp only [Server.step, Server.failWrite] at h
    split at h
    · next datagram closes busy => cases h; exact .failWrite busy
    · cases h
  | finish => exact .of_finish h
  | retire =>
    simp only [Server.step, Server.retire] at h
    split at h
    · next ended =>
      cases h
      exact .retire ended.1 ended.2.1 ended.2.2
    · cases h

end DatagramSession.Server
