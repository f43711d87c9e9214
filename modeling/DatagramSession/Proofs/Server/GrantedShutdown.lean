import DatagramSession.Proofs.Server.ReplySize
import DatagramSession.Proofs.Server.Stop
import DatagramSession.Proofs.Server.Writer

/-!
# Granted shutdowns

A shutdown is granted by a task, and it is the writer that stops the server, once it has written the
acknowledgement.  The acknowledgement repeats the session of the request and has nine octets more,
so there are sessions, of 61420 to 61428 octets, whose shutdown fits into a datagram and whose
acknowledgement does not; an owner can save one.  Then the writer skips the acknowledgement like any
reply above the limit, and the stop that would follow it does not take place.

* `Grant.entered_place`: the place of the acknowledgement among the replies that were queued.
* `posted_of_finished`: a reply that the writer has finished with is written, if it is within the
  limit and no write has failed.
* `stops_after_acknowledgement`: what becomes of a granted shutdown.
-/

namespace DatagramSession.Server

variable {s s' : Server} {moves : List Move}

/-! ## The acknowledgement -/

namespace Grant

/-- The acknowledgement of a granted shutdown. -/
def reply (g : s.Grant moves) : Reply := ⟨g.peer, g.response, true⟩

/-- How many replies have been put into the outbox before the acknowledgement. -/
def place (g : s.Grant moves) : Nat := (s.noted entered g.before).length

/-- The move that serves a granted shutdown queues the acknowledgement. -/
theorem entered_serving (g : s.Grant moves) {next : Server}
    (moved : g.serving.step (.task (.serve g.ticket g.draw)) = some next) :
    g.serving.entered (.task (.serve g.ticket g.draw)) next = [g.reply] := by
  have agrees : g.header.action = .shutdown := (Request.decode_eq_ok_iff.1 g.decoded).2.1.symm
  have granted := Errand.settle_shutdown (e := .ofRequest g.peer (.shutdown g.header)) agrees rfl
    g.draw g.serving.desk.table
  cases Step.of_step moved with
  | task step =>
    cases step with
    | settle live _ settling =>
      cases g.live.symm.trans live
      cases granted.symm.trans settling
      change (g.serving.handed _ _).map (·.2) = _
      rw [handed_settle, List.map_singleton, Reply.ofVerdict,
        Errand.verdict_shutDown_of_has _ g.known]
      rfl
    | giveUp gaveUp =>
      cases gaveUp with
      | mismatched live _ settling =>
        cases g.live.symm.trans live
        cases granted.symm.trans settling

/-- The acknowledgement is at its place among the replies that have been put into the outbox. -/
theorem entered_place (g : s.Grant moves) (run : s.run moves = some s') :
    (s.noted entered moves)[g.place]? = some g.reply := by
  have around : s.run (g.before ++ .task (.serve g.ticket g.draw) :: g.after) = some s' :=
    g.moves_eq ▸ run
  obtain ⟨mid, next, before, moved, -, split⟩ := exists_of_run_append_cons around
  cases g.run_before.symm.trans before
  have seen := split entered
  rw [← g.moves_eq, g.entered_serving moved] at seen
  rw [seen, place, List.getElem?_append_right (Nat.le_refl _), Nat.sub_self]
  rfl

theorem length_acknowledgement (g : s.Grant moves) :
    g.response.written.length = 21 + g.session.text.utf8ByteSize :=
  ResponseHeader.length_written (.ok .shutdown g.session)

/-- A shutdown came in a datagram, so its session is not longer than fits there. -/
theorem length_session_le (g : s.Grant moves) : g.session.text.utf8ByteSize ≤ 61428 := by
  have written := (Request.decode_eq_ok_iff.1 g.decoded).2.2.length_le
  rw [Request.length_written_shutdown, List.length_take] at written
  have limit : min Wire.limit g.contents.length ≤ 61440 := Nat.min_le_left _ _
  have session : g.session = g.header.session := rfl
  rw [session]
  omega

/-- An acknowledgement that exceeds the limit is skipped. -/
theorem skips_of_long (g : s.Grant moves) (long : 61419 < g.session.text.utf8ByteSize) :
    g.response.encode = .error (.tooLarge (21 + g.session.text.utf8ByteSize) 61440) ∧
      Skips g.reply := by
  have exceeds : ¬ g.response.written.length ≤ 61440 := by
    rw [g.length_acknowledgement]
    omega
  have refused := (Wire.sealed_eq g.response.written).trans (if_neg exceeds)
  rw [g.length_acknowledgement] at refused
  exact ⟨refused, skips_of_encode refused⟩

end Grant

/-! ## What the writer has finished with -/

/-- A reply that the writer of a spawned server has finished with was written, if no write has
failed and it is within the limit. -/
theorem posted_of_finished {spare : Nat} {settings : Settings}
    (spawned : spawnWith spare settings = some s) (run : s.run moves = some s')
    (writes : .failWrite ∉ moves) {reply : Reply} {place : Nat}
    (queued : (s.noted entered moves)[place]? = some reply) (done : place < s.finished moves s')
    (fits : reply.response.written.length ≤ 61440) :
    (⟨reply.recipient, reply.response.written⟩, reply.closes) ∈ s.noted posted moves := by
  have fresh := eq_opened_of_spawnWith spawned
  have running : s.writing ≠ .ended := by
    rw [fresh]
    exact nofun
  have free : s.writing.outgoing? = none := by
    rw [fresh]
    rfl
  have law := PostLaw.of_run running run writes
  have queue := law.queue
  have empty : s.desk.outbox.queue = [] := by
    rw [fresh]
    rfl
  rw [empty, List.nil_append] at queue
  -- what is taken out is the front of what was put in, so the places are the same
  have takenOut : (s.noted taken moves)[place]? = some reply := by
    have within : place < (s.noted taken moves).length :=
      Nat.lt_of_lt_of_le done (Nat.sub_le _ _)
    rwa [← queue, List.getElem?_append_left within] at queued
  rw [law.posted_eq_finished free run, List.mem_filterMap]
  refine ⟨reply, ?_, Reply.outgoing?_of_encode ((Wire.sealed_eq _).trans (if_pos fits))⟩
  refine List.mem_of_getElem? (i := place) ?_
  rw [List.getElem?_take_of_lt done, takenOut]

/-- **A granted shutdown stops the server, if its acknowledgement can be written.**  Let a shutdown
be granted in a run of a spawned server.  Its acknowledgement is put into the outbox, its session
has 61428 octets at most, and

* if the session has 61419 octets at most, then once the writer has finished with the
  acknowledgement, the server is at least stopping, and the acknowledgement has been written unless
  a write has failed;
* otherwise the acknowledgement exceeds the limit.  Whenever the writer comes to it, it skips it,
  which changes nothing about the server but its outbox. -/
theorem stops_after_acknowledgement {spare : Nat} {settings : Settings}
    (spawned : spawnWith spare settings = some s) (run : s.run moves = some s')
    (g : s.Grant moves) :
    (s.noted entered moves)[g.place]? = some g.reply ∧
    g.session.text.utf8ByteSize ≤ 61428 ∧
    (g.session.text.utf8ByteSize ≤ 61419 → g.place < s.finished moves s' →
      .stopping ≤ s'.stage ∧
      (.failWrite ∉ moves → ⟨g.peer, g.response.written⟩ ∈ s'.written)) ∧
    (61419 < g.session.text.utf8ByteSize →
      g.response.encode = .error (.tooLarge (21 + g.session.text.utf8ByteSize) 61440) ∧
      Skips g.reply) := by
  have queued := g.entered_place run
  refine ⟨queued, g.length_session_le, fun short done => ?_, fun long => g.skips_of_long long⟩
  · have fits : g.reply.response.written.length ≤ 61440 := by
      change g.response.written.length ≤ 61440
      rw [g.length_acknowledgement]
      omega
    rw [stopping_le_stage_of_run run]
    by_cases failed : .failWrite ∈ moves
    · exact ⟨.inr (.inr (.inl failed)), fun unfailed => absurd failed unfailed⟩
    · have sent := posted_of_finished spawned run failed queued done fits
      refine ⟨.inr (.inr (.inr ⟨_, sent, rfl⟩)), fun _ => ?_⟩
      rw [written_eq_of_run run]
      exact List.mem_append_right _ (List.mem_map_of_mem (f := Prod.fst) sent)

/-! ## A session that an owner has saved -/

/-- An owner saves a session, and a client shuts the server down with it. -/
def saveThenShutdown (id : SessionId) : List Move :=
  [.save id 1, .arrive ⟨.loopback 9000, (Request.ofShutdown.withSession id).written⟩, .read,
    .accept, .start, .task (.serve 0 ⟨⟨"unused"⟩, 2⟩)]

/-- The server when it is about to serve the shutdown. -/
def savedServing (id : SessionId) : Server :=
  { opened 0 {} with
    desk := { (opened 0 {}).desk with
      table := (Table.empty.save id 1).2
      permits := 63
      tasks := [⟨0, .ofRequest (.loopback 9000) (.shutdown ⟨.shutdown, id⟩)⟩]
      next := 1 } }

section

variable {id : SessionId}

theorem take_written_savedShutdown (fits : id.text.utf8ByteSize ≤ 61428) :
    (Request.shutdown ⟨.shutdown, id⟩).written.take Wire.limit =
      (Request.shutdown ⟨.shutdown, id⟩).written := by
  refine List.take_of_length_le ?_
  rw [Request.length_written_shutdown]
  change 12 + id.text.utf8ByteSize ≤ 61440
  omega

theorem decode_savedShutdown (fits : id.text.utf8ByteSize ≤ 61428) :
    Request.decode ((Request.shutdown ⟨.shutdown, id⟩).written.take Wire.limit) =
      .ok (.shutdown ⟨.shutdown, id⟩) := by
  rw [take_written_savedShutdown fits]
  have short : id.text.utf8ByteSize ≤ 61440 := by omega
  exact Request.decode_written (Wire.isCountable_of_le short) rfl

theorem run_savedServing (fits : id.text.utf8ByteSize ≤ 61428) :
    (opened 0 {}).run (saveThenShutdown id).dropLast = some (savedServing id) := by
  have decoded := decode_savedShutdown fits
  have moves : (saveThenShutdown id).dropLast =
      [.save id 1, .arrive ⟨.loopback 9000, (Request.shutdown ⟨.shutdown, id⟩).written⟩, .read,
        .accept, .start] := rfl
  simp only [moves, run, step, save, opened, List.nil_append, Option.bind_some, Server.read,
    decoded]
  rfl

/-- The grant of that shutdown. -/
def grantOfSaved (present : id.isAbsent = false) (fits : id.text.utf8ByteSize ≤ 61428) :
    (opened 0 {}).Grant (saveThenShutdown id) where
  before := (saveThenShutdown id).dropLast
  after := []
  ticket := 0
  draw := ⟨⟨"unused"⟩, 2⟩
  serving := savedServing id
  peer := .loopback 9000
  header := ⟨.shutdown, id⟩
  contents := (Request.shutdown ⟨.shutdown, id⟩).written
  moves_eq := rfl
  run_before := run_savedServing fits
  arrived := List.mem_cons_of_mem _ List.mem_cons_self
  decoded := decode_savedShutdown fits
  live := rfl
  known := Table.has_iff_mem_ids.2
    (Table.mem_ids_save.2 (.inr ⟨rfl, Bool.eq_false_iff.1 present⟩))

/-- Nothing has been put into the outbox before the acknowledgement. -/
theorem place_grantOfSaved (present : id.isAbsent = false) (fits : id.text.utf8ByteSize ≤ 61428) :
    (grantOfSaved present fits).place = 0 := by
  have unseen : ∀ m ∈ (saveThenShutdown id).dropLast, ∀ s s', entered s m s' = [] := by
    simp [saveThenShutdown, entered, handed]
  exact congrArg List.length (noted_eq_nil unseen (opened 0 {}))

/-- The shutdown is served, and its acknowledgement is queued. -/
theorem exists_run_saveThenShutdown (present : id.isAbsent = false)
    (fits : id.text.utf8ByteSize ≤ 61428) :
    ∃ served, (opened 0 {}).run (saveThenShutdown id) = some served ∧ served.writing = .ready ∧
      served.stage = .listening ∧
      served.desk.outbox.queue = [(grantOfSaved present fits).reply] := by
  let g := grantOfSaved present fits
  let errand : Errand := .ofRequest (.loopback 9000) (.shutdown g.header)
  have served : (savedServing id).step (.task (.serve 0 g.draw)) =
      some { savedServing id with desk := (savedServing id).desk.serve 0 errand g.draw } := rfl
  have run := run_snoc_eq_some_iff.2 ⟨_, run_savedServing fits, served⟩
  have queue := queue_of_step (.of_step served) nofun
  have acknowledged := g.entered_serving served
  exact ⟨_, run, rfl, rfl, queue.trans acknowledged⟩

end

/-- An acknowledgement within the limit is written, and the server stops. -/
theorem stops_after_acknowledgement_of_saved :
    let s := opened 0 {}
    let moves := saveThenShutdown ⟨"first"⟩ ++ [.take, .write]
    spawnWith 0 {} = some s ∧ ∃ s', s.run moves = some s' ∧ ∃ g : s.Grant moves,
      g.session = ⟨"first"⟩ ∧ g.place < s.finished moves s' ∧ .stopping ≤ s'.stage ∧
      ⟨.loopback 9000, g.response.written⟩ ∈ s'.written := by
  intro s moves
  have spawned : spawnWith 0 {} = some s := by decide
  have present : SessionId.isAbsent ⟨"first"⟩ = false := by decide
  have size : "first".utf8ByteSize = 5 := by decide
  have fits : "first".utf8ByteSize ≤ 61428 := by omega
  have ran : (s.run moves).isSome = true := by decide +kernel
  obtain ⟨s', run⟩ := Option.isSome_iff_exists.1 ran
  have finished : (s.run moves).map (s.finished moves) = some 1 := by decide +kernel
  rw [run] at finished
  let g : s.Grant moves := (grantOfSaved present fits).append [.take, .write]
  have done : g.place < s.finished moves s' := by
    rw [Option.some.inj finished]
    exact Nat.lt_of_le_of_lt (place_grantOfSaved present fits).le Nat.zero_lt_one
  obtain ⟨-, -, stops, -⟩ := stops_after_acknowledgement spawned run g
  have short : g.session.text.utf8ByteSize ≤ 61419 := by
    change "first".utf8ByteSize ≤ 61419
    omega
  obtain ⟨stopping, written⟩ := stops short done
  exact ⟨spawned, s', run, g, rfl, done, stopping, written (by decide +kernel)⟩

/-- A session that an owner has saved, and whose acknowledgement exceeds the limit by one octet. -/
def overlongSession : SessionId := ⟨String.ofList (List.replicate 61420 'a')⟩

/-- The server goes on listening after a granted shutdown, when the writer has finished with its
acknowledgement and no write has failed. -/
theorem listens_after_skipped_acknowledgement :
    let s := opened 0 {}
    let moves := saveThenShutdown overlongSession ++ [.take]
    spawnWith 0 {} = some s ∧
    (Request.ofShutdown.withSession overlongSession).written.length = 61432 ∧
    .failWrite ∉ moves ∧ ∃ s', s.run moves = some s' ∧ ∃ g : s.Grant moves,
      g.session = overlongSession ∧ g.place < s.finished moves s' ∧ s'.stage = .listening := by
  intro s moves
  have size : overlongSession.text.utf8ByteSize = 61420 := utf8ByteSize_replicate 61420 (by decide)
  have fits : overlongSession.text.utf8ByteSize ≤ 61428 := by omega
  have present : overlongSession.isAbsent = false := by
    rw [SessionId.isAbsent, Bool.eq_false_iff, Ne, String.isEmpty_iff_utf8ByteSize_eq_zero, size]
    decide
  have long : 61419 < overlongSession.text.utf8ByteSize := by omega
  obtain ⟨served, run, ready, listening, queue⟩ := exists_run_saveThenShutdown present fits
  obtain ⟨outbox, taken, -⟩ := Outbox.exists_take?_of_queue queue
  have skipped := ((grantOfSaved present fits).skips_of_long long).2 served outbox ready taken
  let s' : Server := { served with desk := { served.desk with outbox := outbox } }
  let g : s.Grant moves := (grantOfSaved present fits).append [.take]
  have done : g.place < s.finished moves s' := by
    have place : g.place = 0 := place_grantOfSaved present fits
    have takes : s.noted Server.taken moves =
        s.noted Server.taken (saveThenShutdown overlongSession) ++ [g.reply] := by
      rw [noted_snoc Server.taken run skipped, Server.taken, queue]
      rfl
    have free : s'.writing.outgoing? = none := congrArg Writing.outgoing? ready
    rw [place, finished, takes, free, List.length_append]
    exact Nat.succ_pos _
  refine ⟨by decide, ?_, ?_, s', run_snoc_eq_some_iff.2 ⟨served, run, skipped⟩, g, rfl, done,
    listening⟩
  · have request : Request.ofShutdown.withSession overlongSession =
        .shutdown ⟨.shutdown, overlongSession⟩ := rfl
    rw [request, Request.length_written_shutdown]
    simp only [size]
  · simp [moves, saveThenShutdown]

end DatagramSession.Server
