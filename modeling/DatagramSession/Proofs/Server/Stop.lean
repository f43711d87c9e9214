import DatagramSession.Proofs.Server.Intake
import DatagramSession.Proofs.Server.Issue

/-!
# What stops a server

A client stops a server only with a session: a reply that closes the server is the answer to a
shutdown whose session was in the table when the shutdown was served, and a session gets into the
table only through a login or through an owner.

* `Grant`: a shutdown of the run that was granted, with the datagram that it came in.
* `GrantLaw.of_run`: every closing reply that is queued or under way is that of a grant.
* `stopCause_of_stage_ne_listening`: what must have happened in a run after which the server does
  not listen any more.
-/

namespace DatagramSession.Server

/-- A shutdown that was granted in a run: the move that served it, the state in which it was
served, and the request. -/
structure Grant (s : Server) (moves : List Move) where
  before : List Move
  after : List Move
  ticket : Ticket
  draw : Draw
  /-- The state in which the shutdown was served. -/
  serving : Server
  peer : Address
  header : RequestHeader
  /-- The contents of the datagram that the shutdown came in. -/
  contents : Octets
  moves_eq : moves = before ++ .task (.serve ticket draw) :: after
  run_before : s.run before = some serving
  arrived : .arrive ⟨peer, contents⟩ ∈ before
  decoded : Request.decode (contents.take Wire.limit) = .ok (.shutdown header)
  live : serving.desk.errand? ticket = some (.ofRequest peer (.shutdown header))
  known : serving.desk.table.has header.session = true

namespace Grant

variable {s : Server} {moves : List Move}

/-- The session that the shutdown named. -/
def session (g : s.Grant moves) : SessionId := g.header.session

/-- The successful answer to the shutdown. -/
def response (g : s.Grant moves) : Response := .shutdown (.ok .shutdown g.session)

/-- A grant of a run is one of each longer run. -/
def append (g : s.Grant moves) (more : List Move) : s.Grant (moves ++ more) :=
  { g with
    after := g.after ++ more
    moves_eq := by
      have split := congrArg (· ++ more) g.moves_eq
      simpa only [List.append_assoc, List.cons_append] using split }

/-- A granted session was issued to a login that was served before, or saved by an owner; the
absent id is never granted. -/
theorem session_origin {spare : Nat} {settings : Settings}
    (spawned : spawnWith spare settings = some s) (g : s.Grant moves) :
    g.session.isAbsent = false ∧
      (g.session ∈ (s.noted issued g.before).map (·.2) ∨ g.session ∈ savedIds g.before) := by
  have stored := Table.has_iff_mem_ids.1 g.known
  rcases (mem_ids_of_run spawned g.run_before g.session).1 stored with ⟨present, isIssued⟩ | isSaved
  · exact ⟨present, .inl isIssued⟩
  · refine ⟨?_, .inr isSaved⟩
    obtain ⟨m, _, saves⟩ := List.mem_filterMap.1 isSaved
    cases m with
    | save id now =>
      by_cases absent : id.isAbsent
      · simp [absent] at saves
      · simp only [absent, Bool.false_eq_true, if_false, Option.some.injEq] at saves
        rw [← saves]
        simpa using absent
    | _ => cases saves

end Grant

/-! ## Closing replies -/

/-- Without senders in the hands of owners, a reply that closes the server is that of a grant, in
the outbox and on its way. -/
structure GrantLaw (s : Server) (moves : List Move) (s' : Server) : Prop where
  spare : s'.spare = 0
  queue : ∀ reply ∈ s'.desk.outbox.queue, reply.closes = true →
    ∃ g : s.Grant moves, reply = ⟨g.peer, g.response, true⟩
  busy : ∀ datagram, s'.writing = .busy datagram true →
    ∃ g : s.Grant moves, datagram = ⟨g.peer, g.response.written⟩

theorem GrantLaw.append {s s' : Server} {moves : List Move} (law : GrantLaw s moves s')
    (more : List Move) : GrantLaw s (moves ++ more) s' := by
  refine ⟨law.spare, fun reply queued closes => ?_, fun datagram busy => ?_⟩
  · obtain ⟨g, same⟩ := law.queue reply queued closes
    exact ⟨g.append more, same⟩
  · obtain ⟨g, same⟩ := law.busy datagram busy
    exact ⟨g.append more, same⟩

/-- What is sealed is what was written. -/
theorem eq_written_of_encode {r : Response} {contents : Octets} (h : r.encode = .ok contents) :
    contents = r.written := by
  unfold Response.encode Wire.sealed at h
  split at h
  · cases h
  · exact (Except.ok.inj h).symm

/-- An errand that is settled with a closing reply is a shutdown whose session the table has. -/
theorem shutdown_of_isShutDown {sender : Address} {request : Request} {draw : Draw} {table : Table}
    {settled : Settlement}
    (settling : (Errand.ofRequest sender request).settle draw table = .ok settled)
    (closes : settled.verdict.isShutDown = true) :
    ∃ header, request = .shutdown header ∧ table.has header.session = true ∧
      settled.verdict = .shutDown (.shutdown (.ok .shutdown header.session)) := by
  rcases Errand.settle_eq_ok_iff.1 settling with
    ⟨header, account, password, _, _, rfl⟩ | ⟨header, _, rfl, rfl⟩
  · cases closes
  · cases known : table.has header.session with
    | true => exact ⟨header, rfl, known, Errand.verdict_shutDown_of_has _ known⟩
    | false =>
      rw [Errand.verdict_shutDown_of_not_has _ known] at closes
      cases closes

theorem GrantLaw.of_step {s mid after : Server} {moves : List Move} {m : Move}
    (law : GrantLaw s moves mid) (intake : IntakeLaw moves mid) (run : s.run moves = some mid)
    (h : Step mid m after) : GrantLaw s (moves ++ [m]) after := by
  have old := law.append [m]
  cases h with
  | push spare => exact absurd law.spare (Nat.ne_of_gt spare)
  | letGo spare => exact absurd law.spare (Nat.ne_of_gt spare)
  | task step =>
    cases step with
    | wait => exact ⟨old.spare, old.queue, old.busy⟩
    | @settle ticket draw errand settled live _ settling =>
      refine ⟨old.spare, fun reply queued closes => ?_, old.busy⟩
      rw [Desk.outbox_finish, Outbox.queue_put, List.mem_append] at queued
      rcases queued with earlier | new
      · exact old.queue reply earlier closes
      · rw [List.mem_singleton.1 new] at closes ⊢
        obtain ⟨contents, request, arrived, decoded, made⟩ :=
          intake.tasks _ (Desk.mem_tasks_of_errand? live)
        simp only at made arrived
        rw [made] at settling live
        obtain ⟨header, rfl, known, verdict⟩ := shutdown_of_isShutDown settling closes
        refine ⟨⟨moves, [], ticket, draw, mid, errand.sender, header, contents, rfl, run, arrived,
          decoded, live, known⟩, ?_⟩
        rw [verdict]
        rfl
    | giveUp =>
      refine ⟨old.spare, fun reply queued closes => old.queue reply ?_ closes, old.busy⟩
      rw [Desk.queue_giveUp] at queued
      exact queued
  | @take reply outbox contents ready taken encoded =>
    obtain ⟨first, rest⟩ := Outbox.mem_queue_of_take?_eq_some taken
    refine ⟨old.spare, fun later queued => old.queue later (rest later queued),
      fun datagram busy => ?_⟩
    injection busy with same closes
    obtain ⟨g, granted⟩ := old.queue reply first closes
    refine ⟨g, ?_⟩
    rw [← same, eq_written_of_encode encoded, granted]
  | skip ready taken refused =>
    obtain ⟨_, rest⟩ := Outbox.mem_queue_of_take?_eq_some taken
    exact ⟨old.spare, fun later queued => old.queue later (rest later queued),
      fun datagram busy => (by cases busy)⟩
  | write => exact ⟨old.spare, old.queue, fun datagram busy => (by cases busy)⟩
  | failWrite =>
    exact ⟨old.spare, fun reply queued => (by cases queued), fun datagram busy => (by cases busy)⟩
  | finish =>
    exact ⟨old.spare, fun reply queued => (by cases queued), fun datagram busy => (by cases busy)⟩
  | _ => exact ⟨old.spare, old.queue, old.busy⟩

theorem GrantLaw.of_run {settings : Settings} {s s' : Server} {moves : List Move}
    (spawned : spawn settings = some s) (run : s.run moves = some s') : GrantLaw s moves s' := by
  refine run_induction (motive := GrantLaw s) ?_ ?_ run
  · rw [eq_opened_of_spawnWith spawned]
    exact ⟨rfl, fun _ none => (by cases none), fun _ none => (by cases none)⟩
  · intro moves m mid after before step law
    exact law.of_step (.of_run spawned before) before (.of_step step)

/-! ## The end of listening -/

/-- What makes a server leave listening: a stop of an owner, a socket that fails, or the written
answer to a granted shutdown. -/
inductive StopCause (s : Server) (moves : List Move) : Prop
  | stop : .stop ∈ moves → StopCause s moves
  | failRead : .failRead ∈ moves → StopCause s moves
  | failWrite : .failWrite ∈ moves → StopCause s moves
  | shutdown {earlier rest : List Move} {writing : Server} (g : s.Grant earlier) :
    moves = earlier ++ .write :: rest → s.run earlier = some writing →
    writing.writing = .busy ⟨g.peer, (Response.shutdown (.ok .shutdown g.session)).written⟩ true →
    g.session.isAbsent = false →
    (g.session ∈ (s.noted issued g.before).map (·.2) ∨ g.session ∈ savedIds g.before) →
    StopCause s moves

theorem StopCause.append {s : Server} {moves : List Move} (cause : StopCause s moves)
    (more : List Move) : StopCause s (moves ++ more) := by
  cases cause with
  | stop member => exact .stop (List.mem_append_left more member)
  | failRead member => exact .failRead (List.mem_append_left more member)
  | failWrite member => exact .failWrite (List.mem_append_left more member)
  | @shutdown earlier rest writing g split reached busy present origin =>
    have longer : moves ++ more = earlier ++ .write :: (rest ++ more) := by
      rw [split, List.append_assoc, List.cons_append]
    exact .shutdown g longer reached busy present origin

/-- A server that was told to stop does not listen. -/
theorem stage_stopped_ne_listening (l : Lifecycle) : l.stopped.stage ≠ .listening := by
  intro listening
  have late := l.stopping_le_stopped
  rw [listening] at late
  exact absurd late (by decide)

/-- A server that has not left listening has a reader and is not cancelled. -/
structure ListeningLaw (s : Server) (moves : List Move) (s' : Server) : Prop where
  ended : s'.reading = .ended → s'.stage ≠ .listening
  cancelled : s'.lifecycle.isCancelled = true → s'.stage ≠ .listening
  cause : s'.stage ≠ .listening → StopCause s moves

theorem ListeningLaw.append {s s' : Server} {moves : List Move} (law : ListeningLaw s moves s')
    (more : List Move) : ListeningLaw s (moves ++ more) s' :=
  ⟨law.ended, law.cancelled, fun left => (law.cause left).append more⟩

/-- After a stop for a cause, nothing is left to say. -/
theorem ListeningLaw.of_stopped {s s' : Server} {moves : List Move} {l : Lifecycle}
    (stopped : s'.lifecycle = l.stopped) (cause : StopCause s moves) :
    ListeningLaw s moves s' := by
  have left : s'.stage ≠ .listening := by
    rw [stage, stopped]
    exact stage_stopped_ne_listening l
  exact ⟨fun _ => left, fun _ => left, fun _ => cause⟩

theorem ListeningLaw.of_step {settings : Settings} {s mid after : Server} {moves : List Move}
    {m : Move} (spawned : spawn settings = some s) (law : ListeningLaw s moves mid)
    (grants : GrantLaw s moves mid) (run : s.run moves = some mid) (h : Step mid m after) :
    ListeningLaw s (moves ++ [m]) after := by
  have old := law.append [m]
  have last : m ∈ moves ++ [m] := List.mem_append_right moves (List.mem_singleton.2 rfl)
  cases h with
  | stop => exact .of_stopped rfl (.stop last)
  | failRead => exact .of_stopped rfl (.failRead last)
  | failWrite => exact .of_stopped rfl (.failWrite last)
  | @write datagram closes busy =>
    cases closes with
    | false => exact ⟨old.ended, old.cancelled, old.cause⟩
    | true =>
      -- a closing reply that is being written answers a grant
      obtain ⟨g, same⟩ := grants.busy datagram busy
      obtain ⟨present, origin⟩ := g.session_origin spawned
      rw [same] at busy
      exact .of_stopped rfl (.shutdown g rfl run busy present origin)
  | read => exact ⟨fun ended => (by cases ended), old.cancelled, old.cause⟩
  | accept => exact ⟨fun ended => (by cases ended), old.cancelled, old.cause⟩
  | start => exact ⟨fun ended => (by cases ended), old.cancelled, old.cause⟩
  | quit _ cancelled => exact ⟨fun _ => law.cancelled cancelled, old.cancelled, old.cause⟩
  | retire ended =>
    have left := law.ended ended
    have stopped : Stage.stopped ≠ .listening := by decide
    exact ⟨fun _ => stopped, fun _ => stopped, fun _ => old.cause left⟩
  | _ => exact ⟨old.ended, old.cancelled, old.cause⟩

/-- **No client without a session stops a server.**  After a run of a spawned server that ends in
another stage than listening, an owner has stopped it, or the socket has failed, or the writer has
written the successful answer to a granted shutdown, to the sender of that shutdown; and the session
of a granted shutdown is not the absent one, and was issued or saved before the shutdown was
served. -/
theorem stopCause_of_stage_ne_listening {settings : Settings} {s s' : Server} {moves : List Move}
    (spawned : spawn settings = some s) (run : s.run moves = some s')
    (left : s'.stage ≠ .listening) : StopCause s moves := by
  suffices law : ListeningLaw s moves s' from law.cause left
  refine run_induction (motive := ListeningLaw s) ?_ ?_ run
  · rw [eq_opened_of_spawnWith spawned]
    exact ⟨fun ended => (by cases ended), fun cancelled => (by cases cancelled),
      fun left => absurd rfl left⟩
  · intro moves m mid after before step law
    exact law.of_step spawned (.of_run spawned before) before (.of_step step)

/-- A client logs in and then shuts the server down with the session that it was given. -/
def loginThenShutdown : List Move :=
  let id : SessionId := ⟨"first"⟩
  let login : Datagram := ⟨.loopback 9000, (Request.ofCredentials "alice" "pw").written⟩
  let shutdown : Datagram := ⟨.loopback 9000, (Request.ofShutdown.withSession id).written⟩
  [.arrive login, .read, .accept, .start, .task (.serve 0 ⟨id, 1⟩), .take, .write,
    .arrive shutdown, .read, .accept, .start, .task (.serve 1 ⟨⟨"unused"⟩, 2⟩), .take, .write]

theorem stopCause_of_loginThenShutdown :
    .stop ∉ loginThenShutdown ∧ .failRead ∉ loginThenShutdown ∧ .failWrite ∉ loginThenShutdown ∧
    spawn {} = some (opened 0 {}) ∧
    (∃ s', (opened 0 {}).run loginThenShutdown = some s' ∧ s'.stage ≠ .listening) ∧
    StopCause (opened 0 {}) loginThenShutdown := by
  have spawned : spawn {} = some (opened 0 {}) := by decide
  have stopped : ((opened 0 {}).run loginThenShutdown).map stage = some .stopping := by
    decide +kernel
  obtain ⟨s', run, stopping⟩ := Option.map_eq_some_iff.1 stopped
  have left : s'.stage ≠ .listening := by
    rw [stopping]
    decide
  exact ⟨by decide +kernel, by decide +kernel, by decide +kernel, spawned, ⟨s', run, left⟩,
    stopCause_of_stage_ne_listening spawned run left⟩

end DatagramSession.Server
