import DatagramSession.Proofs.Server.Answer
import DatagramSession.Proofs.Server.Issue
import DatagramSession.Proofs.System.Basic

/-!
# The session of a client

A client holds the session of the last response that it has taken for a success, whichever request
that response was meant for.  It never holds a session that its server does not know: a response that
reports a success names a session that is in the table when the response is queued, the table forgets
nothing, and the network makes nothing up.

* `Response.IsBackedBy`: a success names a session that the table has.
* `Server.isBacked_of_mem_written`: so do all responses that a spawned server has written.
* `System.session_isAbsent_or_has`: a client has no session or one that the table has.
-/

namespace DatagramSession

/-- A response that reports a success is for no session, or for one that the table has. -/
def Response.IsBackedBy (table : Table) (x : Response) : Prop :=
  x.isOk = true → x.session.isAbsent = true ∨ table.has x.session = true

/-- The response to a request is backed by the table that settling the request leaves. -/
theorem Errand.isBackedBy_of_settle {sender : Address} {r : Request} {draw : Draw} {table : Table}
    {settled : Settlement} (settling : (ofRequest sender r).settle draw table = .ok settled) :
    settled.verdict.response.IsBackedBy settled.table := by
  rcases settle_eq_ok_iff.1 settling with
    ⟨header, account, password, _, _, rfl⟩ | ⟨header, _, request, rfl⟩
  · intro _
    by_cases absent : draw.fresh.isAbsent = true
    · exact .inl absent
    · exact .inr (Table.has_iff_mem_ids.2 (Table.mem_ids_save.2 (.inr ⟨rfl, absent⟩)))
  · obtain rfl : r = .shutdown header := request
    intro success
    cases known : table.has header.session with
    | true =>
      rw [verdict_shutDown_of_has _ known]
      exact .inr known
    | false =>
      rw [verdict_shutDown_of_not_has _ known] at success
      cases success

namespace Server

variable {s s' : Server} {moves : List Move}

/-- The table forgets nothing. -/
theorem has_of_step {m : Move} (h : Step s m s') {id : SessionId}
    (known : s.desk.table.has id = true) : s'.desk.table.has id = true :=
  Table.has_iff_mem_ids.2 ((mem_ids_of_step h id).2 (.inl (Table.has_iff_mem_ids.1 known)))

theorem has_of_run (run : s.run moves = some s') {id : SessionId}
    (known : s.desk.table.has id = true) : s'.desk.table.has id = true := by
  refine run_induction (motive := fun _ s' => s'.desk.table.has id = true) known ?_ run
  intro moves m mid after _ step kept
  exact has_of_step (.of_step step) kept

/-- What has been written stays written. -/
theorem mem_written_of_step {m : Move} (h : Step s m s') {datagram : Datagram}
    (written : datagram ∈ s.written) : datagram ∈ s'.written := by
  cases h with
  | write => exact List.mem_append_left _ written
  | _ => exact written

/-- Every datagram that a spawned server has written is the written form of a response that the
table backs. -/
theorem isBacked_of_mem_written {settings : Settings} (spawned : spawn settings = some s)
    (run : s.run moves = some s') {datagram : Datagram} (member : datagram ∈ s'.written) :
    ∃ x : Response, x.encode = .ok datagram.contents ∧ x.IsBackedBy s'.desk.table := by
  obtain ⟨t, law⟩ := TrailLaw.exists_of_run spawned run
  rw [← law.written_eq] at member
  obtain ⟨p, sent, rfl⟩ := List.mem_map.1 member
  obtain ⟨reply, answers, _, encoded⟩ := law.written p sent
  obtain ⟨errand, draw, ⟨source, request, _, rfl⟩, _, handed⟩ := answers
  obtain ⟨ticket, serving, next, settled, moved, step, _, settling, table, rfl, _⟩ := handed
  refine ⟨_, encoded, fun success => ?_⟩
  have backed := Errand.isBackedBy_of_settle settling success
  rw [← table] at backed
  exact backed.imp_right (has_of_run (moved.run_rest step run))

end Server

namespace System

/-- A system whose server a run of its own has reached, whose network has brought only what was
written, and whose clients hold no session that the server does not know. -/
structure SessionLaw (s : Server) (y : System) : Prop where
  served : ∃ moves, s.run moves = some y.server
  queue : ∀ c ∈ y.callers, ∀ contents, .datagram contents ∈ c.queue →
    ⟨c.address, contents⟩ ∈ y.server.written
  session : ∀ c ∈ y.callers, c.client.session.isAbsent = true ∨
    y.server.desk.table.has c.client.session = true

namespace SessionLaw

variable {s : Server} {y y' : System}

/-- A move of the server keeps what clients have been sent and what they hold. -/
theorem serve (law : SessionLaw s y) {m : Server.Move} {next : Server}
    (step : y.server.step m = some next) : SessionLaw s { y with server := next } := by
  have one := Server.Step.of_step step
  obtain ⟨moves, run⟩ := law.served
  refine ⟨⟨moves ++ [m], Server.run_snoc_eq_some_iff.2 ⟨y.server, run, step⟩⟩, ?_, ?_⟩
  · intro c caller contents queued
    exact Server.mem_written_of_step one (law.queue c caller contents queued)
  · intro c caller
    exact (law.session c caller).imp_right (Server.has_of_step one)

/-- A client that changes to what the law allows keeps the law. -/
theorem put (law : SessionLaw s y) (i : Nat) {c : Caller}
    (queue : ∀ contents, .datagram contents ∈ c.queue → ⟨c.address, contents⟩ ∈ y.server.written)
    (session : c.client.session.isAbsent = true ∨
      y.server.desk.table.has c.client.session = true) : SessionLaw s (y.put i c) := by
  refine ⟨law.served, fun other caller => ?_, fun other caller => ?_⟩
  · rcases List.mem_or_eq_of_mem_set caller with old | rfl
    · exact law.queue other old
    · exact queue
  · rcases List.mem_or_eq_of_mem_set caller with old | rfl
    · exact law.session other old
    · exact session

/-- What reaches a client's socket keeps the law, when a datagram is one that was written to it. -/
theorem receive (law : SessionLaw s y) {i : Nat} {c : Caller} (found : y.callers[i]? = some c)
    {arrival : Client.Arrival}
    (written : ∀ contents, arrival = .datagram contents →
      ⟨c.address, contents⟩ ∈ y.server.written) : SessionLaw s (y.put i (c.receive arrival)) := by
  have caller := List.mem_of_getElem? found
  refine law.put i (fun contents queued => ?_) (law.session c caller)
  rcases List.mem_append.1 queued with old | new
  · exact law.queue c caller contents old
  · exact written contents (List.mem_singleton.1 new).symm

/-- A success that a client decodes from its queue is backed: the server has written it. -/
theorem isBacked_of_decode (law : SessionLaw s y) {settings : Server.Settings}
    (spawned : Server.spawn settings = some s) {c : Caller} (caller : c ∈ y.callers)
    {action : Action} {contents : Octets} {response : Response}
    (queued : .datagram contents ∈ c.queue)
    (decoded : Response.decode action (contents.take Wire.limit) = .ok response) :
    response.IsBackedBy y.server.desk.table := by
  obtain ⟨moves, run⟩ := law.served
  obtain ⟨x, encoded, backed⟩ :=
    Server.isBacked_of_mem_written spawned run (law.queue c caller contents queued)
  obtain ⟨countable, rfl, fits⟩ := Response.isCountable_of_encode encoded
  rw [List.take_of_length_le fits] at decoded
  have same := Response.header_eq_of_decode decoded countable List.prefix_rfl
  rw [Response.IsBackedBy, Response.isOk, Response.session, same]
  exact backed

theorem of_step (law : SessionLaw s y) {settings : Server.Settings}
    (spawned : Server.spawn settings = some s) {m : Move} (h : Step y m y') :
    SessionLaw s y' := by
  cases h with
  | serve step => exact law.serve step
  | carry sent step => exact law.serve step
  | @bring i c contents found written =>
    exact law.receive found fun other same => (by cases same; exact written)
  | obstruct found => exact law.receive found nofun
  | @ask i c c' r noticed refusal contents found asked =>
    have caller := List.mem_of_getElem? found
    obtain ⟨address, client, queue⟩ := Caller.of_ask asked
    have kept : SessionLaw s (y.put i c') := by
      refine law.put i (fun other queued => ?_) ?_
      · rw [address]
        exact law.queue c caller other (queue _ queued)
      · rw [client]
        exact law.session c caller
    exact ⟨kept.served, kept.queue, kept.session⟩
  | @hear i c c' noticed found heard =>
    have caller := List.mem_of_getElem? found
    obtain ⟨address, queue, session⟩ := Caller.of_hear heard
    refine law.put i (fun other queued => ?_) ?_
    · rw [address]
      exact law.queue c caller other (queue _ queued)
    · rcases session with same | ⟨action, contents, response, queued, decoded, success, adopted⟩
      · rw [same]
        exact law.session c caller
      · rw [adopted]
        exact law.isBacked_of_decode spawned caller queued decoded success
  | @giveUp i c c' found givenUp =>
    have caller := List.mem_of_getElem? found
    obtain ⟨address, client, queue⟩ := Caller.of_giveUp givenUp
    refine law.put i (fun other queued => ?_) ?_
    · rw [queue] at queued
      rw [address]
      exact law.queue c caller other queued
    · rw [client]
      exact law.session c caller

end SessionLaw

/-- **A client's session is always good.**  In every state that a server and the clients that have
connected to it reach over a network that loses, holds back, repeats and reorders what was sent, a
client has no session or one that is in the table.  Nothing is assumed of the ids that logins draw:
who is told the absent one has no session. -/
theorem session_isAbsent_or_has {settings : Server.Settings} {s : Server} {y : System}
    {moves : List Move} (spawned : Server.spawn settings = some s) (address : Address)
    (clients : List (Address × Duration)) (run : (opened s address clients).run moves = some y) :
    ∀ c ∈ y.callers, c.client.session.isAbsent = true ∨
      y.server.desk.table.has c.client.session = true := by
  suffices law : SessionLaw s y from law.session
  refine run_induction (motive := SessionLaw s) ?_ (fun step law => law.of_step spawned step) run
  refine ⟨⟨[], rfl⟩, fun c caller => ?_, fun c caller => ?_⟩
  · obtain ⟨client, _, rfl⟩ := List.mem_map.1 caller
    intro contents queued
    cases queued
  · obtain ⟨client, _, rfl⟩ := List.mem_map.1 caller
    exact .inl rfl

/-- One client logs in, gets the reply twice, and takes the second for the reply to its next login;
another asks for a shutdown without a session and is refused. -/
def lateWelcome : List Move :=
  let login : Request := .ofCredentials "alice" "pw"
  let welcome : Response := .login (.ok .login ⟨"first"⟩) "Welcome alice"
  let refusal : Response := .refusal (.failed .shutdown .absent Errand.invalidSession)
  [.ask 0 login 0 none, .carry ⟨.loopback 9000, login.written⟩, .serve .read, .serve .accept,
    .serve .start, .serve (.task (.serve 0 ⟨⟨"first"⟩, 1⟩)), .serve .take, .serve .write,
    .bring 0 welcome.written, .bring 0 welcome.written, .hear 0 1,
    .ask 0 login 0 none, .hear 0 1,
    .ask 1 .ofShutdown 0 none, .carry ⟨.loopback 9001, Request.ofShutdown.written⟩, .serve .read,
    .serve .accept, .serve .start, .serve (.task (.serve 1 ⟨⟨"unused"⟩, 2⟩)), .serve .take,
    .serve .write, .bring 1 refusal.written, .hear 1 1]

theorem session_isAbsent_or_has_of_lateWelcome :
    let clients := [(Address.loopback 9000, .ofSeconds 10), (Address.loopback 9001, .ofSeconds 10)]
    Server.spawn {} = some (.opened 0 {}) ∧
    ∃ y, (opened (.opened 0 {}) (.loopback 8888) clients).run lateWelcome = some y ∧
      y.callers.map (·.client.session) = [⟨"first"⟩, .absent] ∧
      ∀ c ∈ y.callers, c.client.session.isAbsent = true ∨
        y.server.desk.table.has c.client.session = true := by
  intro clients
  have spawned : Server.spawn {} = some (.opened 0 {}) := by decide
  have sessions : ((opened (.opened 0 {}) (.loopback 8888) clients).run lateWelcome).map
      (fun y => y.callers.map (·.client.session)) = some [⟨"first"⟩, .absent] := by
    decide +kernel
  obtain ⟨y, run, held⟩ := Option.map_eq_some_iff.1 sessions
  exact ⟨spawned, y, run, held, session_isAbsent_or_has spawned (.loopback 8888) clients run⟩

end System

end DatagramSession
