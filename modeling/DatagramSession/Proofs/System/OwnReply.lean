import DatagramSession.Proofs.System.Limit
import DatagramSession.Proofs.Server.Ticket
import DatagramSession.Proofs.Wire.Kind

/-!
# Requests that came over the wire

An errand whose body does not belong to its action cannot be settled.  None such comes over the
wire: the body of a decoded request is the one that its header calls for, and the errand of a task
has the action of that header.  So a task that is served always queues a reply, for the action that
the sender put into its header, and the sender takes it for the outcome of its request.

* `CameIn.exists_settle`: an errand that came in is settled.
* `ServeLaw.of_run`: each served task of a run has queued one reply.
* `conclude_of_answer`: what a client makes of the reply to its own request.
* `wire_requests_are_answered`: both sides.
-/

namespace DatagramSession

/-! ## Requests and their answers -/

/-- An answer to a request is for the action of its body, and an outcome of that action. -/
theorem Request.IsAnsweredBy.outcome {fresh : SessionId} {r : Request} {x : Response}
    (answered : r.IsAnsweredBy fresh x) : x.action = r.bodyAction ∧ x.IsOutcomeOf r.bodyAction := by
  cases r with
  | login header account password =>
    rw [show x = _ from answered]
    exact ⟨rfl, rfl, rfl⟩
  | shutdown header =>
    rcases answered with granted | refused
    · rw [granted]
      exact ⟨rfl, rfl, rfl⟩
    · rw [refused]
      exact ⟨rfl, rfl⟩

/-- A decoded request is settled, with an answer to it for its action. -/
theorem Errand.exists_settle_of_decode {contents : Octets} {r : Request}
    (decoded : Request.decode contents = .ok r) (sender : Address) (draw : Draw) (table : Table) :
    ∃ settled, (ofRequest sender r).settle draw table = .ok settled ∧
      r.IsAnsweredBy draw.fresh settled.verdict.response ∧
      settled.verdict.response.action = r.action ∧
      settled.verdict.response.IsOutcomeOf r.action := by
  have body := (Request.decode_eq_ok_iff.1 decoded).2.1
  obtain ⟨settled, settling⟩ := exists_settle_eq_ok body sender draw table
  have answered := isAnsweredBy_of_settle settling
  refine ⟨settled, settling, answered, ?_⟩
  rw [← body]
  exact answered.outcome

/-- What a request is taken for has its header. -/
theorem Request.header_of_received {q r : Request} (received : q.received = .ok r) :
    r.header = q.header := by
  obtain ⟨⟨action, session⟩, account, password⟩ | ⟨⟨action, session⟩⟩ := q
  · cases action with
    | login => cases received; rfl
    | shutdown => cases received; rfl
  · cases action with
    | login => cases received
    | shutdown => cases received; rfl

/-- A request that is sent arrives, if it does, under the action of its sender. -/
theorem Request.action_of_decode_encoded {q r : Request} {contents : Octets}
    (encoded : q.encode = .ok contents) (decoded : Request.decode contents = .ok r) :
    r.action = q.action := by
  have countable := isCountable_of_encode encoded
  obtain ⟨rfl, -⟩ := Wire.length_le_of_sealed encoded
  have taken := decode_written_eq_received countable
  exact congrArg RequestHeader.action (header_of_received (taken.symm.trans decoded))

/-- A client takes a sealed outcome of the action that it has asked for as what it is. -/
theorem Client.conclude_of_answer (c : Client) {a : Action} {x : Response} {octets : Octets}
    (action : x.action = a) (outcome : x.IsOutcomeOf a) (encoded : x.encode = .ok octets) :
    c.conclude a octets =
      if x.isOk then (.ok x, { c with session := x.session })
      else (.error (.rejected x.header.error), c) :=
  conclude_of_opens ⟨action, outcome, octets, encoded, List.prefix_rfl⟩

namespace Server

/-! ## Served tasks -/

/-- The reply answers a request that a datagram of the run carried, and goes to its sender. -/
def AnswersArrival (moves : List Move) (draw : Draw) (reply : Reply) : Prop :=
  ∃ contents request, .arrive ⟨reply.recipient, contents⟩ ∈ moves ∧
    Request.decode (contents.take Wire.limit) = .ok request ∧
    request.IsAnsweredBy draw.fresh reply.response ∧ reply.response.action = request.action

theorem AnswersArrival.append {moves : List Move} {draw : Draw} {reply : Reply}
    (answers : AnswersArrival moves draw reply) (more : List Move) :
    AnswersArrival (moves ++ more) draw reply := by
  obtain ⟨contents, request, arrived, rest⟩ := answers
  exact ⟨contents, request, List.mem_append_left more arrived, rest⟩

/-- An errand that came in is settled, with an answer to the datagram that it came in. -/
theorem CameIn.exists_settle {moves : List Move} {errand : Errand} (came : CameIn moves errand)
    (draw : Draw) (table : Table) : ∃ settled, errand.settle draw table = .ok settled ∧
      AnswersArrival moves draw (.ofVerdict errand.sender settled.verdict) := by
  obtain ⟨contents, request, arrived, decoded, made⟩ := came
  obtain ⟨settled, settling, answered, action, -⟩ :=
    Errand.exists_settle_of_decode decoded errand.sender draw table
  rw [← made] at settling
  exact ⟨settled, settling, contents, request, arrived, decoded, answered, action⟩

variable {s mid after s' : Server} {moves : List Move} {m : Move}

/-- Whenever there is a slot for a task, the task can be served, and queues one reply. -/
theorem IntakeLaw.exists_step_serve (law : IntakeLaw moves s) {ticket : Ticket} {errand : Errand}
    (live : s.desk.errand? ticket = some errand)
    (servable : s.desk.outbox.isServable ticket = true) (draw : Draw) :
    ∃ reply next, s.step (.task (.serve ticket draw)) = some next ∧
      s.handed (.task (.serve ticket draw)) next = [(ticket, reply)] ∧
      AnswersArrival moves draw reply := by
  have came := law.tasks _ (Desk.mem_tasks_of_errand? live)
  obtain ⟨settled, settling, answers⟩ := came.exists_settle draw s.desk.table
  let reply : Reply := .ofVerdict errand.sender settled.verdict
  have moved : s.step (.task (.serve ticket draw)) = some { s with desk := ({ s.desk with
      table := settled.table
      outbox := s.desk.outbox.put ticket reply }.finish ticket) } := by
    simp only [step, Desk.step, live, servable, if_true, Desk.serve, settling, Option.map_some,
      reply]
  exact ⟨reply, _, moved, handed_settle, answers⟩

/-- Only a task that is served hands a reply over, and it hands over one. -/
theorem IntakeLaw.handed_of_step (law : IntakeLaw moves s) (h : Step s m s') :
    (s.handed m s' = [] ∧ ∀ ticket draw, m ≠ .task (.serve ticket draw)) ∨
      ∃ ticket draw reply, m = .task (.serve ticket draw) ∧
        s.handed m s' = [(ticket, reply)] ∧ AnswersArrival moves draw reply ∧
        (∃ t ∈ s.desk.tasks, t.ticket = ticket) ∧ ∀ t ∈ s'.desk.tasks, t.ticket ≠ ticket := by
  cases h with
  | task step =>
    cases step with
    | wait => exact .inl ⟨handed_wait, nofun⟩
    | @settle ticket draw errand settled live servable settling =>
      have member := Desk.mem_tasks_of_errand? live
      obtain ⟨_, same, answers⟩ := (law.tasks _ member).exists_settle draw s.desk.table
      cases same.symm.trans settling
      exact .inr ⟨ticket, draw, _, rfl, handed_settle, answers, ⟨_, member, rfl⟩,
        fun t left => (Desk.mem_tasks_finish.1 left).2⟩
    | giveUp gaveUp =>
      cases gaveUp with
      | mismatched live _ settling =>
        -- no mismatch comes over the wire
        obtain ⟨_, same, -⟩ :=
          (law.tasks _ (Desk.mem_tasks_of_errand? live)).exists_settle _ s.desk.table
        cases same.symm.trans settling
      | abandon => exact .inl ⟨handed_giveUp, nofun⟩
      | refuse => exact .inl ⟨handed_giveUp, nofun⟩
      | expire => exact .inl ⟨handed_giveUp, nofun⟩
  | _ => exact .inl ⟨rfl, nofun⟩

/-- The replies of a task. -/
def repliesOf (s : Server) (moves : List Move) (ticket : Ticket) : List Reply :=
  (s.noted handed moves).filterMap fun p => if p.1 = ticket then some p.2 else none

theorem repliesOf_snoc (before : s.run moves = some mid) (moved : mid.step m = some after)
    (ticket : Ticket) : s.repliesOf (moves ++ [m]) ticket = s.repliesOf moves ticket ++
      (mid.handed m after).filterMap fun p => if p.1 = ticket then some p.2 else none := by
  rw [repliesOf, noted_snoc handed before moved, List.filterMap_append]
  rfl

/-- What has become of the tasks of a run: each that was served has ended and has queued one reply,
and the others have queued none. -/
structure ServeLaw (s : Server) (moves : List Move) (s' : Server) : Prop where
  given : ∀ t ∈ s'.desk.tasks, t.ticket < s'.desk.next
  served : ∀ ticket draw, .task (.serve ticket draw) ∈ moves →
    s'.desk.HasEnded ticket ∧
      ∃ reply, s.repliesOf moves ticket = [reply] ∧ AnswersArrival moves draw reply
  unserved : ∀ ticket, (∀ draw, .task (.serve ticket draw) ∉ moves) →
    s.repliesOf moves ticket = []

/-- A move that serves no task. -/
theorem ServeLaw.of_quiet (law : ServeLaw s moves mid) (before : s.run moves = some mid)
    (moved : mid.step m = some after) (nothing : mid.handed m after = [])
    (other : ∀ ticket draw, m ≠ .task (.serve ticket draw)) :
    ServeLaw s (moves ++ [m]) after := by
  have same (ticket : Ticket) : s.repliesOf (moves ++ [m]) ticket = s.repliesOf moves ticket := by
    rw [repliesOf_snoc before moved, nothing, List.filterMap_nil, List.append_nil]
  refine ⟨ticket_lt_next_of_step (.of_step moved) law.given, fun ticket draw member => ?_,
    fun ticket unserved => ?_⟩
  · rcases List.mem_append.1 member with earlier | last
    · obtain ⟨ended, reply, one, answers⟩ := law.served ticket draw earlier
      exact ⟨ended.of_step (.of_step moved), reply, (same ticket).trans one, answers.append [m]⟩
    · exact absurd (List.mem_singleton.1 last).symm (other ticket draw)
  · rw [same]
    exact law.unserved ticket fun draw member =>
      unserved draw (List.mem_append_left _ member)

/-- A move that serves a task. -/
theorem ServeLaw.of_serve (law : ServeLaw s moves mid) (before : s.run moves = some mid)
    {ticket : Ticket} {draw : Draw} {reply : Reply}
    (moved : mid.step (.task (.serve ticket draw)) = some after)
    (one : mid.handed (.task (.serve ticket draw)) after = [(ticket, reply)])
    (answers : AnswersArrival moves draw reply) (live : ∃ t ∈ mid.desk.tasks, t.ticket = ticket)
    (gone : ∀ t ∈ after.desk.tasks, t.ticket ≠ ticket) :
    ServeLaw s (moves ++ [.task (.serve ticket draw)]) after := by
  have step := Step.of_step moved
  -- a task that was served has ended for good, so this one was not
  have first : ∀ draw, .task (.serve ticket draw) ∉ moves := fun draw earlier =>
    (law.served ticket draw earlier).1.not_live live
  have own : s.repliesOf (moves ++ [.task (.serve ticket draw)]) ticket = [reply] := by
    rw [repliesOf_snoc before moved, law.unserved ticket first, one]
    simp
  have others {other : Ticket} (differ : ticket ≠ other) :
      s.repliesOf (moves ++ [.task (.serve ticket draw)]) other = s.repliesOf moves other := by
    rw [repliesOf_snoc before moved, one]
    simp [differ]
  refine ⟨ticket_lt_next_of_step step law.given, fun other otherDraw member => ?_,
    fun other unserved => ?_⟩
  · by_cases same : ticket = other
    · subst same
      rcases List.mem_append.1 member with earlier | last
      · exact absurd earlier (first otherDraw)
      · cases List.mem_singleton.1 last
        exact ⟨.of_gone step law.given live gone, reply, own, answers.append _⟩
    · rcases List.mem_append.1 member with earlier | last
      · obtain ⟨ended, reply, one, answers⟩ := law.served other otherDraw earlier
        exact ⟨ended.of_step step, reply, (others same).trans one, answers.append _⟩
      · cases List.mem_singleton.1 last
        exact absurd rfl same
  · have differ : ticket ≠ other := by
      rintro rfl
      exact unserved draw (List.mem_append_right _ (List.mem_singleton_self _))
    rw [others differ]
    exact law.unserved other fun draw member => unserved draw (List.mem_append_left _ member)

theorem ServeLaw.of_run {spare : Nat} {settings : Settings}
    (spawned : spawnWith spare settings = some s) (run : s.run moves = some s') :
    ServeLaw s moves s' := by
  refine run_induction (motive := ServeLaw s) ?_ ?_ run
  · rw [eq_opened_of_spawnWith spawned]
    exact ⟨nofun, nofun, fun _ _ => rfl⟩
  · intro moves m mid after before moved law
    have intake := IntakeLaw.of_run spawned before
    rcases intake.handed_of_step (.of_step moved) with
      ⟨nothing, other⟩ | ⟨ticket, draw, reply, rfl, one, answers, live, gone⟩
    · exact law.of_quiet before moved nothing other
    · exact law.of_serve before moved one answers live gone

end Server

/-! ## Both sides -/

/-- What becomes of a request that hears its own reply. -/
theorem Client.request_eq_of_own_reply {c : Client} {q r : Request} {noticed : Nat}
    {queue : List Arrival} {network : Octets → Except IoError (Wait Arrival)} {wait : Wait Arrival}
    {contents octets : Octets} (sent : (c.request q noticed queue network).sent = some contents)
    (decoded : Request.decode contents = .ok r) {sender : Address} {draw : Draw} {table : Table}
    {settled : Settlement} (settling : (Errand.ofRequest sender r).settle draw table = .ok settled)
    (encoded : settled.verdict.response.encode = .ok octets)
    (brought : network contents = .ok wait)
    (heard : wait.heard? (queue.drop noticed) = some (.datagram octets)) :
    ((c.request q noticed queue network).result, (c.request q noticed queue network).client) =
      if settled.verdict.response.isOk then
        (.ok settled.verdict.response, { c with session := settled.verdict.response.session })
      else (.error (.rejected settled.verdict.response.header.error), c) := by
  have stamped := (Ends.of_request c q noticed queue network).encode_of_sent sent
  have asked : r.action = q.action :=
    (Request.action_of_decode_encoded stamped decoded).trans (q.action_withSession c.session)
  obtain ⟨_, same, -, action, outcome⟩ :=
    Errand.exists_settle_of_decode decoded sender draw table
  cases same.symm.trans settling
  rw [asked] at action outcome
  rw [request_eq_conclude sent brought heard]
  exact c.conclude_of_answer action outcome encoded

/-- **Every request that came over the wire is answered, for the action of its sender.**

* Whatever octets are decoded to a request, from whatever address and before whatever table, the
  errand is settled, with a response for the action of the request.  If the octets are what some
  request was encoded to, even one whose body does not belong to its action, the response is for the
  action of that one.
* In whatever way a spawned server has come to be where it is: a task that has a slot can be served,
  and then it queues one reply; and each task that was served has queued one reply in the whole run,
  which answers a datagram that has arrived and goes back to where it came from.
* A client that has sent a request, and hears the reply to it, returns that response or its
  rejection: it never sees an action that it has not asked for. -/
theorem wire_requests_are_answered :
    (∀ contents r, Request.decode contents = .ok r → ∀ sender draw table,
      ∃ settled, (Errand.ofRequest sender r).settle draw table = .ok settled ∧
        settled.verdict.response.action = r.action ∧
        ∀ q : Request, q.encode = .ok contents → settled.verdict.response.action = q.action) ∧
    (∀ spare settings s moves s', Server.spawnWith spare settings = some s →
      s.run moves = some s' →
      (∀ ticket errand, s'.desk.errand? ticket = some errand →
        s'.desk.outbox.isServable ticket = true → ∀ draw, ∃ reply next,
          s'.step (.task (.serve ticket draw)) = some next ∧
          s'.handed (.task (.serve ticket draw)) next = [(ticket, reply)] ∧
          Server.AnswersArrival moves draw reply) ∧
      ∀ ticket draw, .task (.serve ticket draw) ∈ moves →
        ∃ reply, s.repliesOf moves ticket = [reply] ∧ Server.AnswersArrival moves draw reply) ∧
    ∀ (c : Client) q noticed queue network contents r,
      (c.request q noticed queue network).sent = some contents →
      Request.decode contents = .ok r → ∀ sender draw table settled octets wait,
        (Errand.ofRequest sender r).settle draw table = .ok settled →
        settled.verdict.response.encode = .ok octets →
        network contents = .ok wait →
        wait.heard? (queue.drop noticed) = some (.datagram octets) →
        ((c.request q noticed queue network).result,
            (c.request q noticed queue network).client) =
          if settled.verdict.response.isOk then
            (.ok settled.verdict.response, { c with session := settled.verdict.response.session })
          else (.error (.rejected settled.verdict.response.header.error), c) := by
  refine ⟨fun contents r decoded sender draw table => ?_,
    fun spare settings s moves s' spawned run =>
      ⟨fun ticket errand live servable draw => ?_, fun ticket draw served => ?_⟩, ?_⟩
  · obtain ⟨settled, settling, -, action, -⟩ :=
      Errand.exists_settle_of_decode decoded sender draw table
    exact ⟨settled, settling, action, fun q encoded =>
      action.trans (Request.action_of_decode_encoded encoded decoded)⟩
  · exact (Server.IntakeLaw.of_run spawned run).exists_step_serve live servable draw
  · exact ((Server.ServeLaw.of_run spawned run).served ticket draw served).2
  · intro c q noticed queue network contents r sent decoded sender draw table settled octets wait
    exact Client.request_eq_of_own_reply sent decoded

/-- A login under the other action, which arrives as a shutdown. -/
def disguisedLogin : Request := .login ⟨.shutdown, ⟨"first"⟩⟩ "alice" "pw"

theorem answers_disguisedLogin :
    let contents := disguisedLogin.written
    let r : Request := .shutdown ⟨.shutdown, ⟨"first"⟩⟩
    let answer : Response := .refusal (.failed .shutdown ⟨"first"⟩ "invalid session id")
    let moves : List Server.Move := [.arrive ⟨.loopback 9000, contents⟩, .read, .accept, .start,
      .task (.serve 0 ⟨⟨"unused"⟩, 1⟩)]
    let c : Client := ⟨.loopback 8888, ⟨"first"⟩, Client.standardPatience⟩
    let exchange := c.request disguisedLogin 0 [] fun _ => .ok ⟨[.datagram answer.written], 1⟩
    disguisedLogin.encode = .ok contents ∧ Request.decode contents = .ok r ∧
    (∃ settled, (Errand.ofRequest (.loopback 9000) r).settle ⟨⟨"unused"⟩, 1⟩ .empty = .ok settled ∧
      settled.verdict.response.action = disguisedLogin.action) ∧
    (∃ s', (Server.opened 0 {}).run moves = some s' ∧
      ∃ reply, (Server.opened 0 {}).repliesOf moves 0 = [reply]) ∧
    exchange.sent = some contents ∧ exchange.result = .error (.rejected "invalid session id") := by
  intro contents r answer moves c exchange
  obtain ⟨settles, serves, concludes⟩ := wire_requests_are_answered
  have encoded : disguisedLogin.encode = .ok contents := by decide +kernel
  have decoded : Request.decode contents = .ok r := by decide +kernel
  have settling : (Errand.ofRequest (.loopback 9000) r).settle ⟨⟨"unused"⟩, 1⟩ .empty =
      .ok ⟨.carryOn answer, .ofRequest (.loopback 9000) r, .empty⟩ := rfl
  obtain ⟨settled, same, -, own⟩ :=
    settles contents r decoded (.loopback 9000) ⟨⟨"unused"⟩, 1⟩ .empty
  have ran : ((Server.opened 0 {}).run moves).isSome = true := by decide +kernel
  obtain ⟨s', run⟩ := Option.isSome_iff_exists.1 ran
  have spawned : Server.spawnWith 0 {} = some (Server.opened 0 {}) := by decide
  have served : .task (.serve 0 ⟨⟨"unused"⟩, 1⟩) ∈ moves := by simp [moves]
  obtain ⟨reply, one, -⟩ := (serves 0 {} _ moves s' spawned run).2 0 ⟨⟨"unused"⟩, 1⟩ served
  have sent : exchange.sent = some contents := by decide +kernel
  have sealing : answer.encode = .ok answer.written := by decide +kernel
  have concluded := concludes c disguisedLogin 0 [] _ contents r sent decoded (.loopback 9000)
    ⟨⟨"unused"⟩, 1⟩ .empty _ answer.written _ settling sealing rfl rfl
  exact ⟨encoded, decoded, ⟨settled, same, own disguisedLogin encoded⟩, ⟨s', run, reply, one⟩, sent,
    congrArg Prod.fst concluded⟩

end DatagramSession
