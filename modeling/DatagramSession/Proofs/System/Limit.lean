import DatagramSession.Proofs.Client.Conversation
import DatagramSession.Proofs.Server.Answer
import DatagramSession.Proofs.Server.Noise
import DatagramSession.Proofs.Server.ReplySize
import DatagramSession.Proofs.Wire.Response

/-!
# The limit on datagrams

What is sent has been sealed, and so is within the limit.  What is received is not measured: a
receiver has room for the limit, the rest of a longer datagram is lost, and decoding passes over
what lies behind an envelope.  So a datagram of any length is taken exactly if it opens with an
envelope that could have been sent, and then it is taken for that envelope.

* `Request.decode_take_eq_ok_iff`, `Response.decode_take_eq_ok_iff`: what a receiver decodes.
* `Server.WithinLimit`: what a writer has written, or is about to write.
* `sends_within_limit_and_takes_openings`: both sides, sending and receiving.
* `takes_overlong`: a login and its welcome in datagrams of one octet more than the limit.
-/

namespace DatagramSession

open Wire

/-! ## Openings -/

/-- The octets begin with a sealed request, whose body is the one that its header announces. -/
def Request.Opens (r : Request) (octets : Octets) : Prop :=
  r.bodyAction = r.action ∧ ∃ front, r.encode = .ok front ∧ front <+: octets

/-- The octets begin with a sealed response to the action. -/
def Response.Opens (x : Response) (a : Action) (octets : Octets) : Prop :=
  x.action = a ∧ x.IsOutcomeOf a ∧ ∃ front, x.encode = .ok front ∧ front <+: octets

/-- Octets are at the front of what there is room for, exactly if they can be sealed and are at the
front of it all. -/
theorem Wire.prefix_take_limit_iff {written octets : Octets} :
    written <+: octets.take Wire.limit ↔
      ∃ front, Wire.sealed written = .ok front ∧ front <+: octets := by
  rw [List.prefix_take_iff, Wire.sealed_eq]
  constructor
  · intro h
    rcases h with ⟨isPrefix, fits⟩
    exact ⟨written, if_pos fits, isPrefix⟩
  · intro h
    rcases h with ⟨front, sealing, isPrefix⟩
    rw [← Wire.sealed_eq] at sealing
    rcases Wire.length_le_of_sealed sealing with ⟨rfl, fits⟩
    exact ⟨isPrefix, fits⟩

/-- A receiver decodes the request that a datagram opens with. -/
theorem Request.decode_take_eq_ok_iff {octets : Octets} {r : Request} :
    Request.decode (octets.take Wire.limit) = .ok r ↔ r.Opens octets := by
  rw [Request.decode_eq_ok_iff, Wire.prefix_take_limit_iff]
  constructor
  · intro h
    rcases h with ⟨-, body, opening⟩
    exact ⟨body, opening⟩
  · intro h
    rcases h with ⟨body, front, sealing, isPrefix⟩
    exact ⟨isCountable_of_encode sealing, body, front, sealing, isPrefix⟩

/-- A receiver decodes the response that a datagram opens with. -/
theorem Response.decode_take_eq_ok_iff {octets : Octets} {a : Action} {x : Response} :
    Response.decode a (octets.take Wire.limit) = .ok x ↔ x.Opens a octets := by
  rw [Response.decode_eq_ok_iff, Wire.prefix_take_limit_iff]
  constructor
  · intro h
    rcases h with ⟨-, action, opening, outcome⟩
    exact ⟨action, outcome, opening⟩
  · intro h
    rcases h with ⟨action, outcome, front, sealing, isPrefix⟩
    exact ⟨(isCountable_of_encode sealing).1, action, ⟨front, sealing, isPrefix⟩, outcome⟩

/-- A datagram is a request exactly if it opens with one. -/
theorem Datagram.isRequest_iff {d : Datagram} :
    d.isRequest = true ↔ ∃ r, Request.Opens r d.contents := by
  unfold isRequest
  cases decoded : Request.decode (d.contents.take Wire.limit) with
  | ok r => exact iff_of_true rfl ⟨r, Request.decode_take_eq_ok_iff.1 decoded⟩
  | error failure =>
    refine iff_of_false Bool.false_ne_true fun ⟨r, opens⟩ => ?_
    cases decoded.symm.trans (Request.decode_take_eq_ok_iff.2 opens)

namespace Server

/-! ## The server -/

/-- All that has been written, and what is about to be, is within the limit. -/
def WithinLimit (s : Server) : Prop :=
  ∀ d ∈ s.written ++ s.writing.datagram?.toList, d.contents.length ≤ 61440

/-- A writer that has less to write has written no more. -/
theorem WithinLimit.mono {s s' : Server} (within : WithinLimit s)
    (less : s'.written ++ s'.writing.datagram?.toList ⊆
      s.written ++ s.writing.datagram?.toList) : WithinLimit s' :=
  fun d member => within d (less member)

/-- The writer is handed sealed replies alone. -/
theorem WithinLimit.of_step {s s' : Server} {m : Move} (within : WithinLimit s)
    (h : Step s m s') : WithinLimit s' := by
  cases h with
  | take ready _ encoded =>
    intro d member
    rcases List.mem_append.1 member with earlier | new
    · exact within d (List.mem_append_left _ earlier)
    · cases List.mem_singleton.1 new
      exact (Wire.length_le_of_sealed encoded).2
  | skip ready => exact within.mono (by simp [Writing.datagram?])
  | write busy => exact within.mono (by simp [busy, Writing.datagram?])
  | finish => exact within.mono (by simp [endWriting, Writing.datagram?])
  | failWrite => exact within.mono (by simp [endWriting, Writing.datagram?])
  | _ => exact within

/-- The reader takes what the first datagram opens with. -/
theorem read_eq_of_opens {s : Server} {d : Datagram} {rest : List Datagram} {r : Request}
    (ready : s.reading = .ready) (inbox : s.inbox = d :: rest) (opens : r.Opens d.contents) :
    s.read = some { s with inbox := rest, reading := .admitting (.ofRequest d.peer r) } := by
  unfold read
  rw [ready, inbox]
  simp only [Request.decode_take_eq_ok_iff.2 opens]

namespace Supervised

theorem withinLimit_of_run {spare : Nat} {settings : Settings} {s : Server} {v : Supervised}
    {moves : List Move} (spawned : spawnWith spare settings = some s)
    (run : (ofServer s).run moves = some v) : WithinLimit v.server := by
  refine run_induction (motive := fun _ v => WithinLimit v.server) ?_ ?_ run
  · rw [eq_opened_of_spawnWith spawned]
    exact fun _ none => by cases none
  · intro moves m mid after h within
    cases h with
    | @part m s living moved =>
      have next : WithinLimit s := within.of_step (.of_step moved)
      exact next
    | breakReader =>
      have same : mid.server.abortReading.written = mid.server.written ∧
          mid.server.abortReading.writing = mid.server.writing :=
        ⟨written_abortReading _, writing_abortReading _⟩
      unfold WithinLimit
      rw [same.1, same.2]
      exact within
    | breakWriter => exact within.mono (by simp [endWriting, Writing.datagram?])
    | seeReader =>
      rw [server_seeReader]
      exact within
    | _ => exact within

/-- A datagram that comes to a ready reader is taken for the request that it opens with. -/
theorem run_of_opens {v : Supervised} {d : Datagram} {r : Request}
    (ready : v.server.reading = .ready) (empty : v.server.inbox = [])
    (opens : r.Opens d.contents) (more : List Move) :
    v.run (.part (.arrive d) :: .part .read :: more) =
      run { v with server := { v.server with
        inbox := [], reading := .admitting (.ofRequest d.peer r) } } more := by
  let arrived : Server := { v.server with inbox := [d] }
  have read : arrived.read =
      some { arrived with inbox := [], reading := .admitting (.ofRequest d.peer r) } :=
    read_eq_of_opens ready rfl opens
  have first : v.step (.part (.arrive d)) = some { v with server := arrived } := by
    have behind : v.server.step (.arrive d) = some arrived := by
      rw [Server.step, empty]
      rfl
    simp only [step, behind, Option.map_some]
    exact congrArg some (proceed_nil rfl)
  have second : step { v with server := arrived } (.part .read) = some { v with
      server := { arrived with inbox := [], reading := .admitting (.ofRequest d.peer r) } } := by
    simp only [step, Server.step, read, Option.map_some]
    exact congrArg some (proceed_nil rfl)
  rw [run_cons, first, Option.bind_some, run_cons, second, Option.bind_some]

end Supervised

end Server

namespace Client

/-! ## The client -/

/-- A client answers with the response that a datagram opens with, if there is one, and only a
success changes its session. -/
theorem conclude_of_opens {c : Client} {a : Action} {octets : Octets} {x : Response}
    (opens : x.Opens a octets) :
    c.conclude a octets =
      if x.isOk then (.ok x, { c with session := x.session })
      else (.error (.rejected x.header.error), c) := by
  have outcome := opens.2.1
  unfold conclude
  rw [Response.decode_take_eq_ok_iff.2 opens]
  cases x with
  | login header welcome =>
    have success : header.isOk = true := outcome.1
    exact (if_pos success).symm
  | shutdown header =>
    have success : header.isOk = true := outcome.1
    exact (if_pos success).symm
  | refusal header =>
    have failure : ¬ header.isOk = true := by
      rw [show header.isOk = false from outcome]
      decide
    exact (if_neg failure).symm

/-- A datagram that opens with no response to the action is no answer. -/
theorem conclude_of_not_opens {c : Client} {a : Action} {octets : Octets}
    (closed : ¬ ∃ x, Response.Opens x a octets) :
    ∃ failure, c.conclude a octets = (.error (.wire failure), c) := by
  unfold conclude
  cases decoded : Response.decode a (octets.take Wire.limit) with
  | error failure => exact ⟨failure, rfl⟩
  | ok x => exact absurd ⟨x, Response.decode_take_eq_ok_iff.1 decoded⟩ closed

section request

variable {c : Client} {r : Request} {noticed : Nat} {queue : List Arrival}
  {network : Octets → Except IoError (Wait Arrival)} {wait : Wait Arrival}
  {contents octets : Octets}

/-- A request that is sent, and that hears a datagram, is concluded by the datagram. -/
theorem request_eq_conclude (sent : (c.request r noticed queue network).sent = some contents)
    (brought : network contents = .ok wait)
    (heard : wait.heard? (queue.drop noticed) = some (.datagram octets)) :
    ((c.request r noticed queue network).result, (c.request r noticed queue network).client) =
      c.conclude r.action octets := by
  have first : ((queue.drop noticed ++ wait.arrivals).take wait.noticed).head? =
      some (.datagram octets) := heard
  rw [request_eq_receive sent brought]
  simp only [receive, first]

/-- A request with nothing in its queue sends, and the datagram that it hears concludes it. -/
theorem request_eq_of_datagram (encoded : (c.stamp r).encode = .ok contents)
    (brought : network contents = .ok wait) (heard : wait.heard? [] = some (.datagram octets)) :
    c.request r noticed [] network = ⟨(c.conclude r.action octets).1,
      (c.conclude r.action octets).2, some contents, wait.arrivals.tail⟩ := by
  have first : (wait.arrivals.take wait.noticed).head? = some (.datagram octets) := heard
  simp only [request, prepare, discard_nil, encoded, mapError_ok, brought, List.nil_append, receive,
    first]

/-- What a request sends is sealed. -/
theorem length_le_of_sent (sent : (c.request r noticed queue network).sent = some contents) :
    contents.length ≤ 61440 :=
  (Wire.length_le_of_sealed
    ((Ends.of_request c r noticed queue network).encode_of_sent sent)).2

end request

end Client

/-! ## Both sides -/

/-- **The limit, sending and receiving.**  After every run of a spawned server under supervision,
and for every request of every client:

* whatever the server has written, and whatever the request sends, is within the limit;
* a datagram that opens with a request is admitted as that request, whatever lies behind it, and
  from any other the reader goes on as if it had not come;
* when the request hears a datagram that opens with a response to the action, that response is
  returned, or reported as a refusal, whatever lies behind it; from any other the client reports a
  failure of the wire, and keeps its session. -/
theorem sends_within_limit_and_takes_openings {spare : Nat} {settings : Server.Settings}
    {s : Server} {v : Server.Supervised} {moves : List Server.Supervised.Move}
    (spawned : Server.spawnWith spare settings = some s)
    (run : (Server.Supervised.ofServer s).run moves = some v) :
    ((∀ d ∈ v.server.written, d.contents.length ≤ 61440) ∧
      ∀ d rest, v.server.reading = .ready → v.server.inbox = d :: rest →
        (∀ r : Request, r.Opens d.contents → v.server.read = some { v.server with
          inbox := rest, reading := .admitting (.ofRequest d.peer r) }) ∧
        ((∀ r : Request, ¬ r.Opens d.contents) →
          v.server.read = some { v.server with inbox := rest })) ∧
    ∀ (c : Client) (r : Request) (noticed : Nat) (queue : List Client.Arrival)
      (network : Octets → Except IoError (Client.Wait Client.Arrival)) (contents : Octets),
      (c.request r noticed queue network).sent = some contents →
      contents.length ≤ 61440 ∧
      ∀ wait octets, network contents = .ok wait →
        wait.heard? (queue.drop noticed) = some (.datagram octets) →
        let exchange := c.request r noticed queue network
        (∀ x : Response, x.Opens r.action octets → (exchange.result, exchange.client) =
          if x.isOk then (.ok x, { c with session := x.session })
          else (.error (.rejected x.header.error), c)) ∧
        ((∀ x : Response, ¬ x.Opens r.action octets) →
          ∃ failure, (exchange.result, exchange.client) = (.error (.wire failure), c)) := by
  have within := Server.Supervised.withinLimit_of_run spawned run
  refine ⟨⟨fun d written => within d (List.mem_append_left _ written), ?_⟩, ?_⟩
  · intro d rest ready inbox
    refine ⟨fun r opens => Server.read_eq_of_opens ready inbox opens, fun closed => ?_⟩
    have noise : d.isRequest = false := by
      rw [Bool.eq_false_iff, ne_eq, Datagram.isRequest_iff]
      rintro ⟨r, opens⟩
      exact closed r opens
    exact Server.read_eq_of_noise ready inbox noise
  · intro c r noticed queue network contents sent
    refine ⟨Client.length_le_of_sent sent, fun wait octets brought heard => ?_⟩
    intro exchange
    have concluded : (exchange.result, exchange.client) = c.conclude r.action octets :=
      Client.request_eq_conclude sent brought heard
    rw [concluded]
    refine ⟨fun x opens => Client.conclude_of_opens opens, fun closed => ?_⟩
    apply Client.conclude_of_not_opens
    rintro ⟨x, opens⟩
    exact closed x opens

/-- A login of 35 octets, with zeros behind it. -/
def paddedLogin : Datagram :=
  ⟨.loopback 9000, (Request.ofCredentials "alice" "pw").written ++ List.replicate 61406 0⟩

/-- A welcome of 47 octets, with zeros behind it. -/
def paddedWelcome : Octets :=
  (Response.login (.ok .login ⟨"first"⟩) "Welcome alice").written ++ List.replicate 61394 0

theorem opens_paddedLogin : (Request.ofCredentials "alice" "pw").Opens paddedLogin.contents :=
  ⟨rfl, _, rfl, List.prefix_append _ _⟩

theorem opens_paddedWelcome :
    (Response.login (.ok .login ⟨"first"⟩) "Welcome alice").Opens .login paddedWelcome :=
  ⟨rfl, ⟨rfl, rfl⟩, _, rfl, List.prefix_append _ _⟩

theorem sends_within_limit_and_takes_openings_of_padded :
    let s := Server.opened 0 {}
    let login : Request := .ofCredentials "alice" "pw"
    let welcome : Response := .login (.ok .login ⟨"first"⟩) "Welcome alice"
    let c := Client.ofServer (.loopback 8888) Client.standardPatience
    let exchange := c.request login 0 [] fun _ => .ok ⟨[.datagram paddedWelcome], 1⟩
    Server.spawnWith 0 {} = some s ∧
    (∃ v, (Server.Supervised.ofServer s).run [.part (.arrive paddedLogin)] = some v ∧
      v.server.read = some { v.server with
        inbox := [], reading := .admitting (.ofRequest (.loopback 9000) login) }) ∧
    exchange.sent = some login.written ∧ login.written.length ≤ 61440 ∧
    (exchange.result, exchange.client) = (.ok welcome, { c with session := ⟨"first"⟩ }) := by
  intro s login welcome c exchange
  have spawned : Server.spawnWith 0 {} = some s := by decide
  have run : (Server.Supervised.ofServer s).run [.part (.arrive paddedLogin)] =
      some { Server.Supervised.ofServer s with server := { s with inbox := [paddedLogin] } } := rfl
  have concluded : exchange = _ := Client.request_eq_of_datagram rfl rfl rfl
  have sent : exchange.sent = some login.written := by
    rw [concluded]
    rfl
  rcases sends_within_limit_and_takes_openings spawned run with ⟨⟨-, taken⟩, answered⟩
  rcases answered c login 0 [] _ login.written sent with ⟨within, heard⟩
  exact ⟨spawned, ⟨_, run, (taken paddedLogin [] rfl rfl).1 login opens_paddedLogin⟩, sent, within,
    (heard _ paddedWelcome rfl rfl).1 welcome opens_paddedWelcome⟩

/-- A datagram of 61441 octets gets a task, a stored id and a written reply from the server, and
another one gives a client its session. -/
theorem takes_overlong :
    let s := Server.opened 0 {}
    let welcome : Response := .login (.ok .login ⟨"first"⟩) "Welcome alice"
    let c := Client.ofServer (.loopback 8888) Client.standardPatience
    let exchange := c.request (.ofCredentials "alice" "pw") 0 [] fun _ =>
      .ok ⟨[.datagram paddedWelcome], 1⟩
    paddedLogin.contents.length = 61441 ∧ paddedWelcome.length = 61441 ∧
    Server.spawnWith 0 {} = some s ∧
    (∃ v w, (Server.Supervised.ofServer s).run
        [.part (.arrive paddedLogin), .part .read, .part .accept, .part .start] = some v ∧
      v.server.desk.tasks.length = 1 ∧
      v.run [.part (.task (.serve 0 ⟨⟨"first"⟩, 1⟩)), .part .take, .part .write] = some w ∧
      w.server.desk.table.ids = [⟨"first"⟩] ∧
      w.server.written = [⟨.loopback 9000, welcome.written⟩]) ∧
    exchange.result = .ok welcome ∧ exchange.client.session = ⟨"first"⟩ := by
  intro s welcome c exchange
  have sizes : paddedLogin.contents.length = 61441 ∧ paddedWelcome.length = 61441 := by
    rw [paddedLogin, paddedWelcome, List.length_append, List.length_append, List.length_replicate,
      List.length_replicate]
    exact ⟨rfl, rfl⟩
  refine ⟨sizes.1, sizes.2, by decide, ?_, ?_⟩
  · rw [Server.Supervised.run_of_opens rfl rfl opens_paddedLogin]
    let login : Errand := .ofRequest (.loopback 9000) (.ofCredentials "alice" "pw")
    let admitting : Server := { s with inbox := [], reading := .admitting login }
    let ready : Server.Supervised := { Server.Supervised.ofServer s with server := admitting }
    have seen : (ready.run [.part .accept, .part .start]).map (fun v => (v.server.desk.tasks.length,
          (v.run [.part (.task (.serve 0 ⟨⟨"first"⟩, 1⟩)), .part .take, .part .write]).map fun w =>
            (w.server.desk.table.ids, w.server.written))) =
        some (1, some ([⟨"first"⟩], [⟨.loopback 9000, welcome.written⟩])) := by decide +kernel
    rcases Option.map_eq_some_iff.1 seen with ⟨v, started, same⟩
    rcases Prod.mk.inj same with ⟨tasks, served⟩
    rcases Option.map_eq_some_iff.1 served with ⟨w, finished, same⟩
    rcases Prod.mk.inj same with ⟨ids, written⟩
    exact ⟨v, w, started, tasks, finished, ids, written⟩
  · have concluded : exchange = _ := Client.request_eq_of_datagram rfl rfl rfl
    have conclusion : c.conclude .login paddedWelcome =
        (.ok welcome, { c with session := welcome.session }) :=
      Client.conclude_of_opens opens_paddedWelcome
    have asked : (Request.ofCredentials "alice" "pw").action = .login := rfl
    rw [concluded, asked, conclusion]
    exact ⟨rfl, rfl⟩

end DatagramSession
