import DatagramSession.Proofs.Client.Receipt

/-!
# Conversations of a client

A conversation is a sequence of requests by one client.  Between two requests, and while one waits
for its response, anything may reach the client's socket, or nothing; what a request has not taken
is there when the next one is begun, whether the client notices it or not.

A request ends in one of eight ways, and `Ends` has a rule for each: the only one that touches the
session is the last, with a successful response.

* `Ends.of_request`: every request ends by one of the rules.
* `exists_eq_call`: the request at a place of a conversation, and the session that it is made with.
* `session_of_converse`: sessions, sent datagrams and responses of a whole conversation.
-/

namespace DatagramSession.Client

/-! ## How a request ends -/

/-- The ways in which a request ends of a client that has noticed so much of its queue. -/
inductive Ends (c : Client) (r : Request) (noticed : Nat) (queue : List Arrival)
    (network : Octets → Except IoError (Wait Arrival)) : Exchange → Prop
  /-- The queue cannot be emptied. -/
  | stale {cause : IoError} {left : List Arrival} :
    discard noticed queue = (.error cause, left) →
    Ends c r noticed queue network ⟨.error (.socket cause), c, none, left⟩
  | tooLarge {failure : Wire.Failure} :
    (c.stamp r).encode = .error failure →
    Ends c r noticed queue network ⟨.error (.wire failure), c, none, queue.drop noticed⟩
  | unsent {contents : Octets} {cause : IoError} :
    (c.stamp r).encode = .ok contents → network contents = .error cause →
    Ends c r noticed queue network ⟨.error (.socket cause), c, none, queue.drop noticed⟩
  | silence {contents : Octets} {wait : Wait Arrival} :
    (c.stamp r).encode = .ok contents → network contents = .ok wait →
    wait.heard? (queue.drop noticed) = none →
    Ends c r noticed queue network
      ⟨.error (.silence c.patience), c, some contents, queue.drop noticed ++ wait.arrivals⟩
  | failure {contents : Octets} {wait : Wait Arrival} {cause : IoError} :
    (c.stamp r).encode = .ok contents → network contents = .ok wait →
    wait.heard? (queue.drop noticed) = some (.failure cause) →
    Ends c r noticed queue network
      ⟨.error (.socket cause), c, some contents, (queue.drop noticed ++ wait.arrivals).tail⟩
  /-- What is heard is no response to the action. -/
  | undecoded {contents octets : Octets} {wait : Wait Arrival} {failure : Wire.Failure} :
    (c.stamp r).encode = .ok contents → network contents = .ok wait →
    wait.heard? (queue.drop noticed) = some (.datagram octets) →
    Response.decode r.action (octets.take Wire.limit) = .error failure →
    Ends c r noticed queue network
      ⟨.error (.wire failure), c, some contents, (queue.drop noticed ++ wait.arrivals).tail⟩
  | rejected {contents octets : Octets} {wait : Wait Arrival} {header : ResponseHeader} :
    (c.stamp r).encode = .ok contents → network contents = .ok wait →
    wait.heard? (queue.drop noticed) = some (.datagram octets) →
    Response.decode r.action (octets.take Wire.limit) = .ok (.refusal header) →
    Ends c r noticed queue network ⟨.error (.rejected header.error), c, some contents,
      (queue.drop noticed ++ wait.arrivals).tail⟩
  | answered {contents octets : Octets} {wait : Wait Arrival} {response : Response} :
    (c.stamp r).encode = .ok contents → network contents = .ok wait →
    wait.heard? (queue.drop noticed) = some (.datagram octets) →
    Response.decode r.action (octets.take Wire.limit) = .ok response → response.isOk = true →
    Ends c r noticed queue network ⟨.ok response, { c with session := response.session },
      some contents, (queue.drop noticed ++ wait.arrivals).tail⟩

/-- Every request ends by one of the rules. -/
theorem Ends.of_request (c : Client) (r : Request) (noticed : Nat) (queue : List Arrival)
    (network : Octets → Except IoError (Wait Arrival)) :
    Ends c r noticed queue network (c.request r noticed queue network) := by
  unfold request prepare
  cases emptied : discard noticed queue with
  | mk outcome left =>
    cases outcome with
    | error cause => exact .stale emptied
    | ok count =>
      obtain rfl := eq_drop_of_discard emptied
      cases encoded : (c.stamp r).encode with
      | error failure => exact .tooLarge encoded
      | ok contents =>
        simp only [mapError_ok]
        cases brought : network contents with
        | error cause => exact .unsent encoded brought
        | ok wait =>
          simp only [receive]
          split
          · next silent => exact .silence encoded brought silent
          · next cause heard => exact .failure encoded brought heard
          · next octets heard =>
            rcases c.conclude_cases r.action octets with
              ⟨failure, refused, concluded⟩ | ⟨header, refusal, concluded⟩ |
                ⟨response, decoded, success, concluded⟩
            · rw [concluded]
              exact .undecoded encoded brought heard refused
            · rw [concluded]
              exact .rejected encoded brought heard refusal
            · rw [concluded]
              exact .answered encoded brought heard decoded success

/-! ## What is sent and what is returned -/

namespace Ends

variable {c : Client} {r : Request} {noticed : Nat} {queue : List Arrival}
  {network : Octets → Except IoError (Wait Arrival)} {x : Exchange}

/-- The client holds the session of its response, and without a response the one that it held. -/
theorem session (h : Ends c r noticed queue network x) :
    x.client.session = (x.result.toOption.map Response.session).getD c.session := by
  cases h <;> rfl

/-- Only the session is stamped on a request that is sent. -/
theorem encode_of_sent (h : Ends c r noticed queue network x) {contents : Octets}
    (sent : x.sent = some contents) : (r.withSession c.session).encode = .ok contents := by
  cases h with
  | stale => cases sent
  | tooLarge => cases sent
  | unsent => cases sent
  | silence encoded => cases sent; exact encoded
  | failure encoded => cases sent; exact encoded
  | undecoded encoded => cases sent; exact encoded
  | rejected encoded => cases sent; exact encoded
  | answered encoded => cases sent; exact encoded

/-- A response is a success of the action that was asked for. -/
theorem response_of_ok (h : Ends c r noticed queue network x) {response : Response}
    (returned : x.result = .ok response) :
    response.isOk = true ∧ response.action = r.action ∧ response.bodyAction? = some r.action := by
  cases h with
  | answered _ _ _ decoded success =>
    cases returned
    obtain ⟨_, action, _, outcome⟩ := Response.written_of_decode decoded
    exact ⟨success, action, (Response.isOutcomeOf_of_isOk success).1 outcome⟩
  | _ => cases returned

/-- What is left in the queue was there before, or has come after the datagram. -/
theorem queue_suffix (h : Ends c r noticed queue network x) :
    x.queue <:+ queue ++
      ((x.sent.bind fun contents => (network contents).toOption).map Wait.arrivals).getD [] := by
  have kept := List.drop_suffix noticed queue
  have waiting (arrivals : List Arrival) : queue.drop noticed ++ arrivals <:+ queue ++ arrivals :=
    List.suffix_append_self_iff.2 kept
  have behind (arrivals : List Arrival) :
      (queue.drop noticed ++ arrivals).tail <:+ queue ++ arrivals :=
    (List.tail_suffix _).trans (waiting arrivals)
  cases h with
  | stale stopped =>
    have left := discard_suffix noticed queue
    rw [stopped] at left
    simpa using left
  | tooLarge => simpa using kept
  | unsent => simpa using kept
  | silence _ brought => rw [Option.bind_some, brought]; exact waiting _
  | failure _ brought => rw [Option.bind_some, brought]; exact behind _
  | undecoded _ brought => rw [Option.bind_some, brought]; exact behind _
  | rejected _ brought => rw [Option.bind_some, brought]; exact behind _
  | answered _ brought => rw [Option.bind_some, brought]; exact behind _

end Ends

/-! ## Conversations -/

/-- Something that reaches the client's socket.  A reply of the peer has the place of the request
that it answers, which the client cannot see. -/
structure Delivery where
  answers : Option Nat
  arrival : Arrival
deriving DecidableEq, Repr

/-- A request of a conversation, and what the client meets with when it makes it. -/
structure Occasion where
  request : Request
  /-- What has reached the socket since the last request, when this one is begun. -/
  before : List Delivery
  /-- So much of its queue the client has noticed by then. -/
  noticed : Nat
  /-- What happens at the socket after the queue was emptied and before the request ends, or why the
  datagram cannot be sent. -/
  network : Octets → Except IoError (Wait Delivery)

/-- A request that has been made, and what has become of it. -/
structure Call where
  occasion : Occasion
  /-- What lay in the queue when the request was begun. -/
  queue : List Delivery
  exchange : Exchange

namespace Call

/-- What has happened at the socket while the request waited, if its datagram was sent. -/
def wait? (call : Call) : Option (Wait Delivery) :=
  call.exchange.sent.bind fun contents => (call.occasion.network contents).toOption

/-- What has reached the socket while the request waited. -/
def during (call : Call) : List Delivery := (call.wait?.map Wait.arrivals).getD []

/-- What the client had not noticed when the request was begun. -/
def unnoticed (call : Call) : List Delivery := call.queue.drop call.occasion.noticed

/-- What the request has left in the queue. -/
def left (call : Call) : List Delivery :=
  let all := call.queue ++ call.during
  all.drop (all.length - call.exchange.queue.length)

end Call

/-- The network of an occasion, as the client sees it. -/
def Occasion.seen (o : Occasion) (contents : Octets) : Except IoError (Wait Arrival) :=
  (o.network contents).map (Wait.map Delivery.arrival)

/-- A request of a client in whose queue so much was left. -/
def call (c : Client) (left : List Delivery) (o : Occasion) : Call where
  occasion := o
  queue := left ++ o.before
  exchange := c.request o.request o.noticed ((left ++ o.before).map Delivery.arrival) o.seen

/-- The requests of a client, one after the other. -/
def converse (c : Client) (left : List Delivery) : List Occasion → List Call
  | [] => []
  | o :: rest =>
    let call := c.call left o
    call :: call.exchange.client.converse call.left rest

/-- The session of the last request that was answered with success, or else the one held before. -/
def lastSession (held : SessionId) (calls : List Call) : SessionId :=
  ((calls.filterMap (·.exchange.result.toOption)).getLast?.map Response.session).getD held

section call

variable (c : Client) (left : List Delivery) (o : Occasion)

/-- How a request of a conversation ends. -/
theorem ends_call : Ends c o.request o.noticed ((left ++ o.before).map Delivery.arrival) o.seen
    (c.call left o).exchange :=
  .of_request ..

/-- The arrivals that a request meets with are those of the deliveries. -/
theorem map_arrival_during (call : Call) :
    call.during.map Delivery.arrival = ((call.exchange.sent.bind fun contents =>
      (call.occasion.seen contents).toOption).map Wait.arrivals).getD [] := by
  unfold Call.during Call.wait? Occasion.seen
  cases call.exchange.sent with
  | none => rfl
  | some contents =>
    rw [Option.bind_some, Option.bind_some]
    cases call.occasion.network contents <;> rfl

/-- What is left of the deliveries is what the request leaves in the client's queue. -/
theorem map_arrival_left :
    (c.call left o).left.map Delivery.arrival = (c.call left o).exchange.queue := by
  have arrivals := map_arrival_during (c.call left o)
  have suffix : (c.call left o).exchange.queue <:+
      ((c.call left o).queue ++ (c.call left o).during).map Delivery.arrival := by
    rw [List.map_append, arrivals]
    exact (c.ends_call left o).queue_suffix
  rw [List.suffix_iff_eq_drop, List.length_map, ← List.map_drop] at suffix
  exact suffix.symm

end call

theorem lastSession_append (held : SessionId) (earlier later : List Call) :
    lastSession held (earlier ++ later) = lastSession (lastSession held earlier) later := by
  unfold lastSession
  rw [List.filterMap_append, List.getLast?_append]
  cases (later.filterMap (·.exchange.result.toOption)).getLast? <;> rfl

/-- After a request the client holds the session of its response, if there is one. -/
theorem session_call (c : Client) (left : List Delivery) (o : Occasion) :
    (c.call left o).exchange.client.session = lastSession c.session [c.call left o] := by
  rw [(c.ends_call left o).session]
  unfold lastSession
  cases result : (c.call left o).exchange.result <;> simp [result, Except.toOption]

/-- A request of a conversation is made with the session of the last response before it. -/
theorem exists_eq_call {c : Client} {left : List Delivery} {occasions : List Occasion} {k : Nat}
    {o : Occasion} (asked : occasions[k]? = some o) :
    ∃ made queued, made.session = lastSession c.session ((c.converse left occasions).take k) ∧
      (c.converse left occasions)[k]? = some (call made queued o) := by
  induction occasions generalizing c left k with
  | nil => cases asked
  | cons first rest ih =>
    cases k with
    | zero =>
      cases asked
      exact ⟨c, left, rfl, rfl⟩
    | succ k =>
      obtain ⟨made, queued, session, found⟩ := ih asked
      refine ⟨made, queued, ?_, found⟩
      rw [session, session_call, ← lastSession_append]
      rfl

theorem length_converse (c : Client) (left : List Delivery) (occasions : List Occasion) :
    (c.converse left occasions).length = occasions.length := by
  induction occasions generalizing c left with
  | nil => rfl
  | cons o rest ih => exact congrArg Nat.succ (ih _ _)

/-- A request of a conversation ends as a request of a client does. -/
theorem ends_of_converse {c : Client} {left : List Delivery} {occasions : List Occasion} {k : Nat}
    {call : Call} (found : (c.converse left occasions)[k]? = some call) :
    ∃ made, Ends made call.occasion.request call.occasion.noticed
      (call.queue.map Delivery.arrival) call.occasion.seen call.exchange := by
  have bound : k < occasions.length := by
    rw [← c.length_converse left]
    exact (List.getElem?_eq_some_iff.1 found).1
  have asked : occasions[k]? = some occasions[k] := List.getElem?_eq_getElem bound
  obtain ⟨made, queued, _, same⟩ := exists_eq_call asked
  obtain rfl := Option.some.inj (same.symm.trans found)
  exact ⟨made, made.ends_call queued _⟩

/-- **The session of a conversation.**  In every conversation of a client, whatever reaches its
socket and whatever the socket refuses, and for each of its requests:

* afterwards the client holds the session of the last request that was answered with success, or the
  absent one if there was none; so a request that fails leaves the session as it was;
* if a datagram is sent for it, it is the request with nothing changed but its session, in whose
  place stands the one that the client held;
* a response that it returns reports success, and its header and its body are of the action of the
  request. -/
theorem session_of_converse (server : Address) (patience : Duration) (left : List Delivery)
    (occasions : List Occasion) {k : Nat} {o : Occasion} (asked : occasions[k]? = some o) :
    let calls := (ofServer server patience).converse left occasions
    ∃ call, calls[k]? = some call ∧ call.occasion = o ∧
      (call.exchange.client.session = lastSession .absent (calls.take (k + 1)) ∧
        ∀ failure, call.exchange.result = .error failure →
          call.exchange.client.session = lastSession .absent (calls.take k)) ∧
      (∀ contents, call.exchange.sent = some contents →
        (o.request.withSession (lastSession .absent (calls.take k))).encode = .ok contents) ∧
      ∀ response, call.exchange.result = .ok response →
        response.isOk = true ∧ response.action = o.request.action ∧
          response.bodyAction? = some o.request.action := by
  intro calls
  obtain ⟨c, queued, held, found⟩ := exists_eq_call (c := ofServer server patience) asked
  replace held : c.session = lastSession .absent (calls.take k) := held
  have ends := c.ends_call queued o
  have adopted : (c.call queued o).exchange.client.session =
      lastSession .absent (calls.take (k + 1)) := by
    rw [session_call, held, ← lastSession_append, List.take_add_one, found]
    rfl
  have kept : ∀ failure, (c.call queued o).exchange.result = .error failure →
      (c.call queued o).exchange.client.session = lastSession .absent (calls.take k) := by
    intro failure failed
    rw [ends.session, failed, ← held]
    rfl
  refine ⟨_, found, rfl, ⟨adopted, kept⟩, ?_, ?_⟩
  · intro contents sent
    rw [← held]
    exact ends.encode_of_sent sent
  · intro response returned
    exact ends.response_of_ok returned

/-- A login that is not answered, one that is, and a shutdown that is refused. -/
def refusedShutdown : List Occasion :=
  let welcome : Response := .login (.ok .login ⟨"first"⟩) "Welcome alice"
  let refusal : Response := .refusal (.failed .shutdown ⟨"first"⟩ "not now")
  [⟨.ofCredentials "alice" "pw", [], 0, fun _ => .ok ⟨[], 0⟩⟩,
    ⟨.ofCredentials "alice" "pw", [], 0,
      fun _ => .ok ⟨[⟨some 1, .datagram welcome.written⟩], 1⟩⟩,
    ⟨.ofShutdown, [], 0, fun _ => .ok ⟨[⟨some 2, .datagram refusal.written⟩], 1⟩⟩]

theorem session_of_converse_of_refusedShutdown :
    let calls := (ofServer (.loopback 8888) standardPatience).converse [] refusedShutdown
    ∃ call, calls[2]? = some call ∧
      call.exchange.result = .error (.rejected "not now") ∧
      call.exchange.sent = some (Request.shutdown ⟨.shutdown, ⟨"first"⟩⟩).written ∧
      lastSession .absent (calls.take 2) = ⟨"first"⟩ ∧
      call.exchange.client.session = lastSession .absent (calls.take 2) := by
  intro calls
  obtain ⟨call, found, occasion, ⟨_, kept⟩, _, _⟩ :=
    session_of_converse (.loopback 8888) standardPatience [] refusedShutdown (k := 2) rfl
  have seen : calls[2]?.map (fun call => (call.exchange.result, call.exchange.sent)) =
      some (.error (.rejected "not now"),
        some (Request.shutdown ⟨.shutdown, ⟨"first"⟩⟩).written) := by decide +kernel
  have held : lastSession .absent (calls.take 2) = ⟨"first"⟩ := by decide +kernel
  rw [found, Option.map_some, Option.some.injEq, Prod.mk.injEq] at seen
  exact ⟨call, found, seen.1, seen.2, held, kept _ seen.1⟩

end DatagramSession.Client
