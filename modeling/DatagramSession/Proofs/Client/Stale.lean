import DatagramSession.Proofs.Client.Conversation
import Mathlib.Data.List.Forall2

/-!
# What lies in the queue before a request

A request begins with emptying the client's queue.  Whatever datagrams the client has noticed there,
and however many refused connections, they are gone when the request is sent, so it goes on as
without them.  Only a failure of another kind ends the emptying, and then nothing is sent.

But the emptying stops short of what the client has not noticed.  Though that lay in the queue when
the request was begun, it counts as if it had come while the request waits, and a late reply among it
is taken for the response.

* `request_agrees`, `converse_agrees`: noticed queues with the same troubles make no difference, to
  one request and to a conversation.
* `request_ignores_noticed`: what was noticed has no influence, and what was not counts as later.
* `takes_unnoticed_welcome`: so it can be taken for the response.
-/

namespace DatagramSession.Client

/-! ## Two queues with the same troubles -/

/-- Two requests have ended alike: they have the same result, they have sent the same, they leave
the client as the other does, and the troubles in their queues are the same. -/
structure Exchange.Agrees (x y : Exchange) : Prop where
  result : x.result = y.result
  client : x.client = y.client
  sent : x.sent = y.sent
  troubles : troubles x.queue = troubles y.queue

/-- The same, when so much has reached the socket before. -/
def Wait.behind {α : Type} (unnoticed : List α) (w : Wait α) : Wait α :=
  ⟨unnoticed ++ w.arrivals, w.noticed⟩

section request

variable (c : Client) (r : Request) {noticed other : Nat} {queue others : List Arrival}
  (network : Octets → Except IoError (Wait Arrival))

/-- What has been noticed and is quiet makes no difference. -/
theorem request_of_quiet (quiet : Quiet (queue.take noticed)) :
    c.request r noticed queue network = c.request r 0 (queue.drop noticed) network := by
  have emptied : c.prepare r noticed queue = c.prepare r 0 (queue.drop noticed) := by
    unfold prepare
    rw [discard_of_quiet quiet, discard]
  rw [request, request, emptied]

/-- A request that notices trouble in its queue fails with it, and sends nothing. -/
theorem request_of_trouble {before left : List Arrival} {cause : IoError} (quiet : Quiet before)
    (serious : cause ≠ .connectionRefused) (seen : before.length < noticed) :
    c.request r noticed (before ++ .failure cause :: left) network =
      ⟨.error (.socket cause), c, none, left⟩ := by
  rw [request, prepare, discard_of_trouble quiet serious seen]

/-- What has not been noticed is as if it came while the request waits. -/
theorem request_unnoticed (queue : List Arrival) :
    let x := c.request r 0 queue network
    let y := c.request r 0 [] fun contents => (network contents).map (.behind queue)
    x.result = y.result ∧ x.client = y.client ∧ x.sent = y.sent := by
  simp only [request, prepare, discard]
  cases (c.stamp r).encode with
  | error failure => exact ⟨rfl, rfl, rfl⟩
  | ok contents =>
    simp only [mapError_ok]
    cases network contents with
    | error cause => exact ⟨rfl, rfl, rfl⟩
    | ok wait => exact ⟨rfl, rfl, rfl⟩

/-- Of what has been noticed only the troubles matter to a request. -/
theorem request_agrees (same : troubles (queue.take noticed) = troubles (others.take other))
    (rest : queue.drop noticed = others.drop other) :
    (c.request r noticed queue network).Agrees (c.request r other others network) := by
  rcases quiet_or_noticed_trouble noticed queue with
    quiet | ⟨before, cause, left, part, whole, seen, quiet, serious⟩
  · have otherQuiet : Quiet (others.take other) := same.symm.trans quiet
    rw [c.request_of_quiet r network quiet, c.request_of_quiet r network otherQuiet, rest]
    exact ⟨rfl, rfl, rfl, rfl⟩
  · rw [part, troubles_of_trouble quiet serious] at same
    rcases quiet_or_noticed_trouble other others with
      otherQuiet | ⟨front, first, left', part', whole', seen', otherQuiet, grave⟩
    · cases same.trans otherQuiet
    · rw [part', troubles_of_trouble otherQuiet grave] at same
      obtain ⟨rfl, behind⟩ := List.cons.inj same
      rw [whole, whole', c.request_of_trouble r network quiet serious seen,
        c.request_of_trouble r network otherQuiet grave seen', rest]
      refine ⟨rfl, rfl, rfl, ?_⟩
      rw [troubles_append, troubles_append, behind]

end request

/-- **What was noticed before a request does not matter, and what was not counts as later.**  For
every client, request and queue, however much of the queue the client has noticed:

* if it has noticed all of it, and there are only datagrams and refused connections, whatever the
  datagrams are and however many there are of each, then the emptying ends with an empty queue and
  has counted the datagrams, and whatever happens then, the request has the result, sends the
  datagram and leaves the client and the queue as if the queue had been empty;
* if there are only such in the part that it has noticed, then the emptying ends with the rest of
  the queue and has counted the datagrams of that part, and the request has the result, sends the
  datagram and leaves the client as if the queue had been empty and the rest had come while it
  waits;
* the emptying ends early exactly at the first failure of another kind, if it is noticed, and then
  the request fails with it, nothing is sent, and the client is as it was. -/
theorem request_ignores_noticed (c : Client) (r : Request) (noticed : Nat) (queue : List Arrival) :
    (queue.length ≤ noticed → Quiet queue →
      discard noticed queue = (.ok (queue.countP Arrival.isDatagram), []) ∧
      ∀ network, c.request r noticed queue network = c.request r noticed [] network) ∧
    (Quiet (queue.take noticed) →
      discard noticed queue =
        (.ok ((queue.take noticed).countP Arrival.isDatagram), queue.drop noticed) ∧
      ∀ network,
        let x := c.request r noticed queue network
        let y := c.request r noticed [] fun contents =>
          (network contents).map (.behind (queue.drop noticed))
        x.result = y.result ∧ x.client = y.client ∧ x.sent = y.sent) ∧
    ∀ cause left,
      (discard noticed queue = (.error cause, left) ↔
        ∃ before, queue = before ++ .failure cause :: left ∧ before.length < noticed ∧
          Quiet before ∧ cause ≠ .connectionRefused) ∧
      (discard noticed queue = (.error cause, left) → ∀ network,
        c.request r noticed queue network = ⟨.error (.socket cause), c, none, left⟩) := by
  have ofNone (network : Octets → Except IoError (Wait Arrival)) :
      c.request r noticed [] network = c.request r 0 [] network := by
    have quiet : Quiet (([] : List Arrival).take noticed) := by
      rw [List.take_nil]
      rfl
    rw [c.request_of_quiet r network quiet, List.drop_nil]
  refine ⟨fun all quiet => ?_, fun quiet => ⟨discard_of_quiet quiet, fun network => ?_⟩,
    fun cause left => ⟨discard_eq_error_iff, fun stopped network => ?_⟩⟩
  · rw [← List.take_of_length_le all] at quiet
    have none : queue.drop noticed = [] := List.drop_eq_nil_of_le all
    have emptied := discard_of_quiet quiet
    rw [List.take_of_length_le all, none] at emptied
    refine ⟨emptied, fun network => ?_⟩
    rw [c.request_of_quiet r network quiet, none, ofNone]
  · simp only [c.request_of_quiet r network quiet, ofNone]
    exact c.request_unnoticed r network _
  · obtain ⟨before, rfl, seen, quiet, serious⟩ := discard_eq_error_iff.1 stopped
    exact c.request_of_trouble r network quiet serious seen

/-- A welcome to another session. -/
def staleReply : Arrival :=
  .datagram (Response.login (.ok .login ⟨"stale"⟩) "Welcome alice").written

/-- The welcome to the login of a client comes at once. -/
def freshReply (_ : Octets) : Except IoError (Wait Arrival) :=
  .ok ⟨[.datagram (Response.login (.ok .login ⟨"fresh"⟩) "Welcome alice").written], 1⟩

/-- A welcome, a refused connection and an empty datagram lie in the queue of a client that logs
in. -/
def queuedWelcome : List Arrival :=
  [staleReply, .failure .connectionRefused, .datagram []]

theorem request_ignores_queuedWelcome :
    let c := ofServer (.loopback 8888) standardPatience
    let r : Request := .ofCredentials "alice" "pw"
    let broken := .failure .networkUnreachable :: queuedWelcome
    (queuedWelcome.length ≤ 3 ∧ Quiet queuedWelcome ∧ discard 3 queuedWelcome = (.ok 2, []) ∧
      (c.request r 3 queuedWelcome freshReply).client.session = ⟨"fresh"⟩) ∧
    (discard 2 queuedWelcome = (.ok 1, [.datagram []]) ∧
      (c.request r 2 queuedWelcome freshReply).result =
        .error (.wire (.malformed .endOfInput))) ∧
    discard 4 broken = (.error .networkUnreachable, queuedWelcome) ∧
      (c.request r 4 broken freshReply).sent = none := by
  intro c r broken
  have all : queuedWelcome.length ≤ 3 := by decide
  have quiet : Quiet queuedWelcome := by decide
  have part : Quiet (queuedWelcome.take 2) := by decide
  have stopped : discard 4 broken = (.error .networkUnreachable, queuedWelcome) := by decide
  obtain ⟨emptied, same⟩ := (request_ignores_noticed c r 3 queuedWelcome).1 all quiet
  obtain ⟨short, later⟩ := (request_ignores_noticed c r 2 queuedWelcome).2.1 part
  have unsent := ((request_ignores_noticed c r 4 broken).2.2 _ _).2 stopped
  refine ⟨⟨all, quiet, emptied, ?_⟩, ⟨short, ?_⟩, stopped, ?_⟩
  · rw [same freshReply]
    decide +kernel
  · rw [(later freshReply).1]
    decide +kernel
  · rw [unsent freshReply]

/-- **A late reply that has not been noticed is taken for the response.**  It lies in the queue when a
login is begun, nothing keeps the client from emptying the queue, and yet the emptying drops nothing:
the client sends, and adopts the session of the late reply.  Had the queue been empty, it would have
adopted that of its own. -/
theorem takes_unnoticed_welcome :
    let c := ofServer (.loopback 8888) standardPatience
    let r : Request := .ofCredentials "alice" "pw"
    Quiet [staleReply] ∧ discard 0 [staleReply] = (.ok 0, [staleReply]) ∧
    (c.request r 0 [staleReply] freshReply).sent = some r.written ∧
    (c.request r 0 [staleReply] freshReply).client.session = ⟨"stale"⟩ ∧
    (c.request r 0 [] freshReply).client.session = ⟨"fresh"⟩ := by
  decide +kernel

/-! ## Conversations -/

/-- Two occasions for the same request, at which the surroundings do the same once it is begun, and
before which the same troubles have come. -/
structure Occasion.Agrees (o p : Occasion) : Prop where
  request : o.request = p.request
  network : o.network = p.network
  troubles : troubles (o.before.map Delivery.arrival) = troubles (p.before.map Delivery.arrival)

/-- The client has noticed all that lay in the queue when the request was begun. -/
def Call.IsAware (call : Call) : Prop := call.queue.length ≤ call.occasion.noticed

/-- **What is noticed as stale has no influence.**  In two conversations with the same requests and
the same surroundings, in which the client has always noticed all of its queue when it begins a
request: however they differ in the datagrams and the refused connections that come between two
requests, every request of the one ends as that of the other. -/
theorem converse_agrees {c : Client} {left other : List Delivery}
    {occasions others : List Occasion}
    (same : troubles (left.map Delivery.arrival) = troubles (other.map Delivery.arrival))
    (alike : List.Forall₂ Occasion.Agrees occasions others)
    (aware : ∀ call ∈ c.converse left occasions, call.IsAware)
    (otherAware : ∀ call ∈ c.converse other others, call.IsAware) :
    List.Forall₂ (fun x y => x.exchange.Agrees y.exchange) (c.converse left occasions)
      (c.converse other others) := by
  induction alike generalizing c left other with
  | nil => exact .nil
  | @cons o p occasions others agrees _ ih =>
    obtain ⟨noticed, later⟩ := List.forall_mem_cons.1 aware
    obtain ⟨otherNoticed, otherLater⟩ := List.forall_mem_cons.1 otherAware
    let queue := (left ++ o.before).map Delivery.arrival
    let otherQueue := (other ++ p.before).map Delivery.arrival
    have all : queue.length ≤ o.noticed := by rwa [List.length_map]
    have otherAll : otherQueue.length ≤ p.noticed := by rwa [List.length_map]
    have queues : troubles (queue.take o.noticed) = troubles (otherQueue.take p.noticed) := by
      rw [List.take_of_length_le all, List.take_of_length_le otherAll]
      simp only [queue, otherQueue, List.map_append, troubles_append, same, agrees.troubles]
    have unnoticed : queue.drop o.noticed = otherQueue.drop p.noticed := by
      rw [List.drop_eq_nil_of_le all, List.drop_eq_nil_of_le otherAll]
    have first : (c.call left o).exchange.Agrees (c.call other p).exchange := by
      unfold call Occasion.seen
      rw [agrees.request, agrees.network]
      exact c.request_agrees p.request _ queues unnoticed
    have rest : troubles ((c.call left o).left.map Delivery.arrival) =
        troubles ((c.call other p).left.map Delivery.arrival) := by
      rw [map_arrival_left, map_arrival_left]
      exact first.troubles
    refine .cons first ?_
    rw [first.client] at later ⊢
    exact ih rest later otherLater

end DatagramSession.Client
