import DatagramSession.Proofs.Client.Emptying
import DatagramSession.Proofs.Wire.Response

/-!
# What a client takes from its socket

A client takes arrivals off the front of its queue: those that it discards before it sends, and one
for the response.  Its session changes only through a successful response that it decodes from that
one.

* `prepare_suffix`, `receive_suffix`: arrivals are taken off the front.
* `session_receive`: the session afterwards.
* `request_eq_receive`: a request whose datagram is sent ends as its receiving does.
-/

namespace DatagramSession.Client

/-! ## Before the request is sent -/

theorem prepare_suffix (c : Client) (r : Request) (noticed : Nat) (queue : List Arrival) :
    (c.prepare r noticed queue).2 <:+ queue := by
  have left := discard_suffix noticed queue
  unfold prepare
  split
  · next stopped => rw [stopped] at left; exact left
  · next emptied => rw [emptied] at left; exact left

/-- A client that has its datagram has emptied all that it had noticed. -/
theorem eq_drop_of_prepare {c : Client} {r : Request} {noticed : Nat} {queue left : List Arrival}
    {contents : Octets} (prepared : c.prepare r noticed queue = (.ok contents, left)) :
    left = queue.drop noticed := by
  unfold prepare at prepared
  split at prepared
  · cases prepared
  · next emptied =>
    obtain ⟨-, rfl⟩ := Prod.mk.inj prepared
    exact eq_drop_of_discard emptied

/-! ## Taking a response -/

/-- What is decoded and is no refusal reports success. -/
theorem isOk_of_decode {action : Action} {contents : Octets} {response : Response}
    (decoded : Response.decode action contents = .ok response)
    (notRefusal : ∀ header, response ≠ .refusal header) : response.isOk = true := by
  obtain ⟨_, _, _, outcome⟩ := Response.written_of_decode decoded
  cases response with
  | login header welcome => exact outcome.1
  | shutdown header => exact outcome.1
  | refusal header => exact absurd rfl (notRefusal header)

/-- A datagram cannot be decoded, or is a refusal, or brings a success and with it a session. -/
theorem conclude_cases (c : Client) (action : Action) (contents : Octets) :
    (∃ failure, Response.decode action (contents.take Wire.limit) = .error failure ∧
      c.conclude action contents = (.error (.wire failure), c)) ∨
    (∃ header, Response.decode action (contents.take Wire.limit) = .ok (.refusal header) ∧
      c.conclude action contents = (.error (.rejected header.error), c)) ∨
    ∃ response, Response.decode action (contents.take Wire.limit) = .ok response ∧
      response.isOk = true ∧
      c.conclude action contents = (.ok response, { c with session := response.session }) := by
  unfold conclude
  split
  · next failure refused => exact .inl ⟨failure, refused, rfl⟩
  · next header refusal => exact .inr (.inl ⟨header, refusal, rfl⟩)
  · next response notRefusal decoded =>
    exact .inr (.inr ⟨response, decoded, isOk_of_decode decoded notRefusal, rfl⟩)

/-- A client keeps its session, or takes that of a successful response. -/
theorem session_conclude (c : Client) (action : Action) (contents : Octets) :
    (c.conclude action contents).2.session = c.session ∨
      ∃ response, Response.decode action (contents.take Wire.limit) = .ok response ∧
        response.isOk = true ∧ (c.conclude action contents).2.session = response.session := by
  rcases c.conclude_cases action contents with
    ⟨_, _, concluded⟩ | ⟨_, _, concluded⟩ | ⟨response, decoded, success, concluded⟩
  · exact .inl (by rw [concluded])
  · exact .inl (by rw [concluded])
  · exact .inr ⟨response, decoded, success, by rw [concluded]⟩

/-- The first noticed arrival is the first of all. -/
theorem eq_cons_of_head?_take {α : Type} {noticed : Nat} {queue : List α} {a : α}
    (first : (queue.take noticed).head? = some a) : queue = a :: queue.tail := by
  cases queue with
  | nil => cases noticed <;> cases first
  | cons b rest =>
    cases noticed with
    | zero => cases first
    | succ noticed =>
      cases first
      rfl

/-- Receiving takes the first arrival, or none. -/
theorem receive_suffix (c : Client) (action : Action) (noticed : Nat) (queue : List Arrival) :
    (c.receive action noticed queue).2 <:+ queue := by
  unfold receive
  split
  · exact List.suffix_rfl
  · exact List.tail_suffix queue
  · exact List.tail_suffix queue

/-- A client that receives keeps its session, or takes that of a successful response which it
decodes from a datagram of its queue. -/
theorem session_receive (c : Client) (action : Action) (noticed : Nat) (queue : List Arrival) :
    (c.receive action noticed queue).1.2.session = c.session ∨
      ∃ contents response, .datagram contents ∈ queue ∧
        Response.decode action (contents.take Wire.limit) = .ok response ∧
        response.isOk = true ∧
        (c.receive action noticed queue).1.2.session = response.session := by
  unfold receive
  split
  · exact .inl rfl
  · exact .inl rfl
  · next contents first =>
    have queued : .datagram contents ∈ queue := by
      rw [eq_cons_of_head?_take first]
      exact List.mem_cons_self
    rcases c.session_conclude action contents with kept | ⟨response, decoded, success, adopted⟩
    · exact .inl kept
    · exact .inr ⟨contents, response, queued, decoded, success, adopted⟩

/-! ## The whole request -/

/-- A request whose datagram is sent receives from what it had not noticed and what has come. -/
theorem request_eq_receive {c : Client} {r : Request} {noticed : Nat} {queue : List Arrival}
    {network : Octets → Except IoError (Wait Arrival)} {wait : Wait Arrival} {contents : Octets}
    (sent : (c.request r noticed queue network).sent = some contents)
    (brought : network contents = .ok wait) :
    let received := c.receive r.action wait.noticed (queue.drop noticed ++ wait.arrivals)
    c.request r noticed queue network =
      ⟨received.1.1, received.1.2, some contents, received.2⟩ := by
  unfold request at sent ⊢
  cases prepared : c.prepare r noticed queue with
  | mk outcome left =>
    cases outcome with
    | error failure =>
      rw [prepared] at sent
      cases sent
    | ok octets =>
      obtain rfl := eq_drop_of_prepare prepared
      simp only [prepared] at sent ⊢
      cases came : network octets with
      | error cause =>
        rw [came] at sent
        cases sent
      | ok other =>
        rw [came] at sent
        cases sent
        cases came.symm.trans brought
        rfl

end DatagramSession.Client
