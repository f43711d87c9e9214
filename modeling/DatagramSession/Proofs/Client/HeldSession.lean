import DatagramSession.Proofs.System.Limit

/-!
# The size of a held session

A client does not look at the session that it takes over from a response, and stamps it on whatever
it asks for next.  But the response has come in one datagram, where at least 21 octets stand beside
the session, and a shutdown has only 12 beside it.  So there is room for a shutdown, whoever has
sent the response.

* `Client.after`: a client after its requests.
* `Response.size_session_le_of_encode`, `Client.size_session_after_le`: the size of the session of a
  response, and of the one that a client holds.
* `Client.request_shutdown`: what becomes of a shutdown that there is room for.
* `Client.shutdown_has_room`: both together, and which sessions a client can hold.
-/

namespace DatagramSession

open Wire

/-! ## What leaves room for a shutdown -/

/-- A response within the limit has at least 21 octets beside its session. -/
theorem Response.size_session_le_of_encode {x : Response} {octets : Octets}
    (encoded : x.encode = .ok octets) : x.session.text.utf8ByteSize ≤ 61419 := by
  obtain ⟨rfl, fits⟩ := Wire.length_le_of_sealed encoded
  obtain ⟨body, split⟩ := x.written_eq_header_append
  rw [split, List.length_append, ResponseHeader.length_written] at fits
  have session : x.session = x.header.session := rfl
  rw [session]
  omega

/-- A shutdown has 12 octets beside its session. -/
theorem Client.encode_shutdown (c : Client) (short : c.session.text.utf8ByteSize ≤ 61428) :
    (c.stamp .ofShutdown).encode = .ok (Request.shutdown ⟨.shutdown, c.session⟩).written := by
  have size : (Request.shutdown ⟨.shutdown, c.session⟩).written.length =
      12 + c.session.text.utf8ByteSize := Request.length_written_shutdown _
  have fits : (Request.shutdown ⟨.shutdown, c.session⟩).written.length ≤ 61440 := by omega
  exact (Wire.sealed_eq _).trans (if_pos fits)

/-! ## What decoding complains of -/

theorem Wire.Reader.exists_fault_of_front {α : Type} {reader : Reader α} {octets : Octets}
    {failure : Wire.Failure} (refused : reader.front octets = .error failure) :
    ∃ fault, failure = .malformed fault := by
  unfold front at refused
  split at refused
  · cases refused
  · cases refused
    exact ⟨_, rfl⟩

/-- Decoding complains of what it reads, and never of a size. -/
theorem Response.malformed_or_unexpected_of_decode {a : Action} {octets : Octets}
    {failure : Wire.Failure} (refused : Response.decode a octets = .error failure) :
    (∃ fault, failure = .malformed fault) ∨ ∃ actual, failure = .unexpectedAction a actual := by
  cases read : ResponseHeader.decode octets with
  | error complaint =>
    rw [Response.decode, read] at refused
    cases refused
    exact .inl (Reader.exists_fault_of_front read)
  | ok header =>
    rw [decode_of_header a read] at refused
    split at refused
    · cases refused
      exact .inr ⟨_, rfl⟩
    split at refused
    · cases refused
    · exact .inl (Reader.exists_fault_of_front refused)

namespace Client

/-! ## The session that a client holds -/

/-- A client after its requests. -/
def after (c : Client) (left : List Delivery) (occasions : List Occasion) : Client :=
  ((c.converse left occasions).getLast?.map (·.exchange.client)).getD c

/-- After its first request a client goes on with what that has made of it. -/
theorem after_cons (c : Client) (left : List Delivery) (o : Occasion) (rest : List Occasion) :
    c.after left (o :: rest) = (c.call left o).exchange.client.after (c.call left o).left rest := by
  unfold after
  rw [converse, List.getLast?_cons]
  cases ((c.call left o).exchange.client.converse (c.call left o).left rest).getLast? <;> rfl

/-- However a request ends, a session that leaves room is followed by one that does. -/
theorem Ends.size_session_le {c : Client} {r : Request} {noticed : Nat} {queue : List Arrival}
    {network : Octets → Except IoError (Wait Arrival)} {x : Exchange}
    (h : Ends c r noticed queue network x) (short : c.session.text.utf8ByteSize ≤ 61419) :
    x.client.session.text.utf8ByteSize ≤ 61419 := by
  cases h with
  | answered _ _ _ decoded =>
    obtain ⟨-, -, front, encoded, -⟩ := Response.decode_take_eq_ok_iff.1 decoded
    exact Response.size_session_le_of_encode encoded
  | _ => exact short

theorem size_session_after_le {c : Client} (short : c.session.text.utf8ByteSize ≤ 61419)
    (left : List Delivery) (occasions : List Occasion) :
    (c.after left occasions).session.text.utf8ByteSize ≤ 61419 := by
  induction occasions generalizing c left with
  | nil => exact short
  | cons o rest ih =>
    rw [after_cons]
    exact ih ((c.ends_call left o).size_session_le short) _

/-- A shutdown that the peer acknowledges under a session of its own choice. -/
def acknowledgedAs (id : SessionId) : Occasion where
  request := .ofShutdown
  before := []
  noticed := 0
  network := fun _ => .ok ⟨[⟨none, .datagram (Response.shutdown (.ok .shutdown id)).written⟩], 1⟩

/-- A client takes over whatever session there is room for in a response. -/
theorem session_after_acknowledgedAs (c : Client) (held : c.session.text.utf8ByteSize ≤ 61428)
    {id : SessionId} (short : id.text.utf8ByteSize ≤ 61419) :
    (c.after [] [acknowledgedAs id]).session = id := by
  let acknowledgement : Response := .shutdown (.ok .shutdown id)
  let network : Octets → Except IoError (Wait Arrival) :=
    fun _ => .ok ⟨[.datagram acknowledgement.written], 1⟩
  have size : acknowledgement.written.length = 21 + id.text.utf8ByteSize :=
    ResponseHeader.length_written (.ok .shutdown id)
  have encoded : acknowledgement.encode = .ok acknowledgement.written :=
    (Wire.sealed_eq _).trans (if_pos (by omega))
  have opens : acknowledgement.Opens .shutdown acknowledgement.written :=
    ⟨rfl, ⟨rfl, rfl⟩, _, encoded, List.prefix_rfl⟩
  have exchange : c.request .ofShutdown 0 [] network = _ :=
    request_eq_of_datagram (c.encode_shutdown held) rfl rfl
  have concluded : c.conclude .shutdown acknowledgement.written =
      (.ok acknowledgement, { c with session := id }) := conclude_of_opens opens
  change (c.request .ofShutdown 0 [] network).client.session = id
  rw [exchange]
  exact congrArg (fun outcome => outcome.2.session) concluded

/-! ## A shutdown -/

/-- A shutdown that there is room for is sent, unless the socket fails, and no size is complained
of. -/
theorem request_shutdown (c : Client) (short : c.session.text.utf8ByteSize ≤ 61428) (noticed : Nat)
    (queue : List Arrival) (network : Octets → Except IoError (Wait Arrival)) :
    ((c.request .ofShutdown noticed queue network).sent =
        some (Request.shutdown ⟨.shutdown, c.session⟩).written ∨
      ∃ cause, (c.request .ofShutdown noticed queue network).result = .error (.socket cause)) ∧
    ∀ size limit, (c.request .ofShutdown noticed queue network).result ≠
      .error (.wire (.tooLarge size limit)) := by
  have sealing := c.encode_shutdown short
  have ends := Ends.of_request c .ofShutdown noticed queue network
  generalize c.request .ofShutdown noticed queue network = x at ends
  cases ends with
  | stale => exact ⟨.inr ⟨_, rfl⟩, nofun⟩
  | tooLarge refused => cases sealing.symm.trans refused
  | unsent => exact ⟨.inr ⟨_, rfl⟩, nofun⟩
  | silence encoded =>
    cases sealing.symm.trans encoded
    exact ⟨.inl rfl, nofun⟩
  | failure => exact ⟨.inr ⟨_, rfl⟩, nofun⟩
  | undecoded encoded _ _ refused =>
    cases sealing.symm.trans encoded
    refine ⟨.inl rfl, fun size limit complaint => ?_⟩
    cases complaint
    rcases Response.malformed_or_unexpected_of_decode refused with ⟨_, same⟩ | ⟨_, same⟩
    · cases same
    · cases same
  | rejected encoded =>
    cases sealing.symm.trans encoded
    exact ⟨.inl rfl, nofun⟩
  | answered encoded =>
    cases sealing.symm.trans encoded
    exact ⟨.inl rfl, nofun⟩

/-- **A client can always ask for a shutdown.**  Whatever a client has asked for so far, whatever
has reached its socket and whoever has sent it: a shutdown that it asks for next is sent with the
session that it holds, unless the socket fails, and it never fails for a size, whatever lies in the
queue, however much of it is noticed, and whatever comes for a response.

The bound behind this is exact: the sessions that a client can come to hold are those of no more
than 61419 octets. -/
theorem shutdown_has_room (server : Address) (patience : Duration) :
    (∀ (left : List Delivery) (occasions : List Occasion) (noticed : Nat) (queue : List Arrival)
      (network : Octets → Except IoError (Wait Arrival)),
      let c := (ofServer server patience).after left occasions
      let exchange := c.request .ofShutdown noticed queue network
      (exchange.sent = some (Request.shutdown ⟨.shutdown, c.session⟩).written ∨
        ∃ cause, exchange.result = .error (.socket cause)) ∧
      ∀ size limit, exchange.result ≠ .error (.wire (.tooLarge size limit))) ∧
    ∀ id : SessionId,
      (∃ left occasions, ((ofServer server patience).after left occasions).session = id) ↔
        id.text.utf8ByteSize ≤ 61419 := by
  have absent : (ofServer server patience).session.text.utf8ByteSize ≤ 61419 := by
    change "".utf8ByteSize ≤ 61419
    decide
  constructor
  · intro left occasions noticed queue network
    have short := size_session_after_le absent left occasions
    exact request_shutdown _ (by omega) noticed queue network
  · intro id
    constructor
    · rintro ⟨left, occasions, rfl⟩
      exact size_session_after_le absent left occasions
    · intro short
      exact ⟨[], [acknowledgedAs id], session_after_acknowledgedAs _ (by omega) short⟩

end Client

end DatagramSession
