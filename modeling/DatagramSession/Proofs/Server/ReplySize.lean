import DatagramSession.Proofs.Wire.Request
import DatagramSession.Server.Basic
import Mathlib.Data.String.Basic

/-!
# The size of a reply

A welcome repeats the account of its login, and a refusal repeats the session of its shutdown, so
the reply to a request that fits into a datagram may be larger than a datagram can be.  The writer
skips such a reply.

* `Request.replySize`: the size of the reply to a request, field by field.
* `sends_reply_exactly_within_limit`: every request that is decoded is settled, and the writer sends
  the reply if its size is within the limit and skips it otherwise.
-/

namespace DatagramSession

open Wire

/-! ## Sizes -/

/-- A text of characters of one octet each. -/
theorem utf8ByteSize_ofList_of_ascii {chars : List Char} (ascii : ∀ c ∈ chars, c.utf8Size = 1) :
    (String.ofList chars).utf8ByteSize = chars.length := by
  rw [String.utf8ByteSize_ofList]
  induction chars with
  | nil => rfl
  | cons c rest ih =>
    obtain ⟨first, others⟩ := List.forall_mem_cons.1 ascii
    rw [String.utf8Len_cons, ih others, first, List.length_cons]

theorem utf8ByteSize_replicate (n : Nat) {c : Char} (ascii : c.utf8Size = 1) :
    (String.ofList (List.replicate n c)).utf8ByteSize = n := by
  have same : ∀ d ∈ List.replicate n c, d.utf8Size = 1 := by
    intro d member
    rw [List.eq_of_mem_replicate member, ascii]
  rw [utf8ByteSize_ofList_of_ascii same, List.length_replicate]

theorem SessionId.utf8Size_hexDigit (n : Nat) : (hexDigit n).utf8Size = 1 := by
  have ascii : ∀ place < 16, (hexDigits.getD place '0').utf8Size = 1 := by decide
  exact ascii (n % 16) (Nat.mod_lt n (by decide))

/-- Every random id has 36 octets. -/
theorem SessionId.utf8ByteSize_random (seed : Nat) : (random seed).text.utf8ByteSize = 36 := by
  have ascii : ∀ c ∈ (List.range 36).map (randomChar seed), c.utf8Size = 1 := by
    intro c member
    obtain ⟨place, _, rfl⟩ := List.mem_map.1 member
    unfold randomChar
    split
    · decide
    split
    · decide
    split
    · exact utf8Size_hexDigit _
    · exact utf8Size_hexDigit _
  rw [random, utf8ByteSize_ofList_of_ascii ascii, List.length_map, List.length_range]

theorem ResponseHeader.length_written (h : ResponseHeader) :
    h.written.length = 21 + h.session.text.utf8ByteSize + h.error.utf8ByteSize := by
  rw [written]
  simp only [List.length_append, length_action, length_text, length_flag, length_utf8]
  omega

theorem Request.length_written_login (header : RequestHeader) (account password : String) :
    (login header account password).written.length =
      28 + header.session.text.utf8ByteSize + account.utf8ByteSize + password.utf8ByteSize := by
  simp only [written, RequestHeader.written, List.length_append, length_action, length_text,
    length_utf8]
  omega

theorem Request.length_written_shutdown (header : RequestHeader) :
    (shutdown header).written.length = 12 + header.session.text.utf8ByteSize := by
  simp only [written, RequestHeader.written, List.length_append, length_action, length_text,
    length_utf8]
  omega

theorem Request.length_written_ofCredentials (account password : String) :
    (ofCredentials account password).written.length =
      28 + account.utf8ByteSize + password.utf8ByteSize := by
  have absent : SessionId.absent.text.utf8ByteSize = 0 := rfl
  rw [ofCredentials, length_written_login, absent]

theorem Errand.utf8ByteSize_welcome (account : String) :
    (welcome account).utf8ByteSize = 8 + account.utf8ByteSize := by
  have greeting : "Welcome ".utf8ByteSize = 8 := by decide
  rw [welcome, String.utf8ByteSize_append, greeting]

/-- The size of the reply to a request, for ids of 36 octets: a welcome to a login, an
acknowledgement of a shutdown whose session the table has, and a refusal of any other. -/
def Request.replySize (table : Table) : Request → Nat
  | .login _ account _ => 73 + account.utf8ByteSize
  | .shutdown header =>
    if table.has header.session then 57 else 39 + header.session.text.utf8ByteSize

/-- A request whose body belongs to its action is settled. -/
theorem Errand.exists_settle_eq_ok {r : Request} (body : r.bodyAction = r.action)
    (sender : Address) (draw : Draw) (table : Table) :
    ∃ settled, (ofRequest sender r).settle draw table = .ok settled :=
  exists_settle_eq_ok_iff.2 body

theorem Errand.length_written_of_settle {sender : Address} {r : Request} {draw : Draw}
    {table : Table} {settled : Settlement} (generated : ∀ id ∈ table.ids, id.text.utf8ByteSize = 36)
    (fresh : draw.fresh.text.utf8ByteSize = 36)
    (settling : (ofRequest sender r).settle draw table = .ok settled) :
    settled.verdict.response.written.length = r.replySize table := by
  rcases settle_eq_ok_iff.1 settling with
    ⟨header, account, password, _, request, rfl⟩ | ⟨header, _, request, rfl⟩
  · obtain rfl : r = .login header account password := request
    change ((ResponseHeader.ok .login draw.fresh).written ++ text (welcome account)).length = _
    rw [List.length_append, ResponseHeader.length_written, length_text, length_utf8,
      utf8ByteSize_welcome]
    simp only [ResponseHeader.ok, fresh, String.utf8ByteSize_empty, Request.replySize]
    omega
  · obtain rfl : r = .shutdown header := request
    cases known : table.has header.session with
    | true =>
      have session := generated _ (Table.has_iff_mem_ids.1 known)
      rw [verdict_shutDown_of_has _ known]
      change (ResponseHeader.ok .shutdown header.session).written.length = _
      rw [ResponseHeader.length_written, Request.replySize, if_pos known]
      simp only [ResponseHeader.ok, session, String.utf8ByteSize_empty]
    | false =>
      have unknown : ¬ table.has header.session = true := by
        rw [known]
        decide
      have reason : invalidSession.utf8ByteSize = 18 := by decide
      rw [verdict_shutDown_of_not_has _ known]
      change (ResponseHeader.failed .shutdown header.session invalidSession).written.length = _
      rw [ResponseHeader.length_written, Request.replySize, if_neg unknown]
      simp only [ResponseHeader.failed, reason]
      omega

/-- The reply to a request is encoded if its size is within the limit. -/
theorem Errand.encode_of_settle {sender : Address} {r : Request} {draw : Draw} {table : Table}
    {settled : Settlement} (generated : ∀ id ∈ table.ids, id.text.utf8ByteSize = 36)
    (fresh : draw.fresh.text.utf8ByteSize = 36)
    (settling : (ofRequest sender r).settle draw table = .ok settled) :
    settled.verdict.response.encode =
      if r.replySize table ≤ 61440 then .ok settled.verdict.response.written
      else .error (.tooLarge (r.replySize table) 61440) := by
  rw [← length_written_of_settle generated fresh settling]
  exact sealed_eq settled.verdict.response.written

/-! ## The writer -/

namespace Server

/-- Whenever the reply is the next of a ready writer, the writer takes it and writes it. -/
def Sends (reply : Reply) : Prop :=
  ∀ (s : Server) (outbox : Outbox), s.writing = .ready →
    s.desk.outbox.take? = some (reply, outbox) →
    s.run [.take, .write] = some { s with
      desk := { s.desk with outbox := outbox }
      written := s.written ++ [⟨reply.recipient, reply.response.written⟩]
      lifecycle := if reply.closes then s.lifecycle.stopped else s.lifecycle }

/-- Whenever the reply is the next of a ready writer, the writer takes it and is ready again. -/
def Skips (reply : Reply) : Prop :=
  ∀ (s : Server) (outbox : Outbox), s.writing = .ready →
    s.desk.outbox.take? = some (reply, outbox) →
    s.step .take = some { s with desk := { s.desk with outbox := outbox } }

theorem sends_of_encode {reply : Reply}
    (encoded : reply.response.encode = .ok reply.response.written) : Sends reply := by
  intro s outbox ready taken
  have take : s.step .take = some { s with
      writing := .busy ⟨reply.recipient, reply.response.written⟩ reply.closes
      desk := { s.desk with outbox := outbox } } := by
    simp only [step, Server.take, ready, taken, encoded]
  rw [run, take, Option.bind_some, run, step, write, Option.bind_some, run, ready]

theorem skips_of_encode {reply : Reply} {failure : Wire.Failure}
    (refused : reply.response.encode = .error failure) : Skips reply := by
  intro s outbox ready taken
  simp only [step, Server.take, ready, taken, refused]

/-- A login stores its fresh id, if that is not the absent one. -/
theorem mem_ids_logIn {e : Errand} {account : String} {draw : Draw} {table : Table}
    (fresh : draw.fresh.text.utf8ByteSize = 36) :
    draw.fresh ∈ (e.logIn account draw table).table.ids := by
  have present : ¬ draw.fresh.isAbsent = true := by
    rw [SessionId.isAbsent, String.isEmpty_iff_utf8ByteSize_eq_zero, fresh]
    decide
  exact Table.mem_ids_save.2 (.inr ⟨rfl, present⟩)

/-- **Which requests are answered.**  Every request that is decoded from a datagram is settled, a
login with its fresh id in the table.  When the ids are all of 36 octets, the reply has the size
that is told from the request: if that is within the limit, it is encoded and sent, and otherwise it
is refused for its size and skipped. -/
theorem sends_reply_exactly_within_limit {contents : Octets} {r : Request} (sender : Address)
    (draw : Draw) (table : Table) (decoded : Request.decode contents = .ok r)
    (generated : ∀ id ∈ table.ids, id.text.utf8ByteSize = 36)
    (fresh : draw.fresh.text.utf8ByteSize = 36) :
    ∃ settled, (Errand.ofRequest sender r).settle draw table = .ok settled ∧
      (r.action = .login → draw.fresh ∈ settled.table.ids) ∧
      settled.verdict.response.written.length = r.replySize table ∧
      (r.replySize table ≤ 61440 →
        settled.verdict.response.encode = .ok settled.verdict.response.written ∧
        Sends (.ofVerdict sender settled.verdict)) ∧
      (61440 < r.replySize table →
        settled.verdict.response.encode = .error (.tooLarge (r.replySize table) 61440) ∧
        Skips (.ofVerdict sender settled.verdict)) := by
  obtain ⟨_, body, _⟩ := Request.decode_eq_ok_iff.1 decoded
  obtain ⟨settled, settling⟩ := Errand.exists_settle_eq_ok body sender draw table
  have encode := Errand.encode_of_settle generated fresh settling
  refine ⟨settled, settling, fun login => ?_,
    Errand.length_written_of_settle generated fresh settling, fun fits => ?_, fun exceeds => ?_⟩
  · rcases Errand.settle_eq_ok_iff.1 settling with
      ⟨header, account, password, _, _, rfl⟩ | ⟨header, shutdown, _, _⟩
    · exact mem_ids_logIn fresh
    · rw [Errand.action_ofRequest, login] at shutdown
      cases shutdown
  · rw [if_pos fits] at encode
    exact ⟨encode, sends_of_encode encode⟩
  · rw [if_neg (Nat.not_le.2 exceeds)] at encode
    exact ⟨encode, skips_of_encode encode⟩

theorem sends_reply_to_alice :
    let r : Request := .ofCredentials "alice" "pw"
    let table : Table := (Table.empty.save (.random 7) 1).2
    Request.decode r.written = .ok r ∧ (∀ id ∈ table.ids, id.text.utf8ByteSize = 36) ∧
    r.replySize table = 78 ∧
    ∃ settled, (Errand.ofRequest (.loopback 9000) r).settle ⟨.random 0, 2⟩ table = .ok settled ∧
      .random 0 ∈ settled.table.ids ∧
      settled.verdict.response.encode = .ok settled.verdict.response.written ∧
      Sends (.ofVerdict (.loopback 9000) settled.verdict) := by
  intro r table
  have countable : r.IsCountable := by
    refine ⟨?_, ?_, ?_⟩ <;> decide
  have decoded : Request.decode r.written = .ok r := Request.decode_written countable rfl
  have generated : ∀ id ∈ table.ids, id.text.utf8ByteSize = 36 := by
    intro id member
    rcases Table.mem_ids_save.1 member with old | ⟨rfl, _⟩
    · cases old
    · exact SessionId.utf8ByteSize_random 7
  have size : r.replySize table = 78 := by decide
  obtain ⟨settled, settling, stored, _, fits, _⟩ := sends_reply_exactly_within_limit
    (.loopback 9000) ⟨.random 0, 2⟩ table decoded generated (SessionId.utf8ByteSize_random 0)
  obtain ⟨encoded, sends⟩ := fits (by rw [size]; decide)
  exact ⟨decoded, generated, size, settled, settling, stored rfl, encoded, sends⟩

/-- The shortest account whose welcome exceeds the limit. -/
def overlongAccount : String := String.ofList (List.replicate 61368 'a')

def overlongLogin : Request := .ofCredentials overlongAccount ""

/-- A login whose account has more than 61367 octets is served, and the writer skips its welcome. -/
theorem skips_welcome_of_long_account {account : String} (long : 61367 < account.utf8ByteSize)
    (sender : Address) (draw : Draw) (fresh : draw.fresh.text.utf8ByteSize = 36) :
    ∃ settled,
      (Errand.ofRequest sender (.ofCredentials account "")).settle draw .empty = .ok settled ∧
      draw.fresh ∈ settled.table.ids ∧
      settled.verdict.response.encode = .error (.tooLarge (73 + account.utf8ByteSize) 61440) ∧
      Skips (.ofVerdict sender settled.verdict) := by
  have settling := Errand.settle_login (e := .ofRequest sender (.ofCredentials account "")) rfl rfl
    draw .empty
  have noIds : ∀ id ∈ Table.empty.ids, id.text.utf8ByteSize = 36 := by
    intro id member
    cases member
  have encode := Errand.encode_of_settle noIds fresh settling
  have exceeds : ¬ 73 + account.utf8ByteSize ≤ 61440 := by omega
  have size : (Request.ofCredentials account "").replySize .empty = 73 + account.utf8ByteSize := rfl
  rw [size, if_neg exceeds] at encode
  exact ⟨_, settling, mem_ids_logIn fresh, encode, skips_of_encode encode⟩

/-- Not every request within the limit is answered: this login of 61396 octets is decoded and
served, its id is stored, and the welcome is one octet above the limit. -/
theorem skips_reply_to_overlongLogin :
    overlongLogin.written.length = 61396 ∧
    Request.decode overlongLogin.written = .ok overlongLogin ∧
    (SessionId.random 0).text.utf8ByteSize = 36 ∧
    ∃ settled,
      (Errand.ofRequest (.loopback 9000) overlongLogin).settle ⟨.random 0, 1⟩ .empty = .ok settled ∧
      .random 0 ∈ settled.table.ids ∧
      settled.verdict.response.encode = .error (.tooLarge 61441 61440) ∧
      Skips (.ofVerdict (.loopback 9000) settled.verdict) := by
  have size : overlongAccount.utf8ByteSize = 61368 := utf8ByteSize_replicate 61368 (by decide)
  have countable : overlongLogin.IsCountable := by
    refine ⟨by decide, ?_, by decide⟩
    rw [IsCountable, size]
    decide
  have fresh := SessionId.utf8ByteSize_random 0
  have long : 61367 < overlongAccount.utf8ByteSize := by omega
  have skipped := skips_welcome_of_long_account long (.loopback 9000) ⟨.random 0, 1⟩ fresh
  rw [size] at skipped
  refine ⟨?_, Request.decode_written countable rfl, fresh, skipped⟩
  rw [overlongLogin, Request.length_written_ofCredentials, size]
  rfl

end Server

end DatagramSession
