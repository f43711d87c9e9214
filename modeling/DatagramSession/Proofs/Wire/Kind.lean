import DatagramSession.Proofs.Wire.OnePass

/-!
# The kind of an envelope

An envelope does not say on the wire of which kind it is: there is its header, and then whatever
body it has.  The receiver reads the body that the header calls for.  So an envelope whose body does
not belong to its header is sent as it is and arrives as another one, or as none.

* `Request.received`, `Response.received`: what an envelope is taken for.
* `Request.eq_of_written_eq`, `Response.eq_or_of_written_eq`: which envelopes look alike.
* `decode_encoded_eq_received`: both together, for everything that can be encoded.
-/

namespace DatagramSession

open Wire

/-! ## Requests -/

/-- What a request is taken for: the action of its header says which body is looked for. -/
def Request.received : Request → Except Failure Request
  | .login header account password =>
    match header.action with
    | .login => .ok (.login header account password)
    | .shutdown => .ok (.shutdown header)
  | .shutdown header =>
    match header.action with
    | .login => .error (.malformed .endOfInput)
    | .shutdown => .ok (.shutdown header)

/-- A request is taken for itself exactly if its body belongs to its action. -/
theorem Request.received_eq_ok_iff {r : Request} :
    r.received = .ok r ↔ r.bodyAction = r.action := by
  obtain ⟨⟨action, session⟩, account, password⟩ | ⟨⟨action, session⟩⟩ := r
  · cases action with
    | login => exact iff_of_true rfl rfl
    | shutdown => exact iff_of_false nofun nofun
  · cases action with
    | login => exact iff_of_false nofun nofun
    | shutdown => exact iff_of_true rfl rfl

/-- Behind a header alone there is no account. -/
theorem Request.front_login_of_header {header : RequestHeader}
    (countable : Wire.IsCountable header.session.text) :
    (Reader.request .login).front header.written = .error (.malformed .endOfInput) := by
  have read : Reader.requestHeader header.written = .ok (header, []) :=
    Reader.requestHeader_eq_ok_iff.2 ⟨countable, (List.append_nil _).symm⟩
  have short : (Reader.request .login).run header.written = .error .endOfInput := by
    change (Reader.request .login) header.written = _
    rw [Reader.request, Reader.bind_run, read]
    rfl
  rw [Reader.front, short]

theorem Request.decode_written_eq_received {r : Request} (countable : r.IsCountable) :
    Request.decode r.written = r.received := by
  have read := Request.decode_header countable List.prefix_rfl
  cases action : r.action with
  | shutdown =>
    rw [Request.decode_eq_shutdown read action]
    cases r with
    | login header account password =>
      have named : header.action = .shutdown := action
      rw [received, named]
      rfl
    | shutdown header =>
      have named : header.action = .shutdown := action
      rw [received, named]
      rfl
  | login =>
    cases r with
    | login header account password =>
      have named : header.action = .login := action
      rw [received, named]
      exact Request.decode_written countable named.symm
    | shutdown header =>
      have named : header.action = .login := action
      rw [received, named, Request.decode, read]
      change (Reader.request header.action).front header.written = _
      rw [named]
      exact Request.front_login_of_header countable

theorem Request.length_written_shutdown_lt (header : RequestHeader) (account password : String) :
    (shutdown header).written.length < (login header account password).written.length := by
  simp only [written, List.length_append, length_text]
  omega

/-- Requests that look alike are the same. -/
theorem Request.eq_of_written_eq {r r' : Request} (countable : r.IsCountable)
    (countable' : r'.IsCountable) (same : r.written = r'.written) : r = r' := by
  have read := Request.decode_header countable List.prefix_rfl
  have read' := Request.decode_header countable' List.prefix_rfl
  rw [← same] at read'
  have header : r.header = r'.header := Except.ok.inj (read.symm.trans read')
  -- a login is longer than its header, so the bodies are of one kind
  have body : r.bodyAction = r'.bodyAction := by
    have length := congrArg List.length same
    cases r with
    | login h account password =>
      cases r' with
      | login h' account' password' => rfl
      | shutdown h' =>
        obtain rfl : h = h' := header
        exact absurd length (Nat.ne_of_gt (length_written_shutdown_lt h account password))
    | shutdown h =>
      cases r' with
      | login h' account' password' =>
        obtain rfl : h = h' := header
        exact absurd length (Nat.ne_of_lt (length_written_shutdown_lt h account' password'))
      | shutdown h' => rfl
  have whole : Reader.request r.bodyAction r.written = .ok (r, []) :=
    Reader.request_eq_ok_iff.2 ⟨rfl, countable, (List.append_nil _).symm⟩
  have whole' : Reader.request r.bodyAction r.written = .ok (r', []) :=
    Reader.request_eq_ok_iff.2 ⟨body.symm, countable', same ▸ (List.append_nil _).symm⟩
  exact congrArg Prod.fst (Except.ok.inj (whole.symm.trans whole'))

/-! ## Responses -/

/-- What a response is taken for by the sender of a request of an action. -/
def Response.received (a : Action) (x : Response) : Except Failure Response :=
  if x.action ≠ a then .error (.unexpectedAction a x.action)
  else if x.isOk = false then .ok (.refusal x.header)
  else
    match a, x with
    | .shutdown, x => .ok (.shutdown x.header)
    | .login, .login header welcome => .ok (.login header welcome)
    | .login, _ => .error (.malformed .endOfInput)

/-- Behind a header alone there is no welcome. -/
theorem Response.decode_login_of_header {header : ResponseHeader} (countable : header.IsCountable)
    (action : header.action = .login) (success : header.isOk = true) :
    Response.decode .login header.written = .error (.malformed .endOfInput) := by
  have decoded : ResponseHeader.decode header.written = .ok header :=
    ResponseHeader.decode_eq_ok_iff.2 ⟨countable, List.prefix_rfl⟩
  have read : Reader.responseHeader header.written = .ok (header, []) :=
    Reader.responseHeader_eq_ok_iff.2 ⟨countable, (List.append_nil _).symm⟩
  have short : (Reader.response .login).run header.written = .error .endOfInput := by
    change (Reader.response .login) header.written = _
    rw [Reader.response, Reader.bind_run, read]
    rfl
  rw [Response.decode_of_header .login decoded, if_neg (not_not_intro action), success, action,
    Reader.front, short]
  rfl

theorem Response.decode_written_eq_received {x : Response} (countable : x.IsCountable)
    (a : Action) :
    Response.decode a x.written = x.received a := by
  have read := Response.decode_header countable List.prefix_rfl
  unfold received
  by_cases other : x.action ≠ a
  · rw [Response.decode_of_header a read, if_pos other]
    exact if_pos other
  obtain rfl : x.action = a := Decidable.not_not.1 other
  obtain ⟨refusal, shutdown⟩ := Response.decode_eq_of_header read
  rw [if_neg other]
  by_cases failure : x.isOk = false
  · rw [if_pos failure]
    exact refusal failure
  rw [if_neg failure]
  have success : x.isOk = true := Bool.eq_true_of_not_eq_false failure
  cases action : x.action with
  | shutdown =>
    have decoded := shutdown success action
    rw [show x.header.action = .shutdown from action] at decoded
    exact decoded
  | login =>
    cases x with
    | login header welcome =>
      exact Response.decode_of_prefix countable action List.prefix_rfl ⟨success, rfl⟩
    | shutdown header => exact Response.decode_login_of_header countable action success
    | refusal header => exact Response.decode_login_of_header countable action success

theorem Response.length_written_header_lt (header : ResponseHeader) (welcome : String) :
    header.written.length < (login header welcome).written.length := by
  simp only [written, List.length_append, length_text]
  omega

/-- Responses that look alike are the same, or differ in the kind of a header alone. -/
theorem Response.eq_or_of_written_eq {x y : Response} (countable : x.IsCountable)
    (countable' : y.IsCountable) (same : x.written = y.written) :
    y = x ∨ ∃ header, (x = .shutdown header ∧ y = .refusal header) ∨
      (x = .refusal header ∧ y = .shutdown header) := by
  have read := Response.decode_header countable List.prefix_rfl
  have read' := Response.decode_header countable' List.prefix_rfl
  rw [← same] at read'
  have header : x.header = y.header := Except.ok.inj (read.symm.trans read')
  have length := congrArg List.length same
  cases x with
  | login h welcome =>
    cases y with
    | login h' welcome' =>
      have whole : Reader.response .login (login h welcome).written = .ok (.login h welcome, []) :=
        Reader.response_eq_ok_iff.2 ⟨rfl, countable, (List.append_nil _).symm⟩
      have whole' : Reader.response .login (login h welcome).written =
          .ok (.login h' welcome', []) :=
        Reader.response_eq_ok_iff.2 ⟨rfl, countable', same ▸ (List.append_nil _).symm⟩
      exact .inl (congrArg Prod.fst (Except.ok.inj (whole'.symm.trans whole)))
    | shutdown h' | refusal h' =>
      obtain rfl : h = h' := header
      exact absurd length (Nat.ne_of_gt (length_written_header_lt h welcome))
  | shutdown h =>
    cases y with
    | login h' welcome =>
      obtain rfl : h = h' := header
      exact absurd length (Nat.ne_of_lt (length_written_header_lt h welcome))
    | shutdown h' => exact .inl (congrArg shutdown header.symm)
    | refusal h' => exact .inr ⟨h, .inl ⟨rfl, congrArg refusal header.symm⟩⟩
  | refusal h =>
    cases y with
    | login h' welcome =>
      obtain rfl : h = h' := header
      exact absurd length (Nat.ne_of_lt (length_written_header_lt h welcome))
    | shutdown h' => exact .inr ⟨h, .inr ⟨rfl, congrArg shutdown header.symm⟩⟩
    | refusal h' => exact .inl (congrArg refusal header.symm)

/-! ## Everything that can be encoded -/

/-- **What arrives of an envelope.**  Whatever request can be encoded, of any kind and under any
action, is taken for what the action of its header calls for: for itself exactly if its body belongs
to its action.  Whatever response can be encoded is taken, for each expected action, for what its
header calls for.  Requests with one encoding are the same, and so are responses, but for a shutdown
and a refusal with one header. -/
theorem decode_encoded_eq_received (octets : Octets) :
    (∀ r : Request, r.encode = .ok octets →
      Request.decode octets = r.received ∧ (r.received = .ok r ↔ r.bodyAction = r.action) ∧
      ∀ r' : Request, r'.encode = .ok octets ↔ r' = r) ∧
    ∀ x : Response, x.encode = .ok octets →
      (∀ a, Response.decode a octets = x.received a) ∧
      ∀ y : Response, y.encode = .ok octets ↔ y = x ∨
        ∃ header, (x = .shutdown header ∧ y = .refusal header) ∨
          (x = .refusal header ∧ y = .shutdown header) := by
  constructor
  · intro r encoded
    have countable := Request.isCountable_of_encode encoded
    obtain ⟨written, -⟩ := Wire.length_le_of_sealed encoded
    refine ⟨written ▸ Request.decode_written_eq_received countable, Request.received_eq_ok_iff,
      fun r' => ⟨fun encoded' => ?_, fun same => same ▸ encoded⟩⟩
    have countable' := Request.isCountable_of_encode encoded'
    obtain ⟨written', -⟩ := Wire.length_le_of_sealed encoded'
    exact Request.eq_of_written_eq countable' countable (written'.symm.trans written)
  · intro x encoded
    obtain ⟨countable, written, -⟩ := Response.isCountable_of_encode encoded
    refine ⟨fun a => written ▸ Response.decode_written_eq_received countable a,
      fun y => ⟨fun encoded' => ?_, ?_⟩⟩
    · obtain ⟨countable', written', -⟩ := Response.isCountable_of_encode encoded'
      exact Response.eq_or_of_written_eq countable countable' (written.trans written'.symm)
    · rintro (rfl | ⟨header, ⟨rfl, rfl⟩ | ⟨rfl, rfl⟩⟩)
      · exact encoded
      · exact encoded
      · exact encoded

/-- A login under the other action arrives as a shutdown, and the account is not looked at. -/
example :
    Request.decode (Request.login ⟨.shutdown, ⟨"first"⟩⟩ "alice" "pw").written =
      .ok (.shutdown ⟨.shutdown, ⟨"first"⟩⟩) := by
  decide

end DatagramSession
