import DatagramSession.Proofs.Wire.Layout

/-!
# Responses on the wire

A response does not say on the wire which kind it is: its header says for which action it is and
whether that succeeded, and the receiver knows what it has asked for.  So decoding answers for the
expected action alone, takes every header that reports a failure for a refusal, and reads a body
only behind a header that reports success.

* `Response.decode_eq_ok_iff`: the octets that are decoded to a response.
* `Response.header_eq_of_decode`: a response that is decoded from octets has the header of whatever
  response is written at their front.
-/

namespace DatagramSession

open Wire

/-- What a response to an action can be: a reported failure is a refusal, and a success is that of
the action. -/
def Response.IsOutcomeOf (a : Action) : Response → Prop
  | .login header _ => header.isOk = true ∧ a = .login
  | .shutdown header => header.isOk = true ∧ a = .shutdown
  | .refusal header => header.isOk = false

/-- The action that a response has the body of; a refusal has none. -/
def Response.bodyAction? : Response → Option Action
  | .login .. => some .login
  | .shutdown _ => some .shutdown
  | .refusal _ => none

theorem Response.isOutcomeOf_of_isOk {x : Response} {a : Action} (success : x.isOk = true) :
    x.IsOutcomeOf a ↔ x.bodyAction? = some a := by
  cases x with
  | login header welcome =>
    rw [IsOutcomeOf, bodyAction?, Option.some.injEq]
    exact ⟨fun outcome => outcome.2.symm, fun same => ⟨success, same.symm⟩⟩
  | shutdown header =>
    rw [IsOutcomeOf, bodyAction?, Option.some.injEq]
    exact ⟨fun outcome => outcome.2.symm, fun same => ⟨success, same.symm⟩⟩
  | refusal header =>
    have failure : ¬ header.isOk = false := by
      rw [show header.isOk = true from success]
      decide
    exact ⟨fun outcome => absurd outcome failure, fun none => (by cases none)⟩

/-! ## What the readers of a response accept -/

theorem Wire.Reader.responseHeader_eq_ok_iff {h : ResponseHeader} {octets rest : Octets} :
    responseHeader octets = .ok (h, rest) ↔ h.IsCountable ∧ octets = h.written ++ rest := by
  unfold responseHeader
  rw [bind_eq_ok_iff]
  constructor
  · intro read
    obtain ⟨a, afterAction, actionRead, read⟩ := read
    obtain ⟨session, afterSession, sessionRead, read⟩ := bind_eq_ok_iff.1 read
    obtain ⟨isOk, afterFlag, flagRead, read⟩ := bind_eq_ok_iff.1 read
    obtain ⟨error, afterError, errorRead, read⟩ := bind_eq_ok_iff.1 read
    cases read
    obtain ⟨sessionFits, rfl⟩ := text_eq_ok_iff.1 sessionRead
    obtain ⟨errorFits, rfl⟩ := text_eq_ok_iff.1 errorRead
    obtain rfl := flag_eq_ok_iff.1 flagRead
    refine ⟨⟨isCountable_iff.2 sessionFits, isCountable_iff.2 errorFits⟩, ?_⟩
    rw [action_eq_ok_iff.1 actionRead]
    simp only [ResponseHeader.written, List.append_assoc]
  · intro written
    obtain ⟨⟨sessionFits, errorFits⟩, rfl⟩ := written
    refine ⟨h.action, _, action_eq_ok_iff.2 ?_, bind_eq_ok_iff.2 ⟨h.session.text, _,
      text_eq_ok_iff.2 ⟨isCountable_iff.1 sessionFits, rfl⟩, bind_eq_ok_iff.2 ⟨h.isOk, _,
      flag_eq_ok_iff.2 rfl, bind_eq_ok_iff.2 ⟨h.error, rest,
      text_eq_ok_iff.2 ⟨isCountable_iff.1 errorFits, rfl⟩, rfl⟩⟩⟩⟩
    simp only [ResponseHeader.written, List.append_assoc]

/-- The response to an action, with its body, is read exactly from its written form. -/
theorem Wire.Reader.response_eq_ok_iff {a : Action} {x : Response} {octets rest : Octets} :
    response a octets = .ok (x, rest) ↔
      x.bodyAction? = some a ∧ x.IsCountable ∧ octets = x.written ++ rest := by
  cases a with
  | login =>
    rw [response, bind_eq_ok_iff]
    constructor
    · intro read
      obtain ⟨header, afterHeader, headerRead, read⟩ := read
      obtain ⟨welcome, afterWelcome, welcomeRead, read⟩ := bind_eq_ok_iff.1 read
      cases read
      obtain ⟨headerFits, rfl⟩ := responseHeader_eq_ok_iff.1 headerRead
      obtain ⟨welcomeFits, rfl⟩ := text_eq_ok_iff.1 welcomeRead
      refine ⟨rfl, ⟨headerFits, isCountable_iff.2 welcomeFits⟩, ?_⟩
      simp only [Response.written, List.append_assoc]
    · intro written
      obtain ⟨body, countable, rfl⟩ := written
      cases x with
      | shutdown header => cases body
      | refusal header => cases body
      | login header welcome =>
        obtain ⟨headerFits, welcomeFits⟩ := countable
        refine ⟨header, Wire.text welcome ++ rest,
          responseHeader_eq_ok_iff.2 ⟨headerFits, ?_⟩, bind_eq_ok_iff.2 ⟨welcome, _,
          text_eq_ok_iff.2 ⟨isCountable_iff.1 welcomeFits, rfl⟩, rfl⟩⟩
        simp only [Response.written, List.append_assoc]
  | shutdown =>
    rw [response, bind_eq_ok_iff]
    constructor
    · intro read
      obtain ⟨header, afterHeader, headerRead, read⟩ := read
      cases read
      obtain ⟨headerFits, rfl⟩ := responseHeader_eq_ok_iff.1 headerRead
      exact ⟨rfl, headerFits, rfl⟩
    · intro written
      obtain ⟨body, countable, rfl⟩ := written
      cases x with
      | login header welcome => cases body
      | refusal header => cases body
      | shutdown header =>
        exact ⟨header, rest, responseHeader_eq_ok_iff.2 ⟨countable, rfl⟩, rfl⟩

/-! ## Decoding -/

/-- A written response begins with its header. -/
theorem Response.written_eq_header_append (x : Response) :
    ∃ body, x.written = x.header.written ++ body := by
  cases x with
  | login header welcome => exact ⟨_, rfl⟩
  | shutdown header => exact ⟨[], (List.append_nil _).symm⟩
  | refusal header => exact ⟨[], (List.append_nil _).symm⟩

theorem Response.IsCountable.header {x : Response} (countable : x.IsCountable) :
    x.header.IsCountable := by
  cases x with
  | login header welcome => exact countable.1
  | shutdown header => exact countable
  | refusal header => exact countable

theorem ResponseHeader.decode_eq_ok_iff {octets : Octets} {h : ResponseHeader} :
    ResponseHeader.decode octets = .ok h ↔ h.IsCountable ∧ h.written <+: octets := by
  rw [ResponseHeader.decode, Reader.front_eq_ok_iff]
  constructor
  · intro read
    obtain ⟨rest, read⟩ := read
    obtain ⟨countable, split⟩ := Reader.responseHeader_eq_ok_iff.1 read
    exact ⟨countable, rest, split.symm⟩
  · intro written
    obtain ⟨countable, rest, split⟩ := written
    exact ⟨rest, Reader.responseHeader_eq_ok_iff.2 ⟨countable, split.symm⟩⟩

/-- Octets that begin with a written response have its header. -/
theorem Response.decode_header {octets : Octets} {x : Response} (countable : x.IsCountable)
    (isPrefix : x.written <+: octets) : ResponseHeader.decode octets = .ok x.header := by
  obtain ⟨body, split⟩ := x.written_eq_header_append
  refine ResponseHeader.decode_eq_ok_iff.2 ⟨countable.header, ?_⟩
  rw [split] at isPrefix
  exact (List.prefix_append _ _).trans isPrefix

/-- What decoding makes of octets whose header has been read. -/
theorem Response.decode_of_header {octets : Octets} {h : ResponseHeader} (a : Action)
    (read : ResponseHeader.decode octets = .ok h) :
    Response.decode a octets =
      if h.action ≠ a then .error (.unexpectedAction a h.action)
      else if !h.isOk then .ok (.refusal h)
      else (Reader.response h.action).front octets := by
  rw [Response.decode, read]
  rfl

/-- What is decoded is an outcome of the action that is written at the front. -/
theorem Response.written_of_decode {octets : Octets} {a : Action} {x : Response}
    (decoded : Response.decode a octets = .ok x) :
    x.IsCountable ∧ x.action = a ∧ x.written <+: octets ∧ x.IsOutcomeOf a := by
  cases read : ResponseHeader.decode octets with
  | error failure =>
    rw [Response.decode, read] at decoded
    cases decoded
  | ok h =>
    rw [decode_of_header a read] at decoded
    obtain ⟨headerFits, headerFirst⟩ := ResponseHeader.decode_eq_ok_iff.1 read
    split at decoded
    · cases decoded
    next expected =>
    have action : h.action = a := Decidable.not_not.1 expected
    split at decoded
    · next failure =>
      cases decoded
      have failed : h.isOk = false := by simpa using failure
      exact ⟨headerFits, action, headerFirst, failed⟩
    next success =>
    obtain ⟨rest, bodyRead⟩ := Reader.front_eq_ok_iff.1 decoded
    obtain ⟨body, countable, split⟩ := Reader.response_eq_ok_iff.1 bodyRead
    have isPrefix : x.written <+: octets := ⟨rest, split.symm⟩
    -- both passes have read one header
    have same : x.header = h := Except.ok.inj ((decode_header countable isPrefix).symm.trans read)
    have isOk : x.isOk = true := by
      rw [Response.isOk, same]
      simpa using success
    rw [action] at body
    refine ⟨countable, ?_, isPrefix, (isOutcomeOf_of_isOk isOk).2 body⟩
    rw [Response.action, same, action]

/-- Each outcome of an action is decoded where it is written at the front. -/
theorem Response.decode_of_prefix {octets : Octets} {a : Action} {x : Response}
    (countable : x.IsCountable) (action : x.action = a) (isPrefix : x.written <+: octets)
    (outcome : x.IsOutcomeOf a) : Response.decode a octets = .ok x := by
  have expected : ¬ x.header.action ≠ a := not_not_intro action
  rw [decode_of_header a (decode_header countable isPrefix), if_neg expected]
  cases success : x.isOk with
  | false =>
    -- of the outcomes, only a refusal reports a failure
    cases x with
    | login header welcome => exact absurd (outcome.1.symm.trans success) (by decide)
    | shutdown header => exact absurd (outcome.1.symm.trans success) (by decide)
    | refusal header =>
      have failed : header.isOk = false := success
      rw [Response.header, failed]
      rfl
  | true =>
    have reported : ¬ (!x.header.isOk) = true := by
      rw [show x.header.isOk = true from success]
      decide
    have body : x.bodyAction? = some x.header.action := by
      rw [(isOutcomeOf_of_isOk success).1 outcome]
      exact congrArg some action.symm
    obtain ⟨rest, split⟩ := isPrefix
    rw [if_neg reported]
    exact Reader.front_eq_ok_iff.2
      ⟨rest, Reader.response_eq_ok_iff.2 ⟨body, countable, split.symm⟩⟩

/-- Decoding for an action accepts the written form of each outcome of the action, with anything
behind it. -/
theorem Response.decode_eq_ok_iff {octets : Octets} {a : Action} {x : Response} :
    Response.decode a octets = .ok x ↔
      x.IsCountable ∧ x.action = a ∧ x.written <+: octets ∧ x.IsOutcomeOf a :=
  ⟨written_of_decode, fun ⟨countable, action, isPrefix, outcome⟩ =>
    decode_of_prefix countable action isPrefix outcome⟩

/-- A response that is decoded from octets has the header of the response that is written at their
front, even where the two are of different kinds. -/
theorem Response.header_eq_of_decode {octets : Octets} {a : Action} {x y : Response}
    (decoded : Response.decode a octets = .ok x) (countable : y.IsCountable)
    (isPrefix : y.written <+: octets) : x.header = y.header := by
  obtain ⟨fits, _, front, _⟩ := Response.decode_eq_ok_iff.1 decoded
  exact Except.ok.inj ((decode_header fits front).symm.trans (decode_header countable isPrefix))

/-- A response that is within the limit has short texts. -/
theorem Response.isCountable_of_encode {x : Response} {octets : Octets}
    (encoded : x.encode = .ok octets) : x.IsCountable ∧ x.written = octets ∧
      octets.length ≤ Wire.limit := by
  rw [Response.encode, Wire.sealed_eq] at encoded
  split at encoded
  · next fits =>
    cases encoded
    refine ⟨?_, rfl, fits⟩
    have texts : ∀ h : ResponseHeader, h.written.length ≤ 61440 → h.IsCountable := by
      intro h short
      simp only [ResponseHeader.written, List.length_append, length_text, length_utf8] at short
      exact ⟨isCountable_of_le (by omega), isCountable_of_le (by omega)⟩
    cases x with
    | login header welcome =>
      simp only [Response.written, List.length_append, length_text, length_utf8] at fits
      exact ⟨texts header (by omega), isCountable_of_le (by omega)⟩
    | shutdown header => exact texts header fits
    | refusal header => exact texts header fits
  · cases encoded

/-- **The wire format of responses.**  Octets are decoded, for an expected action, to a response
exactly if they begin with its layout, its header names the action, and it is a refusal that reports
a failure or the action's own success; and every response is encoded as its layout, unless that
exceeds the limit. -/
theorem Response.decode_iff_outcome_and_layout (octets : Octets) (a : Action) (x : Response) :
    (Response.decode a octets = .ok x ↔
      x.IsCountable ∧ x.action = a ∧ x.layout <+: octets ∧ x.IsOutcomeOf a) ∧
    x.encode =
      if x.layout.length ≤ 61440 then .ok x.layout
      else .error (.tooLarge x.layout.length 61440) := by
  rw [← x.written_eq_layout]
  exact ⟨Response.decode_eq_ok_iff, Wire.sealed_eq x.written⟩

/-- A refusal and an acknowledgement look alike but for the flag and the error. -/
example : (Response.refusal (.failed .shutdown ⟨"s"⟩ "no")).encode =
    .ok [1, 0, 0, 0, 1, 0, 0, 0, 0, 0, 0, 0, 0x73, 0, 2, 0, 0, 0, 0, 0, 0, 0, 0x6E, 0x6F] := by
  rfl

end DatagramSession
