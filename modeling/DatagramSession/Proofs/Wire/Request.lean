import DatagramSession.Proofs.Wire.Layout

/-!
# Requests on the wire

Decoding a request reads its octets twice: once for the header, and once for the whole request of
the header's action.  Both passes read the same header, so decoding accepts exactly the octets that
begin with the layout of a request whose body belongs to its action.
-/

namespace DatagramSession

open Wire

/-! ## What the readers of a request accept -/

theorem Wire.Reader.requestHeader_eq_ok_iff {h : RequestHeader} {octets rest : Octets} :
    requestHeader octets = .ok (h, rest) ↔
      IsCountable h.session.text ∧ octets = h.written ++ rest := by
  unfold requestHeader
  rw [bind_eq_ok_iff]
  constructor
  · intro read
    obtain ⟨a, afterAction, action, read⟩ := read
    obtain ⟨session, afterSession, text, read⟩ := bind_eq_ok_iff.1 read
    cases read
    obtain ⟨countable, rfl⟩ := text_eq_ok_iff.1 text
    rw [action_eq_ok_iff.1 action]
    exact ⟨isCountable_iff.2 countable, (List.append_assoc _ _ _).symm⟩
  · intro written
    obtain ⟨countable, rfl⟩ := written
    refine ⟨h.action, Wire.text h.session.text ++ rest, action_eq_ok_iff.2 ?_, ?_⟩
    · exact List.append_assoc _ _ _
    · exact bind_eq_ok_iff.2 ⟨h.session.text, rest,
        text_eq_ok_iff.2 ⟨isCountable_iff.1 countable, rfl⟩, rfl⟩

/-- The whole request of an action is read exactly from its written form. -/
theorem Wire.Reader.request_eq_ok_iff {a : Action} {r : Request} {octets rest : Octets} :
    request a octets = .ok (r, rest) ↔
      r.bodyAction = a ∧ r.IsCountable ∧ octets = r.written ++ rest := by
  cases a with
  | login =>
    rw [request, bind_eq_ok_iff]
    constructor
    · intro read
      obtain ⟨header, afterHeader, headerRead, read⟩ := read
      obtain ⟨account, afterAccount, accountRead, read⟩ := bind_eq_ok_iff.1 read
      obtain ⟨password, afterPassword, passwordRead, read⟩ := bind_eq_ok_iff.1 read
      cases read
      obtain ⟨sessionFits, rfl⟩ := requestHeader_eq_ok_iff.1 headerRead
      obtain ⟨accountFits, rfl⟩ := text_eq_ok_iff.1 accountRead
      obtain ⟨passwordFits, rfl⟩ := text_eq_ok_iff.1 passwordRead
      refine ⟨rfl, ⟨sessionFits, isCountable_iff.2 accountFits, isCountable_iff.2 passwordFits⟩, ?_⟩
      simp only [Request.written, List.append_assoc]
    · intro written
      obtain ⟨body, countable, rfl⟩ := written
      cases r with
      | shutdown header => cases body
      | login header account password =>
        obtain ⟨sessionFits, accountFits, passwordFits⟩ := countable
        refine ⟨header, Wire.text account ++ (Wire.text password ++ rest),
          requestHeader_eq_ok_iff.2 ⟨sessionFits, ?_⟩, bind_eq_ok_iff.2 ⟨account, _,
          text_eq_ok_iff.2 ⟨isCountable_iff.1 accountFits, rfl⟩, bind_eq_ok_iff.2 ⟨password, _,
          text_eq_ok_iff.2 ⟨isCountable_iff.1 passwordFits, rfl⟩, rfl⟩⟩⟩
        simp only [Request.written, List.append_assoc]
  | shutdown =>
    rw [request, bind_eq_ok_iff]
    constructor
    · intro read
      obtain ⟨header, afterHeader, headerRead, read⟩ := read
      cases read
      obtain ⟨sessionFits, rfl⟩ := requestHeader_eq_ok_iff.1 headerRead
      exact ⟨rfl, sessionFits, rfl⟩
    · intro written
      obtain ⟨body, countable, rfl⟩ := written
      cases r with
      | login header account password => cases body
      | shutdown header =>
        exact ⟨header, rest, requestHeader_eq_ok_iff.2 ⟨countable, rfl⟩, rfl⟩

/-! ## Decoding -/

/-- A written request begins with its header. -/
theorem Request.written_eq_header_append (r : Request) :
    ∃ body, r.written = r.header.written ++ body := by
  cases r with
  | login header account password => exact ⟨_, List.append_assoc _ _ _⟩
  | shutdown header => exact ⟨[], (List.append_nil _).symm⟩

theorem Request.IsCountable.header {r : Request} (countable : r.IsCountable) :
    Wire.IsCountable r.header.session.text := by
  cases r with
  | login header account password => exact countable.1
  | shutdown header => exact countable

/-- Octets that begin with a written request have its header. -/
theorem Request.decode_header {octets : Octets} {r : Request} (countable : r.IsCountable)
    (isPrefix : r.written <+: octets) : RequestHeader.decode octets = .ok r.header := by
  obtain ⟨rest, rfl⟩ := isPrefix
  obtain ⟨body, split⟩ := r.written_eq_header_append
  rw [split, List.append_assoc]
  exact Reader.front_eq_ok_iff.2
    ⟨body ++ rest, Reader.requestHeader_eq_ok_iff.2 ⟨countable.header, rfl⟩⟩

/-- Decoding accepts the written form of a request whose body belongs to its action, with anything
behind it. -/
theorem Request.decode_eq_ok_iff {octets : Octets} {r : Request} :
    Request.decode octets = .ok r ↔
      r.IsCountable ∧ r.bodyAction = r.action ∧ r.written <+: octets := by
  unfold Request.decode
  constructor
  · intro decoded
    cases header : RequestHeader.decode octets with
    | error failure =>
      rw [header] at decoded
      cases decoded
    | ok h =>
      rw [header] at decoded
      obtain ⟨rest, read⟩ := Reader.front_eq_ok_iff.1 decoded
      obtain ⟨body, countable, split⟩ := Reader.request_eq_ok_iff.1 read
      have isPrefix : r.written <+: octets := ⟨rest, split.symm⟩
      -- both passes have read one header
      have same : r.header = h := Except.ok.inj ((decode_header countable isPrefix).symm.trans header)
      refine ⟨countable, ?_, isPrefix⟩
      rw [body, Request.action, same]
  · intro written
    obtain ⟨countable, body, isPrefix⟩ := written
    rw [decode_header countable isPrefix]
    obtain ⟨rest, split⟩ := isPrefix
    exact Reader.front_eq_ok_iff.2
      ⟨rest, Reader.request_eq_ok_iff.2 ⟨body, countable, split.symm⟩⟩

/-- Reading back what was written. -/
theorem Request.decode_written {r : Request} (countable : r.IsCountable)
    (body : r.bodyAction = r.action) : Request.decode r.written = .ok r :=
  Request.decode_eq_ok_iff.2 ⟨countable, body, List.prefix_rfl⟩

/-- A request that is within the limit has short texts. -/
theorem Request.isCountable_of_encode {r : Request} {octets : Octets}
    (encoded : r.encode = .ok octets) : r.IsCountable := by
  rcases Wire.length_le_of_sealed encoded with ⟨rfl, fits⟩
  cases r with
  | login header account password =>
    simp only [Request.written, RequestHeader.written, List.length_append, length_text,
      length_utf8] at fits
    exact ⟨isCountable_of_le (by omega), isCountable_of_le (by omega),
      isCountable_of_le (by omega)⟩
  | shutdown header =>
    simp only [Request.written, RequestHeader.written, List.length_append, length_text,
      length_utf8] at fits
    exact isCountable_of_le (by omega)

/-- **The wire format of requests.**  Octets are decoded to a request exactly if they begin with its
layout and its body belongs to the action of its header; and a request is encoded as its layout,
unless that exceeds the limit. -/
theorem Request.decode_iff_layout_and_encode_eq_layout (octets : Octets) (r : Request) :
    (Request.decode octets = .ok r ↔
      r.IsCountable ∧ r.bodyAction = r.action ∧ r.layout <+: octets) ∧
    r.encode =
      if r.layout.length ≤ 61440 then .ok r.layout
      else .error (.tooLarge r.layout.length 61440) := by
  rw [← r.written_eq_layout]
  exact ⟨Request.decode_eq_ok_iff, Wire.sealed_eq r.written⟩

/-- The layout of a shutdown, octet by octet. -/
example : (Request.ofShutdown.withSession ⟨"é"⟩).encode =
    .ok [1, 0, 0, 0, 2, 0, 0, 0, 0, 0, 0, 0, 0xC3, 0xA9] := by
  rfl

end DatagramSession
