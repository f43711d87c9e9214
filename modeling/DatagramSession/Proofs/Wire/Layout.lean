import DatagramSession.Wire.Envelope
import Mathlib.Algebra.Group.Nat.Defs

/-!
# The layout of an envelope

What an envelope looks like on the wire, said without the functions that write it: a number of
fixed width has at each place its digit to base 256, least first, and a text is its length in octets
as eight octets and then its UTF-8.

* `Request.written_eq_layout`, `Response.written_eq_layout`: what is written is the layout.
* `Wire.Reader.front_eq_ok_iff`, `Wire.sealed_eq`: what the readers take at the front of a datagram,
  and what the limit lets pass.
-/

namespace DatagramSession

namespace Wire

/-- A number of fixed width: the digit at each place, to base 256, least first. -/
def digits (width n : Nat) : Octets :=
  (List.range width).map fun place => UInt8.ofNat (n / 256 ^ place % 256)

/-- A text behind its length. -/
def counted (s : String) : Octets := digits 8 s.utf8ByteSize ++ s.toUTF8.data.toList

/-- The length of a text fits into eight octets. -/
def IsCountable (s : String) : Prop := s.utf8ByteSize < 2 ^ 64

instance (s : String) : Decidable (IsCountable s) :=
  inferInstanceAs (Decidable (s.utf8ByteSize < 2 ^ 64))

theorem length_utf8 (s : String) : (utf8 s).length = s.utf8ByteSize := rfl

/-- The octets that are written least first are the digits by place. -/
theorem littleEndian_eq_digits (width n : Nat) : littleEndian width n = digits width n := by
  induction width generalizing n with
  | zero => rfl
  | succ width ih =>
    rw [littleEndian, ih, digits, digits, List.range_succ_eq_map, List.map_cons, List.map_map]
    congr 1
    · rw [Nat.pow_zero, Nat.div_one]
      exact UInt8.ofNat_mod_size.symm
    · refine List.map_congr_left fun place _ => ?_
      rw [Function.comp_apply, Nat.div_div_eq_div_mul, Nat.succ_eq_add_one, Nat.pow_succ,
        Nat.mul_comm]

theorem text_eq_counted (s : String) : text s = counted s := by
  rw [text, counted, littleEndian_eq_digits, length_utf8]
  rfl

end Wire

open Wire

/-- The tag of an action as four octets: a login is 0, a shutdown is 1. -/
def Action.layout (a : Action) : Octets :=
  match a with
  | .login => digits 4 0
  | .shutdown => digits 4 1

/-- The action, the session, and for a login the account and the password. -/
def Request.layout : Request → Octets
  | .login header account password =>
    header.action.layout ++ counted header.session.text ++ counted account ++ counted password
  | .shutdown header => header.action.layout ++ counted header.session.text

/-- The texts of a request are short enough to be written. -/
def Request.IsCountable : Request → Prop
  | .login header account password =>
    Wire.IsCountable header.session.text ∧ Wire.IsCountable account ∧ Wire.IsCountable password
  | .shutdown header => Wire.IsCountable header.session.text

/-- The action, the session, one octet for the flag, and the error. -/
def ResponseHeader.layout (h : ResponseHeader) : Octets :=
  h.action.layout ++ counted h.session.text ++ [if h.isOk then 1 else 0] ++ counted h.error

/-- The header, and for a login the welcome.  A refusal looks like a shutdown. -/
def Response.layout : Response → Octets
  | .login header welcome => header.layout ++ counted welcome
  | .shutdown header | .refusal header => header.layout

def ResponseHeader.IsCountable (h : ResponseHeader) : Prop :=
  Wire.IsCountable h.session.text ∧ Wire.IsCountable h.error

/-- The texts of a response are short enough to be written. -/
def Response.IsCountable : Response → Prop
  | .login header welcome => header.IsCountable ∧ Wire.IsCountable welcome
  | .shutdown header | .refusal header => header.IsCountable

theorem Wire.isCountable_iff {s : String} : IsCountable s ↔ (utf8 s).length < 1 <<< 64 := by
  rw [length_utf8, Nat.one_shiftLeft]
  rfl

theorem Wire.isCountable_of_le {s : String} (short : s.utf8ByteSize ≤ 61440) : IsCountable s :=
  Nat.lt_of_le_of_lt short (by decide)

theorem Wire.action_eq_layout (a : Action) : Wire.action a = a.layout := by
  cases a with
  | login => exact littleEndian_eq_digits 4 0
  | shutdown => exact littleEndian_eq_digits 4 1

theorem Request.written_eq_layout (r : Request) : r.written = r.layout := by
  cases r with
  | login header account password =>
    rw [Request.written, RequestHeader.written, action_eq_layout, text_eq_counted, text_eq_counted,
      text_eq_counted, Request.layout]
  | shutdown header =>
    rw [Request.written, RequestHeader.written, action_eq_layout, text_eq_counted, Request.layout]

theorem ResponseHeader.written_eq_layout (h : ResponseHeader) : h.written = h.layout := by
  rw [written, action_eq_layout, text_eq_counted, text_eq_counted, layout]
  rfl

theorem Response.written_eq_layout (x : Response) : x.written = x.layout := by
  cases x with
  | login header welcome =>
    rw [Response.written, header.written_eq_layout, text_eq_counted, Response.layout]
  | shutdown header => exact header.written_eq_layout
  | refusal header => exact header.written_eq_layout

/-! ## Readers and the limit -/

/-- A reader accepts at the front of octets what it accepts with some rest. -/
theorem Wire.Reader.front_eq_ok_iff {α : Type} {reader : Reader α} {octets : Octets} {a : α} :
    reader.front octets = .ok a ↔ ∃ rest, reader octets = .ok (a, rest) := by
  unfold front
  cases read : reader.run octets with
  | error fault =>
    have failed : reader octets = .error fault := read
    simp [failed]
  | ok p =>
    have accepted : reader octets = .ok p := read
    obtain ⟨b, rest⟩ := p
    simp [accepted]

theorem Wire.sealed_eq (octets : Octets) :
    Wire.sealed octets =
      if octets.length ≤ 61440 then .ok octets else .error (.tooLarge octets.length 61440) := by
  unfold Wire.sealed Wire.limit
  by_cases fits : octets.length ≤ 61440
  · rw [if_neg (Nat.not_lt.2 fits), if_pos fits]
  · rw [if_pos (Nat.lt_of_not_le fits), if_neg fits]

/-- What is sealed is within the limit. -/
theorem Wire.length_le_of_sealed {octets front : Octets}
    (sealing : Wire.sealed octets = .ok front) :
    front = octets ∧ front.length ≤ 61440 := by
  rw [Wire.sealed_eq] at sealing
  split at sealing
  · next fits =>
    cases sealing
    exact ⟨rfl, fits⟩
  · cases sealing

end DatagramSession
