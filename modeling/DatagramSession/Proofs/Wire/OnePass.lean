import DatagramSession.Proofs.Wire.Response
import DatagramSession.Proofs.Wire.Request
import Mathlib.Algebra.BigOperators.Ring.Finset
import Mathlib.Data.List.GetD
import Mathlib.Tactic.Ring

/-!
# Decoding in one pass

Decoding reads the header of an envelope, and then reads the envelope from the start.  A decoder that
goes over the octets once, and after the header goes on from the place it has come to, has the same
result on every datagram: the same envelope, or the same fault.

Such a decoder is written here over places.  A `Scan` looks at the octets of a datagram from a place
on and says what it has read and where it ended; it takes nothing off the front.

* `Reader.Tracks`: a reader at a place of the octets does what a scan does, field by field.
* `Request.decode_of_header`, `Response.decode_of_header`: what the second pass adds to the first.
* `decode_eq_scan_and_fits_header`: two passes and one pass agree, and header and envelope with them.
-/

namespace DatagramSession

namespace Wire

/-- Reading octets from a place on: what was read, and the place behind it. -/
abbrev Scan (α : Type) := Octets → Nat → Except Fault (α × Nat)

namespace Scan

/-- The number whose digits to base 256 stand at the next `width` places, least first. -/
def value (octets : Octets) (place width : Nat) : Nat :=
  ∑ i ∈ Finset.range width, (octets.getD (place + i) 0).toNat * 256 ^ i

def number (width : Nat) : Scan Nat := fun octets place =>
  if octets.length < place + width then .error .endOfInput
  else .ok (value octets place width, place + width)

/-- The text behind its length. -/
def text : Scan String := fun octets place => do
  let (size, start) ← number 8 octets place
  if octets.length < start + size then .error .textCutShort
  else
    let s ← Reader.ofUtf8 ((octets.drop start).take size)
    .ok (s, start + size)

def flag : Scan Bool := fun octets place => do
  let (octet, next) ← number 1 octets place
  if octet = 0 then .ok (false, next)
  else if octet = 1 then .ok (true, next)
  else .error (.badFlag octet)

def action : Scan Action := fun octets place => do
  let (tag, next) ← number 4 octets place
  if tag = 0 then .ok (.login, next)
  else if tag = 1 then .ok (.shutdown, next)
  else .error (.unknownAction tag)

end Scan

end Wire

open Wire

/-! ## Decoders of one pass -/

def RequestHeader.scan : Scan RequestHeader := fun octets place => do
  let (action, place) ← Scan.action octets place
  let (session, place) ← Scan.text octets place
  .ok (⟨action, ⟨session⟩⟩, place)

/-- Behind the header of a request: for a login the account and the password. -/
def Request.scanBody (a : Action) (header : RequestHeader) : Scan Request := fun octets place =>
  match a with
  | .login => do
    let (account, place) ← Scan.text octets place
    let (password, place) ← Scan.text octets place
    .ok (.login header account password, place)
  | .shutdown => .ok (.shutdown header, place)

/-- The header, and from there on the body of its action. -/
def Request.scan : Scan Request := fun octets place => do
  let (header, place) ← RequestHeader.scan octets place
  Request.scanBody header.action header octets place

def ResponseHeader.scan : Scan ResponseHeader := fun octets place => do
  let (action, place) ← Scan.action octets place
  let (session, place) ← Scan.text octets place
  let (isOk, place) ← Scan.flag octets place
  let (error, place) ← Scan.text octets place
  .ok (⟨action, ⟨session⟩, isOk, error⟩, place)

/-- Behind the header of a successful response: for a login the welcome. -/
def Response.scanBody (a : Action) (header : ResponseHeader) : Scan Response := fun octets place =>
  match a with
  | .login => do
    let (welcome, place) ← Scan.text octets place
    .ok (.login header welcome, place)
  | .shutdown => .ok (.shutdown header, place)

/-- The header; then a wrong action is rejected, a failure is a refusal, and a success has the body
of its action from there on. -/
def Response.scan (expected : Action) (octets : Octets) : Except Wire.Failure Response := do
  let (header, place) ← (ResponseHeader.scan octets 0).mapError .malformed
  if header.action ≠ expected then .error (.unexpectedAction expected header.action)
  else if header.isOk = false then .ok (.refusal header)
  else
    let (response, _) ← (Response.scanBody header.action header octets place).mapError .malformed
    .ok response

/-! ## A reader at a place -/

namespace Wire.Reader

theorem bind_run {α β : Type} (reader : Reader α) (next : α → Reader β) (octets : Octets) :
    (reader >>= next) octets = (reader octets).bind fun p => next p.1 p.2 := by
  cases read : reader octets with
  | error fault => simp only [bind, StateT.bind, Except.bind, read]
  | ok p => simp only [bind, StateT.bind, Except.bind, read]

/-- Put at any place of the octets, the reader reads what the scan reads there, and leaves what lies
behind the place that the scan comes to. -/
def Tracks {α : Type} (reader : Reader α) (scan : Scan α) : Prop :=
  ∀ octets place, reader (octets.drop place) =
    (scan octets place).map fun p => (p.1, octets.drop p.2)

theorem Tracks.pure {α : Type} (a : α) :
    Tracks (pure a) fun _ place => .ok (a, place) := by
  intro octets place
  rfl

/-- Fields one after the other: the next one is read at the place that the first has come to. -/
theorem Tracks.bind {α β : Type} {reader : Reader α} {next : α → Reader β} {scan : Scan α}
    {scanNext : α → Scan β} (first : Tracks reader scan) (rest : ∀ a, Tracks (next a) (scanNext a)) :
    Tracks (reader >>= next) fun octets place =>
      (scan octets place).bind fun p => scanNext p.1 octets p.2 := by
  intro octets place
  rw [bind_run, first octets place]
  dsimp only
  cases scan octets place with
  | error fault => rfl
  | ok p => exact rest p.1 octets p.2

/-- The digits that a scan adds up are those of the octets at the place. -/
theorem ofLittleEndian_take_drop {octets : Octets} {place width : Nat}
    (room : place + width ≤ octets.length) :
    ofLittleEndian ((octets.drop place).take width) = Scan.value octets place width := by
  induction width generalizing place with
  | zero => rfl
  | succ width ih =>
    have lt : place < octets.length := by omega
    have head : (octets.getD (place + 0) 0).toNat * 256 ^ 0 = octets[place].toNat := by
      rw [Nat.add_zero, List.getD_eq_getElem octets 0 lt, Nat.pow_zero, Nat.mul_one]
    have further : place + 1 + width ≤ octets.length := by omega
    rw [List.drop_eq_getElem_cons lt, List.take_succ_cons, ofLittleEndian, ih further, Scan.value,
      Scan.value, Finset.sum_range_succ', Finset.mul_sum, head, Nat.add_comm]
    congr 1
    refine Finset.sum_congr rfl fun i _ => ?_
    rw [Nat.add_assoc, Nat.add_comm 1 i, Nat.pow_succ]
    ring

theorem number_tracks {width : Nat} (wide : 0 < width) :
    Tracks (number width) (Scan.number width) := by
  intro octets place
  unfold number Scan.number
  rw [List.length_drop]
  by_cases short : octets.length < place + width
  · rw [if_pos short, if_pos (by omega)]
    rfl
  · rw [if_neg short, if_neg (by omega), ofLittleEndian_take_drop (by omega), List.drop_drop]
    rfl

/-- What a number leaves begins within the octets. -/
theorem le_length_of_number {octets : Octets} {width place n next : Nat}
    (read : Scan.number width octets place = .ok (n, next)) : next ≤ octets.length := by
  unfold Scan.number at read
  split at read
  · cases read
  · cases read
    omega

theorem text_tracks : Tracks text Scan.text := by
  intro octets place
  unfold text Scan.text
  rw [bind_run, number_tracks (by decide) octets place]
  cases number : Scan.number 8 octets place with
  | error fault => rfl
  | ok p =>
    obtain ⟨size, start⟩ := p
    have within : start ≤ octets.length := le_length_of_number number
    dsimp only [Except.map, Except.bind, bind]
    rw [StateT.bind, raw, List.length_drop]
    by_cases short : octets.length < start + size
    · rw [if_pos short, if_pos (by omega)]
      rfl
    · rw [if_neg short, if_neg (by omega), List.drop_drop]
      dsimp only [Except.bind, bind]
      cases ofUtf8 ((octets.drop start).take size) with
      | error fault => rfl
      | ok s => rfl

theorem flag_tracks : Tracks flag Scan.flag := by
  intro octets place
  unfold flag Scan.flag
  rw [bind_run, number_tracks (by decide) octets place]
  cases Scan.number 1 octets place with
  | error fault => rfl
  | ok p =>
    obtain ⟨octet, next⟩ := p
    match octet with
    | 0 => rfl
    | 1 => rfl
    | octet + 2 => rfl

theorem action_tracks : Tracks action Scan.action := by
  intro octets place
  unfold action Scan.action
  rw [bind_run, number_tracks (by decide) octets place]
  cases Scan.number 4 octets place with
  | error fault => rfl
  | ok p =>
    obtain ⟨tag, next⟩ := p
    match tag with
    | 0 => rfl
    | 1 => rfl
    | tag + 2 => rfl

theorem requestHeader_tracks : Tracks requestHeader RequestHeader.scan :=
  action_tracks.bind fun _ => text_tracks.bind fun _ => .pure _

theorem responseHeader_tracks : Tracks responseHeader ResponseHeader.scan :=
  action_tracks.bind fun _ => text_tracks.bind fun _ => flag_tracks.bind fun _ =>
    text_tracks.bind fun _ => .pure _

/-- The second pass goes over the header again, and then over the body. -/
theorem request_tracks (a : Action) :
    Tracks (request a) fun octets place =>
      (RequestHeader.scan octets place).bind fun p => Request.scanBody a p.1 octets p.2 := by
  cases a with
  | login =>
    exact requestHeader_tracks.bind fun _ => text_tracks.bind fun _ => text_tracks.bind fun _ =>
      .pure _
  | shutdown => exact requestHeader_tracks.bind fun _ => .pure _

theorem response_tracks (a : Action) :
    Tracks (response a) fun octets place =>
      (ResponseHeader.scan octets place).bind fun p => Response.scanBody a p.1 octets p.2 := by
  cases a with
  | login => exact responseHeader_tracks.bind fun _ => text_tracks.bind fun _ => .pure _
  | shutdown => exact responseHeader_tracks.bind fun _ => .pure _

/-- What a reader makes of the front of the octets is what the scan makes of them from the start. -/
theorem Tracks.front {α : Type} {reader : Reader α} {scan : Scan α} (tracks : Tracks reader scan)
    (octets : Octets) :
    reader.front octets = ((scan octets 0).map (·.1)).mapError .malformed := by
  have run : reader.run octets = (scan octets 0).map fun p => (p.1, octets.drop p.2) :=
    tracks octets 0
  rw [Reader.front, run]
  cases scan octets 0 <;> rfl

/-- What a reader accepts at the front, the scan has read up to some place. -/
theorem Tracks.exists_of_front {α : Type} {reader : Reader α} {scan : Scan α} {octets : Octets}
    {a : α} (tracks : Tracks reader scan) (read : reader.front octets = .ok a) :
    ∃ place, scan octets 0 = .ok (a, place) := by
  rw [tracks.front] at read
  cases scanned : scan octets 0 with
  | error fault =>
    rw [scanned] at read
    cases read
  | ok p =>
    rw [scanned] at read
    cases read
    exact ⟨p.2, rfl⟩

end Wire.Reader

/-! ## Two passes and one -/

/-- What the second pass over a request adds to its header. -/
theorem Request.decode_of_scan_header {octets : Octets} {header : RequestHeader} {place : Nat}
    (read : RequestHeader.scan octets 0 = .ok (header, place)) :
    Request.decode octets =
      ((Request.scanBody header.action header octets place).map (·.1)).mapError .malformed := by
  unfold Request.decode RequestHeader.decode
  rw [Reader.requestHeader_tracks.front, read]
  dsimp only [Except.map, mapError_ok, bind, Except.bind]
  rw [(Reader.request_tracks _).front, read]
  rfl

theorem Request.decode_eq_scan (octets : Octets) :
    Request.decode octets = ((Request.scan octets 0).map (·.1)).mapError .malformed := by
  cases read : RequestHeader.scan octets 0 with
  | error fault =>
    unfold Request.decode RequestHeader.decode Request.scan
    rw [Reader.requestHeader_tracks.front, read]
    rfl
  | ok p =>
    rw [decode_of_scan_header read, Request.scan, read]
    rfl

/-- What the second pass over a response adds to its header, where there is a second pass. -/
theorem Response.front_of_scan_header {octets : Octets} {header : ResponseHeader} {place : Nat}
    (read : ResponseHeader.scan octets 0 = .ok (header, place)) (a : Action) :
    (Reader.response a).front octets =
      ((Response.scanBody a header octets place).map (·.1)).mapError .malformed := by
  rw [(Reader.response_tracks a).front, read]
  rfl

theorem Response.decode_eq_scan (a : Action) (octets : Octets) :
    Response.decode a octets = Response.scan a octets := by
  cases read : ResponseHeader.scan octets 0 with
  | error fault =>
    unfold Response.decode ResponseHeader.decode Response.scan
    rw [Reader.responseHeader_tracks.front, read]
    rfl
  | ok p =>
    obtain ⟨header, place⟩ := p
    have decoded : ResponseHeader.decode octets = .ok header := by
      rw [ResponseHeader.decode, Reader.responseHeader_tracks.front, read]
      rfl
    rw [Response.decode_of_header a decoded, front_of_scan_header read, Response.scan, read]
    dsimp only [mapError_ok, bind, Except.bind]
    by_cases expected : header.action ≠ a
    · rw [if_pos expected, if_pos expected]
    · rw [if_neg expected, if_neg expected]
      cases header.isOk with
      | false => rfl
      | true => cases Response.scanBody header.action header octets place <;> rfl

/-- A shutdown is decoded wherever its header is read. -/
theorem Request.decode_eq_shutdown {octets : Octets} {header : RequestHeader}
    (read : RequestHeader.decode octets = .ok header) (action : header.action = .shutdown) :
    Request.decode octets = .ok (.shutdown header) := by
  obtain ⟨place, scanned⟩ := Reader.requestHeader_tracks.exists_of_front read
  rw [decode_of_scan_header scanned, action]
  rfl

/-- A header of the expected action that reports a failure, or is that of a shutdown, is all that
there is to decode. -/
theorem Response.decode_eq_of_header {octets : Octets} {header : ResponseHeader}
    (read : ResponseHeader.decode octets = .ok header) :
    (header.isOk = false → Response.decode header.action octets = .ok (.refusal header)) ∧
    (header.isOk = true → header.action = .shutdown →
      Response.decode header.action octets = .ok (.shutdown header)) := by
  have expected : ¬ header.action ≠ header.action := not_not_intro rfl
  rw [decode_of_header header.action read, if_neg expected]
  constructor
  · intro failure
    rw [failure]
    rfl
  · intro success action
    obtain ⟨place, scanned⟩ := Reader.responseHeader_tracks.exists_of_front read
    rw [front_of_scan_header scanned, success, action]
    rfl

/-- **Two passes decode like one.**  Decoding has on every datagram the result of a decoder that
reads the header once and goes on from there: the same envelope or the same fault, and for a
response to an expected action also the same rejection of another action.  So the header that is
read alone and the whole envelope fit together: a fault in the header is the fault of the envelope,
an envelope has the header that is read alone, and behind the header of a shutdown, or a header that
reports a failure, nothing can fail. -/
theorem decode_eq_scan_and_fits_header (octets : Octets) :
    (Request.decode octets = ((Request.scan octets 0).map (·.1)).mapError .malformed ∧
      (∀ failure, RequestHeader.decode octets = .error failure →
        Request.decode octets = .error failure) ∧
      (∀ r, Request.decode octets = .ok r → RequestHeader.decode octets = .ok r.header) ∧
      ∀ header, RequestHeader.decode octets = .ok header → header.action = .shutdown →
        Request.decode octets = .ok (.shutdown header)) ∧
    ∀ a, Response.decode a octets = Response.scan a octets ∧
      (∀ failure, ResponseHeader.decode octets = .error failure →
        Response.decode a octets = .error failure) ∧
      (∀ x, Response.decode a octets = .ok x → ResponseHeader.decode octets = .ok x.header) ∧
      ∀ header, ResponseHeader.decode octets = .ok header → header.action = a →
        (header.isOk = false → Response.decode a octets = .ok (.refusal header)) ∧
        (header.isOk = true → a = .shutdown →
          Response.decode a octets = .ok (.shutdown header)) := by
  refine ⟨⟨Request.decode_eq_scan octets, ?_, ?_, ?_⟩, fun a =>
    ⟨Response.decode_eq_scan a octets, ?_, ?_, ?_⟩⟩
  · intro failure failed
    rw [Request.decode, failed]
    rfl
  · intro r decoded
    obtain ⟨countable, _, isPrefix⟩ := Request.decode_eq_ok_iff.1 decoded
    exact Request.decode_header countable isPrefix
  · intro header read action
    exact Request.decode_eq_shutdown read action
  · intro failure failed
    rw [Response.decode, failed]
    rfl
  · intro x decoded
    obtain ⟨countable, _, isPrefix, _⟩ := Response.decode_eq_ok_iff.1 decoded
    exact Response.decode_header countable isPrefix
  · rintro header read rfl
    exact Response.decode_eq_of_header read

/-- A login whose account is cut short faults behind its header, which is read alone. -/
example :
    let octets := (Request.ofCredentials "alice" "pw").written.take 22
    RequestHeader.decode octets = .ok ⟨.login, .absent⟩ ∧
    Request.decode octets = .error (.malformed .textCutShort) := by
  decide

end DatagramSession
