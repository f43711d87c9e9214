import DatagramSession.Proofs.Wire.OnePass

/-!
# Truncated datagrams

A decoder looks at the octets of its envelope and at nothing behind them.  When the octets end
before the envelope does, it says so: in every pass, a field that is not all there is reported as
missing octets, before anything is said about what the field holds.

* `Reader.TakesAtMost`: a reader that has not run short reads the same whatever lies behind, and so
  many octets are enough for it; one lemma for each field and each envelope.
* `IsDecidedByFront`: the same of a decoder, which makes several passes.
* `decode_is_decided_by_front`: the result of decoding is final exactly if it is not that of
  truncated octets, and every proper front of an envelope is truncated.
-/

namespace DatagramSession

namespace Wire

/-- A reader has run out of octets. -/
def runsShort {α : Type} : Except Fault α → Bool
  | .ok _ => false
  | .error fault => fault.isTruncation

def Failure.isTruncation : Failure → Bool
  | .malformed fault => fault.isTruncation
  | _ => false

/-- The octets of a datagram end inside the envelope. -/
def isTruncated {α : Type} : Except Failure α → Bool
  | .ok _ => false
  | .error failure => failure.isTruncation

namespace Reader

theorem isTruncated_front {α : Type} (reader : Reader α) (octets : Octets) :
    isTruncated (reader.front octets) = runsShort (reader octets) := by
  unfold front
  cases read : reader.run octets with
  | error fault =>
    have failed : reader octets = .error fault := read
    rw [failed]
    rfl
  | ok p =>
    have accepted : reader octets = .ok p := read
    rw [accepted]
    rfl

/-! ## What a reader takes -/

/-- A reader takes no more than `size` octets, and it does not run short when it has so many.  Where
it does not run short, it reads the same with more octets behind, and leaves them. -/
structure TakesAtMost {α : Type} (reader : Reader α) (size : Nat) : Prop where
  append : ∀ octets more, runsShort (reader octets) = false →
    reader (octets ++ more) = (reader octets).map fun p => (p.1, p.2 ++ more)
  enough : ∀ octets, size ≤ octets.length → runsShort (reader octets) = false
  length_le : ∀ octets a rest, reader octets = .ok (a, rest) → octets.length ≤ rest.length + size

namespace TakesAtMost

variable {α β : Type} {reader : Reader α}

theorem mono {m n : Nat} (takes : TakesAtMost reader m) (le : m ≤ n) : TakesAtMost reader n where
  append := takes.append
  enough octets long := takes.enough octets (Nat.le_trans le long)
  length_le octets a rest read := by
    have length := takes.length_le octets a rest read
    omega

theorem pure (a : α) : TakesAtMost (pure a : Reader α) 0 where
  append _ _ _ := rfl
  enough _ _ := rfl
  length_le octets b rest read := by
    cases read
    exact Nat.le_refl _

theorem fail {fault : Fault} (other : fault.isTruncation = false) :
    TakesAtMost (fail fault : Reader α) 0 where
  append _ _ _ := rfl
  enough _ _ := other
  length_le _ _ _ := nofun

/-- One field behind another.  Where the first one faults the second is not looked for, and what the
second takes may depend on what the first was read as. -/
theorem bind {next : α → Reader β} {m n : Nat} (first : TakesAtMost reader m)
    (second : ∀ a octets rest, reader octets = .ok (a, rest) → TakesAtMost (next a) n) :
    TakesAtMost (reader >>= next) (m + n) where
  append octets more complete := by
    rw [bind_run] at complete
    rw [bind_run, bind_run]
    have once := first.append octets more
    cases read : reader octets with
    | error fault =>
      rw [read] at complete once
      rw [once complete]
      rfl
    | ok p =>
      rw [read] at complete once
      rw [once rfl]
      exact (second p.1 octets p.2 read).append p.2 more complete
  enough octets long := by
    rw [bind_run]
    have once := first.enough octets (by omega)
    cases read : reader octets with
    | error fault =>
      rw [read] at once
      exact once
    | ok p =>
      have length := first.length_le octets p.1 p.2 read
      exact (second p.1 octets p.2 read).enough p.2 (by omega)
  length_le octets b rest read := by
    obtain ⟨a, middle, once, twice⟩ := bind_eq_ok_iff.1 read
    have front := first.length_le octets a middle once
    have back := (second a octets middle once).length_le middle b rest twice
    omega

end TakesAtMost

/-! ## Fields -/

/-- A field of `size` octets, with the fault of its not being all there. -/
def field {α : Type} (size : Nat) (shortage : Fault) (value : Octets → α) : Reader α :=
  fun octets =>
    if octets.length < size then .error shortage
    else .ok (value (octets.take size), octets.drop size)

theorem number_eq_field (width : Nat) : number width = field width .endOfInput ofLittleEndian := rfl

theorem raw_eq_field (size : Nat) : raw size = field size .textCutShort id := rfl

theorem takesAtMost_field {α : Type} (size : Nat) {shortage : Fault}
    (truncation : shortage.isTruncation = true) (value : Octets → α) :
    TakesAtMost (field size shortage value) size where
  append octets more complete := by
    unfold field at complete ⊢
    by_cases short : octets.length < size
    · rw [if_pos short] at complete
      exact absurd (truncation.symm.trans complete) (by decide)
    · have within : size ≤ octets.length := Nat.le_of_not_lt short
      have still : ¬ (octets ++ more).length < size := by
        rw [List.length_append]
        omega
      rw [if_neg short, if_neg still, List.take_append_of_le_length within,
        List.drop_append_of_le_length within]
      rfl
  enough octets long := by
    unfold field
    rw [if_neg (Nat.not_lt.2 long)]
    rfl
  length_le octets a rest read := by
    unfold field at read
    split at read
    · cases read
    · cases read
      rw [List.length_drop]
      omega

theorem takesAtMost_number (width : Nat) : TakesAtMost (number width) width := by
  rw [number_eq_field]
  exact takesAtMost_field width rfl ofLittleEndian

theorem takesAtMost_raw (size : Nat) : TakesAtMost (raw size) size := by
  rw [raw_eq_field]
  exact takesAtMost_field size rfl id

/-- Octets that are no text lack nothing. -/
theorem not_truncation_of_ofUtf8 {octets : Octets} {fault : Fault}
    (failed : ofUtf8 octets = .error fault) : fault.isTruncation = false := by
  unfold ofUtf8 at failed
  split at failed
  · cases failed
  · cases failed
    rfl

/-- The longest text that a length of eight octets allows, behind its length. -/
def longestText : Nat := 8 + 2 ^ 64

/-- The octets of a text are all there before it is asked whether they are UTF-8. -/
theorem takesAtMost_text : TakesAtMost text longestText := by
  apply (takesAtMost_number 8).bind
  intro size _ _ read
  have countable : size < 2 ^ 64 := (number_eq_ok_iff.1 read).1
  apply ((takesAtMost_raw size).bind (n := 0) ?_).mono (Nat.le_of_lt countable)
  intro octets _ _ _
  cases decoded : ofUtf8 octets with
  | ok s => exact .pure s
  | error fault => exact .fail (not_truncation_of_ofUtf8 decoded)

theorem takesAtMost_flag : TakesAtMost flag 1 := by
  apply (takesAtMost_number 1).bind (n := 0)
  intro octet _ _ _
  split
  · exact .pure false
  · exact .pure true
  · exact .fail rfl

theorem takesAtMost_action : TakesAtMost action 4 := by
  apply (takesAtMost_number 4).bind (n := 0)
  intro tag _ _ _
  cases Action.ofTag? tag with
  | some a => exact .pure a
  | none => exact .fail rfl

/-! ## Envelopes -/

/-- More octets than any envelope has. -/
def plenty : Nat := 5 + 3 * longestText

theorem takesAtMost_requestHeader : TakesAtMost requestHeader (4 + longestText) :=
  takesAtMost_action.bind fun _ _ _ _ => takesAtMost_text.bind fun _ _ _ _ => .pure _

theorem takesAtMost_responseHeader :
    TakesAtMost responseHeader (4 + (longestText + (1 + longestText))) :=
  takesAtMost_action.bind fun _ _ _ _ => takesAtMost_text.bind fun _ _ _ _ =>
    takesAtMost_flag.bind fun _ _ _ _ => takesAtMost_text.bind fun _ _ _ _ => .pure _

theorem takesAtMost_request (a : Action) : TakesAtMost (request a) plenty := by
  cases a with
  | login =>
    apply (takesAtMost_requestHeader.bind fun _ _ _ _ => takesAtMost_text.bind fun _ _ _ _ =>
      takesAtMost_text.bind fun _ _ _ _ => .pure _).mono
    unfold plenty
    omega
  | shutdown =>
    apply (takesAtMost_requestHeader.bind fun _ _ _ _ => .pure _).mono
    unfold plenty
    omega

theorem takesAtMost_response (a : Action) : TakesAtMost (response a) plenty := by
  cases a with
  | login =>
    apply (takesAtMost_responseHeader.bind fun _ _ _ _ => takesAtMost_text.bind fun _ _ _ _ =>
      .pure _).mono
    unfold plenty
    omega
  | shutdown =>
    apply (takesAtMost_responseHeader.bind fun _ _ _ _ => .pure _).mono
    unfold plenty
    omega

end Reader

/-! ## Decoders -/

/-- What a decoder makes of a datagram, it makes of it with anything behind, unless it has found the
datagram truncated; and it does not find that of one that is longer than any envelope. -/
structure IsDecidedByFront {α : Type} (decoder : Octets → Except Failure α) : Prop where
  append : ∀ {octets}, isTruncated (decoder octets) = false →
    ∀ more, decoder (octets ++ more) = decoder octets
  long : ∀ {octets}, Reader.plenty ≤ octets.length → isTruncated (decoder octets) = false

namespace IsDecidedByFront

variable {α β : Type} {decoder : Octets → Except Failure α}

/-- What a reader takes decides what it makes of a datagram. -/
theorem of_reader {reader : Reader α} {size : Nat} (takes : reader.TakesAtMost size)
    (le : size ≤ Reader.plenty) :
    IsDecidedByFront reader.front where
  append {octets} complete more := by
    rw [Reader.isTruncated_front] at complete
    have read : reader.run (octets ++ more) =
        (reader.run octets).map fun p => (p.1, p.2 ++ more) := takes.append octets more complete
    unfold Reader.front
    rw [read]
    cases reader.run octets with
    | error fault => rfl
    | ok p => rfl
  long {octets} length := by
    rw [Reader.isTruncated_front]
    exact takes.enough octets (Nat.le_trans le length)

/-- A result that is known without the octets. -/
theorem const {result : Except Failure α} (other : isTruncated result = false) :
    IsDecidedByFront fun _ => result where
  append _ _ := rfl
  long _ := other

/-- Two passes over the same octets, the second one as the first one tells. -/
theorem bind {next : α → Octets → Except Failure β} (first : IsDecidedByFront decoder)
    (second : ∀ a, IsDecidedByFront (next a)) :
    IsDecidedByFront fun octets => decoder octets >>= fun a => next a octets where
  append {octets} complete more := by
    have once : isTruncated (decoder octets) = false → decoder (octets ++ more) = decoder octets :=
      fun whole => first.append whole more
    cases read : decoder octets with
    | error failure =>
      rw [read] at complete once
      rw [once complete]
      rfl
    | ok a =>
      rw [read] at complete once
      rw [once rfl]
      exact (second a).append complete more
  long {octets} length := by
    have once := first.long length
    cases read : decoder octets with
    | error failure =>
      rw [read] at once
      exact once
    | ok a => exact (second a).long length

/-- The result is final exactly if it is not that of a truncated datagram. -/
theorem append_eq_iff (decided : IsDecidedByFront decoder) {octets : Octets} :
    (∀ more, decoder (octets ++ more) = decoder octets) ↔
      isTruncated (decoder octets) = false := by
  constructor
  · intro final
    let more : Octets := List.replicate Reader.plenty 0
    rw [← final more]
    apply decided.long
    rw [List.length_append, List.length_replicate]
    exact Nat.le_add_left _ _
  · exact decided.append

/-- Where nothing is decoded to a value but what begins with its written form, a proper front of the
written form is truncated. -/
theorem isTruncated_of_front (decided : IsDecidedByFront decoder) {written front : Octets} {a : α}
    (decoded : decoder written = .ok a)
    (needed : ∀ octets, decoder octets = .ok a → written <+: octets)
    (isPrefix : front <+: written) (proper : front ≠ written) :
    isTruncated (decoder front) = true := by
  by_contra complete
  obtain ⟨more, split⟩ := isPrefix
  have same : decoder front = .ok a := by
    rw [← decided.append (Bool.eq_false_iff.2 complete) more, split]
    exact decoded
  have longer := (needed front same).length_le
  exact proper (List.IsPrefix.eq_of_length_le ⟨more, split⟩ longer)

end IsDecidedByFront

end Wire

open Wire

theorem Request.isDecidedByFront_decode : IsDecidedByFront Request.decode := by
  apply IsDecidedByFront.bind
  · exact .of_reader Reader.takesAtMost_requestHeader (by decide)
  · intro header
    exact .of_reader (Reader.takesAtMost_request _) (Nat.le_refl _)

/-- A rejected action and a refusal are told by the header, a success by the whole response. -/
theorem Response.isDecidedByFront_decode (a : Action) :
    IsDecidedByFront (Response.decode a) := by
  apply IsDecidedByFront.bind
  · exact .of_reader Reader.takesAtMost_responseHeader (by decide)
  · intro header
    by_cases other : header.action ≠ a
    · simp only [if_pos other]
      exact .const rfl
    simp only [if_neg other]
    by_cases failure : (!header.isOk) = true
    · simp only [if_pos failure]
      exact .const rfl
    simp only [if_neg failure]
    exact .of_reader (Reader.takesAtMost_response _) (Nat.le_refl _)

/-- **Decoding is decided by the front that it needs.**  What is made of a datagram is made of it
with anything behind, unless it was found truncated; and where it was, other octets behind lead to
another result.  An encoded envelope whose body belongs to its header is decoded to itself, and each
proper front of it is found truncated: it is never taken for an envelope, and no other fault is
found in it. -/
theorem decode_is_decided_by_front (octets : Octets) :
    ((∀ more, Request.decode (octets ++ more) = Request.decode octets) ↔
      isTruncated (Request.decode octets) = false) ∧
    (∀ a, (∀ more, Response.decode a (octets ++ more) = Response.decode a octets) ↔
      isTruncated (Response.decode a octets) = false) ∧
    (∀ r : Request, r.bodyAction = r.action → r.encode = .ok octets →
      Request.decode octets = .ok r ∧
      ∀ front, front <+: octets → front ≠ octets →
        isTruncated (Request.decode front) = true) ∧
    ∀ x : Response, x.IsOutcomeOf x.action → x.encode = .ok octets →
      Response.decode x.action octets = .ok x ∧
      ∀ front, front <+: octets → front ≠ octets →
        isTruncated (Response.decode x.action front) = true := by
  refine ⟨Request.isDecidedByFront_decode.append_eq_iff,
    fun a => (Response.isDecidedByFront_decode a).append_eq_iff, ?_, ?_⟩
  · intro r body encoded
    have countable := Request.isCountable_of_encode encoded
    obtain ⟨rfl, -⟩ := Wire.length_le_of_sealed encoded
    have decoded := Request.decode_written countable body
    refine ⟨decoded, fun front => Request.isDecidedByFront_decode.isTruncated_of_front decoded ?_⟩
    intro octets same
    exact (Request.decode_eq_ok_iff.1 same).2.2
  · intro x outcome encoded
    obtain ⟨countable, rfl, -⟩ := Response.isCountable_of_encode encoded
    have decoded := Response.decode_of_prefix countable rfl List.prefix_rfl outcome
    refine ⟨decoded, fun front =>
      (Response.isDecidedByFront_decode x.action).isTruncated_of_front decoded ?_⟩
    intro octets same
    exact (Response.decode_eq_ok_iff.1 same).2.2.1

/-- A text that ends inside a character is missing octets, and is not yet ill-formed. -/
example :
    let octets := (Request.ofShutdown.withSession ⟨"é"⟩).written
    Request.decode (octets.take 13) = .error (.malformed .textCutShort) ∧
    Request.decode (octets.take 13 ++ [0x20]) =
      .error (.malformed (.illFormedText ⟨0, some 1⟩)) := by
  decide

end DatagramSession
