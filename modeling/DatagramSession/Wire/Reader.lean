import DatagramSession.Wire.Field
import DatagramSession.Wire.Fault

/-!
# Reading fields

A reader takes a field off the front of the octets.  Each reader accepts exactly the written forms
of its field, and leaves what follows.
-/

namespace DatagramSession.Wire

abbrev Reader (α : Type) := StateT Octets (Except Fault) α

namespace Reader

def fail {α : Type} (fault : Fault) : Reader α := fun _ => .error fault

/-- A number of `width` octets. -/
def number (width : Nat) : Reader Nat := fun octets =>
  if octets.length < width then .error .endOfInput
  else .ok (ofLittleEndian (octets.take width), octets.drop width)

/-- The next `size` octets of a text. -/
def raw (size : Nat) : Reader Octets := fun octets =>
  if octets.length < size then .error .textCutShort
  else .ok (octets.take size, octets.drop size)

/-- The text that octets stand for. -/
def ofUtf8 (octets : Octets) : Except Fault String :=
  match String.fromUTF8? ⟨octets.toArray⟩ with
  | some s => .ok s
  | none => .error (.illFormedText ((IllFormed.find octets).getD ⟨octets.length, none⟩))

def text : Reader String := do
  let size ← number 8
  let octets ← raw size
  match ofUtf8 octets with
  | .ok s => pure s
  | .error fault => fail fault

def flag : Reader Bool := do
  match ← number 1 with
  | 0 => pure false
  | 1 => pure true
  | octet => fail (.badFlag octet)

def action : Reader Action := do
  let tag ← number 4
  match Action.ofTag? tag with
  | some a => pure a
  | none => fail (.unknownAction tag)

/-! ## What the readers accept -/

/-- One reader after another. -/
theorem bind_eq_ok_iff {α β : Type} {reader : Reader α} {next : α → Reader β} {b : β}
    {octets rest : Octets} :
    (reader >>= next) octets = .ok (b, rest) ↔
      ∃ a octets', reader octets = .ok (a, octets') ∧ next a octets' = .ok (b, rest) := by
  cases h : reader octets with
  | error fault => simp [bind, StateT.bind, Except.bind, h]
  | ok p =>
    simp only [bind, StateT.bind, Except.bind, h]
    constructor
    · intro hn
      exact ⟨p.1, p.2, rfl, hn⟩
    · rintro ⟨a, octets', hp, hn⟩
      cases hp
      exact hn

/-- A number is read exactly from its written form. -/
theorem number_eq_ok_iff {width n : Nat} {octets rest : Octets} :
    number width octets = .ok (n, rest) ↔
      n < 1 <<< (8 * width) ∧ octets = littleEndian width n ++ rest := by
  constructor
  · intro h
    unfold number at h
    split at h
    · cases h
    · next hw =>
      cases h
      have hl : (octets.take width).length = width := by simp; omega
      constructor
      · simpa only [hl] using ofLittleEndian_lt (octets.take width)
      · have hr := littleEndian_ofLittleEndian (octets.take width)
        rw [hl] at hr
        rw [hr, List.take_append_drop]
  · rintro ⟨hn, rfl⟩
    simp [number, ofLittleEndian_littleEndian hn]

theorem raw_eq_ok_iff {size : Nat} {contents octets rest : Octets} :
    raw size octets = .ok (contents, rest) ↔
      contents.length = size ∧ octets = contents ++ rest := by
  unfold raw
  constructor
  · intro h
    split at h
    · cases h
    · cases h
      exact ⟨by simp; omega, (List.take_append_drop size octets).symm⟩
  · rintro ⟨rfl, rfl⟩
    simp

/-- Octets are a text exactly if they are its UTF-8. -/
theorem ofUtf8_eq_ok_iff {octets : Octets} {s : String} :
    ofUtf8 octets = .ok s ↔ octets = utf8 s := by
  constructor
  · intro h
    unfold ofUtf8 at h
    split at h
    · next t ht =>
      cases h
      unfold String.fromUTF8? at ht
      split at ht
      · cases ht
        rfl
      · cases ht
    · cases h
  · rintro rfl
    have h : String.fromUTF8? ⟨(utf8 s).toArray⟩ = some s := by
      simp [utf8, String.fromUTF8?, s.isValidUTF8]
      rfl
    simp [ofUtf8, h]

/-- A text is read exactly from its written form, if its length fits into eight octets. -/
theorem text_eq_ok_iff {s : String} {octets rest : Octets} :
    text octets = .ok (s, rest) ↔
      (utf8 s).length < 1 <<< 64 ∧ octets = Wire.text s ++ rest := by
  unfold text
  rw [bind_eq_ok_iff]
  constructor
  · rintro ⟨size, octets', hsize, h⟩
    rw [bind_eq_ok_iff] at h
    obtain ⟨contents, octets'', hraw, h⟩ := h
    obtain ⟨hlt, rfl⟩ := number_eq_ok_iff.1 hsize
    obtain ⟨rfl, rfl⟩ := raw_eq_ok_iff.1 hraw
    cases ht : ofUtf8 contents with
    | error fault =>
      rw [ht] at h
      cases h
    | ok t =>
      rw [ht] at h
      cases h
      obtain rfl := ofUtf8_eq_ok_iff.1 ht
      exact ⟨hlt, by simp [Wire.text]⟩
  · rintro ⟨hs, rfl⟩
    refine ⟨(utf8 s).length, utf8 s ++ rest, number_eq_ok_iff.2 ⟨hs, by simp [Wire.text]⟩, ?_⟩
    rw [bind_eq_ok_iff]
    refine ⟨utf8 s, rest, raw_eq_ok_iff.2 ⟨rfl, rfl⟩, ?_⟩
    rw [ofUtf8_eq_ok_iff.2 rfl]
    rfl

theorem flag_eq_ok_iff {b : Bool} {octets rest : Octets} :
    flag octets = .ok (b, rest) ↔ octets = Wire.flag b ++ rest := by
  unfold flag
  rw [bind_eq_ok_iff]
  constructor
  · rintro ⟨octet, octets', hoctet, h⟩
    obtain ⟨_, rfl⟩ := number_eq_ok_iff.1 hoctet
    split at h
    · cases h
      rfl
    · cases h
      rfl
    · cases h
  · rintro rfl
    cases b <;> exact ⟨_, _, rfl, rfl⟩

theorem action_eq_ok_iff {a : Action} {octets rest : Octets} :
    action octets = .ok (a, rest) ↔ octets = Wire.action a ++ rest := by
  unfold action
  rw [bind_eq_ok_iff]
  constructor
  · rintro ⟨tag, octets', htag, h⟩
    obtain ⟨_, rfl⟩ := number_eq_ok_iff.1 htag
    cases ha : Action.ofTag? tag with
    | none =>
      rw [ha] at h
      cases h
    | some a' =>
      rw [ha] at h
      cases h
      obtain rfl := Action.ofTag?_eq_some_iff.1 ha
      rfl
  · rintro rfl
    cases a <;> exact ⟨_, _, rfl, rfl⟩

end Reader

end DatagramSession.Wire
