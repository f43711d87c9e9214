import DatagramSession.Action
import DatagramSession.SessionId

/-!
# Fields on the wire

Numbers are little-endian and of fixed width, a text is its length in octets as eight octets and
then its UTF-8, a flag is one octet, an action is its number as four octets.
-/

namespace DatagramSession

/-- The contents of a datagram, or a part of them. -/
abbrev Octets := List UInt8

namespace Wire

/-- The low `width` octets of a number, least first. -/
def littleEndian : Nat → Nat → Octets
  | 0, _ => []
  | width + 1, n => UInt8.ofNat n :: littleEndian width (n / 256)

/-- The number that octets, least first, stand for. -/
def ofLittleEndian : Octets → Nat
  | [] => 0
  | octet :: rest => octet.toNat + 256 * ofLittleEndian rest

/-- A text as UTF-8. -/
def utf8 (s : String) : Octets := s.toByteArray.data.toList

def text (s : String) : Octets := littleEndian 8 (utf8 s).length ++ utf8 s

def flag (b : Bool) : Octets := [if b then 1 else 0]

def action (a : Action) : Octets := littleEndian 4 a.tag

@[simp] theorem length_littleEndian (width n : Nat) : (littleEndian width n).length = width := by
  induction width generalizing n with
  | zero => rfl
  | succ width ih => simp [littleEndian, ih]

/-- Reading back what was written, for a number of no more than `width` octets. -/
theorem ofLittleEndian_littleEndian {width n : Nat} (h : n < 1 <<< (8 * width)) :
    ofLittleEndian (littleEndian width n) = n := by
  induction width generalizing n with
  | zero =>
    have hn : n = 0 := by simpa using h
    simp [littleEndian, ofLittleEndian, hn]
  | succ width ih =>
    have hd : n / 256 < 1 <<< (8 * width) := by
      rw [Nat.mul_succ, Nat.shiftLeft_add] at h
      omega
    simp only [littleEndian, ofLittleEndian, ih hd]
    simp only [UInt8.toNat_ofNat']
    omega

/-- Writing what was read gives the same octets. -/
theorem littleEndian_ofLittleEndian (octets : Octets) :
    littleEndian octets.length (ofLittleEndian octets) = octets := by
  induction octets with
  | nil => rfl
  | cons octet rest ih =>
    have hb := octet.toNat_lt
    have hd : (octet.toNat + 256 * ofLittleEndian rest) / 256 = ofLittleEndian rest := by omega
    simp only [List.length_cons, littleEndian, ofLittleEndian, hd, ih]
    congr 1
    apply UInt8.toNat_inj.1
    simp only [UInt8.toNat_ofNat']
    omega

/-- What octets stand for fits into as many octets. -/
theorem ofLittleEndian_lt (octets : Octets) : ofLittleEndian octets < 1 <<< (8 * octets.length) := by
  induction octets with
  | nil => decide
  | cons octet rest ih =>
    have hb := octet.toNat_lt
    rw [List.length_cons, Nat.mul_succ, Nat.shiftLeft_add]
    simp only [ofLittleEndian]
    omega

@[simp] theorem length_text (s : String) : (text s).length = 8 + (utf8 s).length := by
  simp [text]

@[simp] theorem length_flag (b : Bool) : (flag b).length = 1 := rfl

@[simp] theorem length_action (a : Action) : (action a).length = 4 := by
  simp [action]

end Wire

end DatagramSession
