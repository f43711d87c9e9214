/-!
# Where octets stop being UTF-8

`IllFormed.find` walks octets character by character and names the first place at which they stop
being UTF-8: how many octets before it are text, and how many octets the offending sequence has.
The walk refuses at the first octet that rules the text out, so a sequence that merely runs out of
octets has no extent.
-/

namespace DatagramSession

/-- A place at which octets stop being UTF-8. -/
structure IllFormed where
  /-- The octets before the place; all of them are text. -/
  valid : Nat
  /-- The octets of the offending sequence, or none when the octets end inside a character. -/
  extent : Option Nat
deriving DecidableEq, Repr

namespace IllFormed

/-- The ranges that the octets after a first octet must lie in, or none where no character starts
with that octet. -/
def continuation (first : UInt8) : Option (List (UInt8 × UInt8)) :=
  let any : UInt8 × UInt8 := (0x80, 0xBF)
  if first < 0x80 then some []
  else if first < 0xC2 then none
  else if first < 0xE0 then some [any]
  else if first = 0xE0 then some [(0xA0, 0xBF), any]
  else if first = 0xED then some [(0x80, 0x9F), any]
  else if first < 0xF0 then some [any, any]
  else if first = 0xF0 then some [(0x90, 0xBF), any, any]
  else if first < 0xF4 then some [any, any, any]
  else if first = 0xF4 then some [(0x80, 0x8F), any, any]
  else none

/-- `scan start seen owed octets`: the character under way began at `start`, has shown `seen`
octets and still owes one octet in each range of `owed`. -/
def scan : Nat → Nat → List (UInt8 × UInt8) → List UInt8 → Option IllFormed
  | _, _, [], [] => none
  | start, _, _ :: _, [] => some ⟨start, none⟩
  | start, seen, [], octet :: rest =>
    match continuation octet with
    | some owed => scan (start + seen) 1 owed rest
    | none => some ⟨start + seen, some 1⟩
  | start, seen, (low, high) :: owed, octet :: rest =>
    if low ≤ octet ∧ octet ≤ high then scan start (seen + 1) owed rest
    else some ⟨start, some seen⟩

/-- The first place at which octets stop being UTF-8. -/
def find (octets : List UInt8) : Option IllFormed :=
  scan 0 0 [] octets

def message (place : IllFormed) : String :=
  match place.extent with
  | some octets => s!"invalid utf-8 sequence of {octets} bytes from index {place.valid}"
  | none => s!"incomplete utf-8 byte sequence from index {place.valid}"

end IllFormed

end DatagramSession
