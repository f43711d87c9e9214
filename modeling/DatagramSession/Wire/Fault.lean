import DatagramSession.Action
import DatagramSession.Outcome
import DatagramSession.Text.IllFormed

/-!
# Faults of a datagram

Why octets are not an envelope, and why an envelope is not sent or not taken.
-/

namespace DatagramSession

namespace Wire

/-- Why octets are not an envelope. -/
inductive Fault where
  /-- The octets end inside a number, an action or a flag. -/
  | endOfInput
  /-- Fewer octets are left than the length of a text says. -/
  | textCutShort
  | unknownAction (tag : Nat)
  | illFormedText (place : IllFormed)
  | badFlag (octet : Nat)
deriving DecidableEq, Repr

namespace Fault

/-- More octets could mend the fault. -/
def isTruncation : Fault → Bool
  | endOfInput | textCutShort => true
  | _ => false

def message : Fault → String
  | endOfInput => "io error: unexpected end of file"
  | textCutShort => "io error: "
  | unknownAction tag => s!"invalid value: integer `{tag}`, expected variant index 0 <= i < 2"
  | illFormedText place => "string is not valid utf8: " ++ place.message
  | badFlag octet => s!"invalid u8 while decoding bool, expected 0 or 1, found {octet}"

end Fault

/-- Why an envelope is not sent or not taken. -/
inductive Failure where
  | malformed (fault : Fault)
  | tooLarge (size limit : Nat)
  | unexpectedAction (expected actual : Action)
deriving DecidableEq, Repr

namespace Failure

def message : Failure → String
  | malformed fault => "malformed package: " ++ fault.message
  | tooLarge size limit => s!"package of {size} bytes exceeds the {limit} byte limit"
  | unexpectedAction expected actual =>
    s!"invalid response action {actual.shown}, expected {expected.shown}"

/-- Another failure lies under this one. -/
def hasCause : Failure → Bool
  | malformed _ => true
  | _ => false

end Failure

end Wire

end DatagramSession
