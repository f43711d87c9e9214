import DatagramSession.Request
import DatagramSession.Response
import DatagramSession.Wire.Reader

/-!
# Envelopes on the wire

An envelope is its header and then its body, field after field.  What is written is refused above
the limit.  Reading takes two passes: the header tells the action, and then the octets are read
from the start as the envelope of that action; octets after the envelope are ignored.
-/

namespace DatagramSession

open Wire

/-! ## Written forms -/

def RequestHeader.written (h : RequestHeader) : Octets :=
  Wire.action h.action ++ Wire.text h.session.text

def Request.written : Request → Octets
  | .login header account password =>
    header.written ++ Wire.text account ++ Wire.text password
  | .shutdown header => header.written

def ResponseHeader.written (h : ResponseHeader) : Octets :=
  Wire.action h.action ++ Wire.text h.session.text ++ Wire.flag h.isOk ++ Wire.text h.error

def Response.written : Response → Octets
  | .login header welcome => header.written ++ Wire.text welcome
  | .shutdown header => header.written
  | .refusal header => header.written

/-! ## Encoding -/

namespace Wire

/-- The octets of the largest datagram that is sent or taken. -/
def limit : Nat := 61440

/-- The octets, unless they exceed the limit. -/
def sealed (octets : Octets) : Except Failure Octets :=
  if limit < octets.length then .error (.tooLarge octets.length limit) else .ok octets

end Wire

def Request.encode (r : Request) : Except Failure Octets := Wire.sealed r.written

def Response.encode (r : Response) : Except Failure Octets := Wire.sealed r.written

/-! ## Readers -/

namespace Wire.Reader

def requestHeader : Reader RequestHeader := do
  let action ← action
  let session ← text
  pure ⟨action, ⟨session⟩⟩

def responseHeader : Reader ResponseHeader := do
  let action ← action
  let session ← text
  let isOk ← flag
  let error ← text
  pure ⟨action, ⟨session⟩, isOk, error⟩

/-- The whole request of an action. -/
def request : Action → Reader Request
  | .login => do
    let header ← requestHeader
    let account ← text
    let password ← text
    pure (.login header account password)
  | .shutdown => do
    let header ← requestHeader
    pure (.shutdown header)

/-- The whole successful response to an action. -/
def response : Action → Reader Response
  | .login => do
    let header ← responseHeader
    let welcome ← text
    pure (.login header welcome)
  | .shutdown => do
    let header ← responseHeader
    pure (.shutdown header)

/-- What a reader makes of the front of the octets. -/
def front {α : Type} (reader : Reader α) (octets : Octets) : Except Failure α :=
  match reader.run octets with
  | .ok (a, _) => .ok a
  | .error fault => .error (.malformed fault)

end Wire.Reader

/-! ## Decoding -/

def RequestHeader.decode (octets : Octets) : Except Failure RequestHeader :=
  Reader.requestHeader.front octets

def ResponseHeader.decode (octets : Octets) : Except Failure ResponseHeader :=
  Reader.responseHeader.front octets

/-- The request that a datagram starts with. -/
def Request.decode (octets : Octets) : Except Failure Request := do
  let header ← RequestHeader.decode octets
  (Reader.request header.action).front octets

/-- The response that a datagram starts with, to a request of the expected action.  A header that
reports a failure is a refusal, and no body is read. -/
def Response.decode (expected : Action) (octets : Octets) : Except Failure Response := do
  let header ← ResponseHeader.decode octets
  if header.action ≠ expected then .error (.unexpectedAction expected header.action)
  else if !header.isOk then .ok (.refusal header)
  else (Reader.response header.action).front octets

end DatagramSession
