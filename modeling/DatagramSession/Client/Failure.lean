import DatagramSession.Duration
import DatagramSession.Network.IoError
import DatagramSession.Wire.Fault

/-!
# Failures of a client
-/

namespace DatagramSession.Client

inductive Failure where
  | unresolved (address : String)
  | socket (cause : IoError)
  | wire (failure : Wire.Failure)
  /-- No response came in time. -/
  | silence (waited : Duration)
  /-- The server refused the request. -/
  | rejected (reason : String)
deriving DecidableEq, Repr

namespace Failure

/-- The text of a failure; a failure of the wire speaks for itself. -/
def message : Failure → String
  | unresolved address => "cannot resolve server address " ++ address
  | socket cause => "socket error: " ++ cause.message
  | wire failure => failure.message
  | silence waited => "no response within " ++ waited.text
  | rejected reason => "request rejected: " ++ reason

/-- Another failure lies under this one. -/
def hasCause : Failure → Bool
  | socket _ => true
  | wire failure => failure.hasCause
  | _ => false

end Failure

end DatagramSession.Client
