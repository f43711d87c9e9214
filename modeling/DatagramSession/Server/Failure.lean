import DatagramSession.Errand
import DatagramSession.Network.IoError
import DatagramSession.Server.Settings
import DatagramSession.Wire.Fault

/-!
# Failures of a server
-/

namespace DatagramSession.Server

inductive Failure where
  | cannotListen (address : String) (cause : IoError)
  | socket (cause : IoError)
  | wire (failure : Wire.Failure)
  | mismatch (m : Mismatch)
  | outboxClosed
  | settings (reason : String)
deriving DecidableEq, Repr

namespace Failure

def ofFlaw (flaw : Settings.Flaw) : Failure := .settings flaw.reason

/-- The text of a failure; a failure of the wire speaks for itself. -/
def message : Failure → String
  | cannotListen address cause => s!"cannot listen on {address}: {cause.message}"
  | socket cause => "socket error: " ++ cause.message
  | wire failure => failure.message
  | mismatch m => "invalid package for action " ++ m.action.shown
  | outboxClosed => "response channel closed"
  | settings reason => "invalid configuration: " ++ reason

/-- Another failure lies under this one. -/
def hasCause : Failure → Bool
  | cannotListen .. | socket _ => true
  | wire failure => failure.hasCause
  | _ => false

end Failure

end DatagramSession.Server
