import DatagramSession.Client.Basic
import DatagramSession.Network.Host
import DatagramSession.Network.Lookup

/-!
# Connecting a client

A client looks up the address of its server, takes any port of its own and connects it.
-/

namespace DatagramSession.Client

/-- Any host and any port, of the same kind as an address. -/
def wildcard : Address → Address
  | .v4 .. => .v4 0 0
  | .v6 .. => .v6 0 0 0

def connectTo (host : Host) (server : Address) (patience : Duration) : Except Failure Client := do
  (host.bind (wildcard server)).mapError .socket
  (host.connect server).mapError .socket
  pure (.ofServer server patience)

/-- A client of the server that a text stands for, at the first of its addresses. -/
def connect (host : Host) (server : String) (patience : Duration) : Except Failure Client := do
  match ← (Address.resolve server).mapError .socket with
  | [] => .error (.unresolved server)
  | address :: _ => connectTo host address patience

end DatagramSession.Client
