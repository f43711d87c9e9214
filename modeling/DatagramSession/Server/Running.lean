import DatagramSession.Network.Host
import DatagramSession.Network.Lookup
import DatagramSession.Server.Failure
import DatagramSession.Server.Schedule

/-!
# A server on a host

A single thread moves the parts of a server by its schedule until none of them can move.  The host
decides which datagrams can be written.  The first write waits until the thread has looked at the
socket; that is when a full outbox shows.
-/

namespace DatagramSession.Server

/-- The port that a host gives to a socket that asks for any. -/
def anyPort : Nat := 49152

/-- The address that a server with these settings listens on. -/
def bind (host : Host) (settings : Settings) : Except Failure Address := do
  settings.check.mapError .ofFlaw
  let address ← (Address.resolve settings.bindAddress >>= host.bindFirst).mapError
    (.cannotListen settings.bindAddress)
  pure (if address.port = 0 then address.withPort anyPort else address)

structure Running where
  host : Host
  address : Address
  server : Server
  /-- What the n-th settling is handed. -/
  draws : Nat → Draw
  /-- The settlings so far. -/
  drawn : Nat
  /-- The thread has looked at the socket. -/
  hasPolled : Bool

namespace Running

def onHost (host : Host) (address : Address) (draws : Nat → Draw) (server : Server) : Running :=
  ⟨host, address, server, draws, 0, false⟩

/-- What becomes of the writer's datagram. -/
def writeMove (r : Running) : List Move :=
  match r.server.writing with
  | .busy datagram _ =>
    match r.host.send r.address datagram.peer datagram.contents.length with
    | .ok () => [.write]
    | .error _ => [.failWrite]
  | _ => []

/-- The moves that the thread tries, in this order. -/
def candidates (r : Running) (mayWrite : Bool) : List Move :=
  r.server.schedule (r.draws r.drawn) ++ (if mayWrite then r.writeMove else [])

/-- The running server after a move. -/
def after (r : Running) (m : Move) : Option Running :=
  (r.server.step m).map fun server =>
    match m with
    | .task (.serve ..) => { r with server := server, drawn := r.drawn + 1 }
    | _ => { r with server := server }

def advance (r : Running) (mayWrite : Bool) : Option Running :=
  (r.candidates mayWrite).findSome? r.after

/-- Up to `fuel` moves of the parts. -/
def advanceFor (mayWrite : Bool) : Nat → Running → Running
  | 0, r => r
  | fuel + 1, r =>
    match r.advance mayWrite with
    | some r' => advanceFor mayWrite fuel r'
    | none => r

/-- The parts move until none can, short of a write that waits for a look at the socket. -/
def churn (r : Running) : Running := advanceFor r.hasPolled r.server.load r

/-- The parts move until none can. -/
def settle (r : Running) : Running :=
  { advanceFor true r.server.load r with hasPolled := true }

/-- A move of the surroundings; one that is not possible changes nothing. -/
def move (r : Running) (m : Move) : Running := (r.after m).getD r

/-- Datagrams reach the socket, and the server deals with them. -/
def deliver (r : Running) (datagrams : List Datagram) : Running :=
  (datagrams.foldl (fun r d => r.move (.arrive d)) r).settle

/-- An owner queues a reply, after waiting for a slot if need be.  It is not accepted once the
writer is gone. -/
def push (r : Running) (reply : Reply) : Bool × Running :=
  let attempt (r : Running) : Option Running := r.after (.push reply)
  match attempt r with
  | some r' => (true, r')
  | none =>
    let r := r.churn
    match attempt r with
    | some r' => (true, r')
    | none =>
      let r := r.settle
      match attempt r with
      | some r' => (true, r')
      | none => (false, r)

/-- An owner queues replies one after the other. -/
def pushAll (r : Running) (replies : List Reply) : List Bool × Running :=
  replies.foldl
    (fun (accepted, r) reply =>
      let (ok, r) := r.push reply
      (accepted ++ [ok], r))
    ([], r)

/-- A stop of an owner, and whether it was the one that began the stopping. -/
def stop (r : Running) : Bool × Running := (r.server.lifecycle.stop.1, r.move .stop)

end Running

end DatagramSession.Server
