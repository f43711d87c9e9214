import DatagramSession.Client.Connection
import DatagramSession.CommandLine.ClientProgram
import DatagramSession.CommandLine.ServerProgram
import DatagramSession.CommandLine.Socket
import DatagramSession.Server.Schedule

/-!
# The program

The first word of the command line chooses the server or the client; the others are its options.
The server's parts are moved by its schedule, and what the schedule leaves over is done here: a
datagram is written, and with nothing left to move the next one is awaited.  The outbox is empty by
then, so no task ever waits and no patience is needed.
-/

namespace DatagramSession

open CommandLine Std.Async

/-! ## Serving -/

/-- What the writer's datagram comes to. -/
def writeDatagram (socket : UDP.Socket) (d : Datagram) : IO Server.Move := do
  match ← attempt (socket.send (bytesOf d.contents) (some (socketAddress d.peer))).block with
  | .ok () => return .write
  | .error _ => return .failWrite

/-- The next datagram, or the interrupt of a user. -/
def awaitMove (socket : UDP.Socket) (interrupt : Signal.Waiter) : IO Server.Move := do
  let event := Selectable.one #[
    .case (socket.recvSelector room) fun (contents, sender) =>
      return match sender with
        | some sender =>
          .arrive ⟨addressOf sender.ipAddr sender.port.toNat, octetsOf contents⟩
        | none => Server.Move.failRead,
    .case interrupt.selector fun () => return .stop]
  match ← attempt event.block with
  | .ok move => return move
  | .error _ => return .failRead

/-- Moves a server until it has stopped. -/
partial def serve (socket : UDP.Socket) (interrupt : Signal.Waiter) (s : Server) : IO Unit := do
  match s.advance (← draw), s.writing with
  | some s, _ => serve socket interrupt s
  | none, .busy d _ => after (← writeDatagram socket d)
  | none, _ => if s.stage = .stopped then return else after (← awaitMove socket interrupt)
where
  after (move : Server.Move) : IO Unit := serve socket interrupt ((s.step move).getD s)

def runServer (words : List String) : IO Report := do
  match ServerProgram.start words with
  | .error report => return report
  | .ok settings =>
    match settings.check, ← lookUp settings.bindAddress with
    | .ok (), .ok addresses =>
      match ← boundFirst addresses, Server.spawn settings with
      | .error _, _ => return ServerProgram.failed
      | .ok _, none => return ServerProgram.crashed
      | .ok socket, some s =>
        serve socket (← Signal.Waiter.mk .sigint false) s
        return ServerProgram.finished
    | _, _ => return ServerProgram.failed

/-! ## Asking -/

/-- What is noticed in a socket's queue. -/
partial def pending (socket : UDP.Socket) : IO (List Client.Arrival) := do
  match ← attempt (socket.recvSelector room).tryFn.block with
  | .ok none => return []
  | .ok (some (contents, _)) => return .datagram (octetsOf contents) :: (← pending socket)
  | .error .connectionRefused => return .failure .connectionRefused :: (← pending socket)
  | .error cause => return [.failure cause]

/-- The next arrival at a socket, unless the patience ends before. -/
def nextArrival (socket : UDP.Socket) (patience : Duration) : IO (List Client.Arrival) := do
  let milliseconds := patience.nanoseconds / 1000000
  let event : Async (List Client.Arrival) := do
    Selectable.one #[
      .case (socket.recvSelector room) fun (contents, _) =>
        return [.datagram (octetsOf contents)],
      .case (← Selector.sleep (.ofNat milliseconds)) fun () => return []]
  match ← attempt event.block with
  | .ok arrivals => return arrivals
  | .error cause => return [.failure cause]

/-- Connects a socket to the server that a text stands for. -/
def connect (socket : UDP.Socket) (server : String) (patience : Duration) :
    IO (Except Client.Failure Client) := do
  match ← lookUp server with
  | .error cause => return .error (.socket cause)
  | .ok [] => return .error (.unresolved server)
  | .ok (address :: _) =>
    let opened ← attempt do
      socket.bind (socketAddress (Client.wildcard address))
      socket.connect (socketAddress address)
    return (opened.mapError .socket).map fun () => .ofServer address patience

/-- A whole request over a socket. -/
def ask (socket : UDP.Socket) (c : Client) (r : Request) :
    IO (Except Client.Failure Response × Client) := do
  let queue ← pending socket
  match (c.prepare r queue.length queue).1 with
  | .error failure => return (.error failure, c)
  | .ok contents =>
    match ← attempt (socket.send (bytesOf contents)).block with
    | .error cause => return (.error (.socket cause), c)
    | .ok () =>
      let arrivals ← nextArrival socket c.patience
      return (c.receive r.action arrivals.length arrivals).1

def runClient (words : List String) : IO Report := do
  let socket ← UDP.Socket.mk
  ClientProgram.run ⟨connect socket, ask socket⟩ words

end DatagramSession

open DatagramSession in
/-- Runs the server or the client. -/
def main (words : List String) : IO UInt32 := do
  let report ← match words with
    | "server" :: words => runServer words
    | "client" :: words => runClient words
    | _ => pure ⟨2, ""⟩
  IO.print report.output
  (← IO.getStdout).flush
  return .ofNat report.exit
