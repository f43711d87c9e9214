import DatagramSession.Server.Desk
import DatagramSession.Server.Lifecycle
import DatagramSession.Server.Settings
import DatagramSession.Wire.Envelope

/-!
# The running server

A running server is its parts and what they share: one reader of the socket, the desk with its
tasks, one writer, the lifecycle, and a supervisor that retires the server once reader and writer
have ended.  `Server.step` is one move of one part or of the surroundings; parts move one at a
time, in any order, and a run is any sequence of moves that are possible.
-/

namespace DatagramSession

/-- A datagram with the address that it comes from or goes to. -/
structure Datagram where
  peer : Address
  contents : Octets
deriving DecidableEq, Repr

namespace Server

/-- What the reader is doing. -/
inductive Reading where
  | ready
  /-- A request was read, and waits for a permit. -/
  | admitting (errand : Errand)
  /-- A permit was taken for a request, and its task is about to start. -/
  | admitted (errand : Errand)
  | ended
deriving DecidableEq, Repr

/-- What the writer is doing. -/
inductive Writing where
  | ready
  /-- A reply is being written; the server stops after it or not. -/
  | busy (datagram : Datagram) (closes : Bool)
  | ended
deriving DecidableEq, Repr

/-- A possible move of a running server. -/
inductive Move where
  /-- A datagram reaches the socket. -/
  | arrive (datagram : Datagram)
  /-- An owner stops the server. -/
  | stop
  /-- An owner saves an id in the table. -/
  | save (id : SessionId) (now : Instant)
  /-- An owner queues a reply of its own. -/
  | push (reply : Reply)
  /-- An owner gives up a sender onto the outbox. -/
  | letGo
  /-- An owner that waits for the end of the server sees it. -/
  | join
  /-- The reader takes the next datagram. -/
  | read
  /-- The socket cannot be read. -/
  | failRead
  /-- The reader takes a permit. -/
  | accept
  /-- The reader starts a task. -/
  | start
  /-- The reader ends, because the server is stopping. -/
  | quit
  | task (m : Task.Move)
  /-- The writer takes the next reply. -/
  | take
  /-- The writer's datagram is written. -/
  | write
  /-- The writer's datagram cannot be written. -/
  | failWrite
  /-- The writer ends, because nobody can queue a reply any more. -/
  | finish
  /-- The supervisor retires the server. -/
  | retire
deriving DecidableEq, Repr

end Server

structure Server where
  desk : Server.Desk
  lifecycle : Server.Lifecycle
  reading : Server.Reading
  writing : Server.Writing
  /-- The datagrams that have reached the socket and are not read, oldest first. -/
  inbox : List Datagram
  /-- The datagrams that have been written, oldest first. -/
  written : List Datagram
  /-- The senders onto the outbox that owners have. -/
  spare : Nat
deriving DecidableEq, Repr

namespace Server

/-- A server that has just begun to listen, with so many senders in the hands of owners. -/
def opened (spare : Nat) (settings : Settings) : Server where
  desk := .opened settings.workers settings.outboxCapacity
  lifecycle := { Lifecycle.created with stage := .listening }
  reading := .ready
  writing := .ready
  inbox := []
  written := []
  spare := spare

/-- A server that begins to listen, or none when its outbox or its permits cannot be made. -/
def spawnWith (spare : Nat) (settings : Settings) : Option Server :=
  if settings.isSpawnable then some (opened spare settings) else none

/-- A server that begins to listen, with every sender in its own hands. -/
def spawn (settings : Settings) : Option Server := spawnWith 0 settings

def stage (s : Server) : Stage := s.lifecycle.stage

/-- Everybody who can still queue a reply: the reader, the live tasks, and owners. -/
def senders (s : Server) : Nat :=
  (if s.reading = .ended then 0 else 1) + s.desk.tasks.length + s.spare

/-! ## The parts -/

/-- The reader takes a datagram, of which it has room for the limit.  What is not a request is
dropped. -/
def read (s : Server) : Option Server :=
  match s.reading, s.inbox with
  | .ready, datagram :: rest =>
    match Request.decode (datagram.contents.take Wire.limit) with
    | .ok request =>
      some { s with inbox := rest, reading := .admitting (.ofRequest datagram.peer request) }
    | .error _ => some { s with inbox := rest }
  | _, _ => none

def failRead (s : Server) : Option Server :=
  match s.reading with
  | .ready => some { s with reading := .ended, lifecycle := s.lifecycle.stopped }
  | _ => none

def accept (s : Server) : Option Server :=
  match s.reading with
  | .admitting errand =>
    if 0 < s.desk.permits then
      some { s with
        reading := .admitted errand
        desk := { s.desk with permits := s.desk.permits - 1 } }
    else none
  | _ => none

def start (s : Server) : Option Server :=
  match s.reading with
  | .admitted errand => some { s with reading := .ready, desk := s.desk.start errand }
  | _ => none

/-- A reader that waits for a datagram or for a permit ends when the server is stopping. -/
def quit (s : Server) : Option Server :=
  match s.reading with
  | .ready | .admitting _ =>
    if s.lifecycle.isCancelled then some { s with reading := .ended } else none
  | _ => none

/-- The writer takes the next reply; one that exceeds the limit is skipped. -/
def take (s : Server) : Option Server :=
  match s.writing, s.desk.outbox.take? with
  | .ready, some (reply, outbox) =>
    let writing := match reply.response.encode with
      | .ok contents => .busy ⟨reply.recipient, contents⟩ reply.closes
      | .error _ => .ready
    some { s with writing := writing, desk := { s.desk with outbox := outbox } }
  | _, _ => none

def write (s : Server) : Option Server :=
  match s.writing with
  | .busy datagram closes =>
    some { s with
      writing := .ready
      written := s.written ++ [datagram]
      lifecycle := if closes then s.lifecycle.stopped else s.lifecycle }
  | _ => none

/-- The writer is gone, and what was queued for it. -/
def endWriting (s : Server) : Server :=
  { s with writing := .ended, desk := { s.desk with outbox := s.desk.outbox.discard } }

def failWrite (s : Server) : Option Server :=
  match s.writing with
  | .busy .. => some { s.endWriting with lifecycle := s.lifecycle.stopped }
  | _ => none

def finish (s : Server) : Option Server :=
  match s.writing, s.desk.outbox.queue with
  | .ready, [] => if s.senders = 0 then some s.endWriting else none
  | _, _ => none

def retire (s : Server) : Option Server :=
  if s.reading = .ended ∧ s.writing = .ended ∧ s.stage ≠ .stopped then
    some { s with lifecycle := { s.lifecycle with stage := .stopped } }
  else none

/-! ## Owners -/

def stop (s : Server) : Server := { s with lifecycle := s.lifecycle.stopped }

def save (s : Server) (id : SessionId) (now : Instant) : Server :=
  { s with desk := { s.desk with table := (s.desk.table.save id now).2 } }

def push (s : Server) (reply : Reply) : Option Server :=
  if 0 < s.spare then
    (s.desk.outbox.push? reply).map fun outbox => { s with desk := { s.desk with outbox := outbox } }
  else none

def letGo (s : Server) : Option Server :=
  if 0 < s.spare then some { s with spare := s.spare - 1 } else none

def join (s : Server) : Option Server := if s.stage = .stopped then some s else none

/-! ## Moves -/

/-- The server after a move, or none when the move is not possible. -/
def step (s : Server) : Move → Option Server
  | .arrive datagram => some { s with inbox := s.inbox ++ [datagram] }
  | .stop => some s.stop
  | .save id now => some (s.save id now)
  | .push reply => s.push reply
  | .letGo => s.letGo
  | .join => s.join
  | .read => s.read
  | .failRead => s.failRead
  | .accept => s.accept
  | .start => s.start
  | .quit => s.quit
  | .task m => (s.desk.step s.lifecycle.isCancelled m).map fun desk => { s with desk := desk }
  | .take => s.take
  | .write => s.write
  | .failWrite => s.failWrite
  | .finish => s.finish
  | .retire => s.retire

/-- The server after a run of moves, or none when one of them is not possible. -/
def run (s : Server) : List Move → Option Server
  | [] => some s
  | m :: rest => (s.step m).bind fun s' => s'.run rest

/-! ## Work left -/

def Reading.load : Reading → Nat
  | ready => 1
  | admitting _ => 8
  | admitted _ => 7
  | ended => 0

def Writing.load : Writing → Nat
  | ready => 1
  | busy .. => 3
  | ended => 0

/-- A task that has yet to get in line weighs more than one that has. -/
def Desk.taskLoad (d : Desk) (t : Task) : Nat :=
  if d.outbox.isOpen && t.ticket ∉ d.outbox.line && t.ticket ∉ d.outbox.granted then 5 else 4

def Desk.load (d : Desk) : Nat := d.tasks.foldr (fun t rest => d.taskLoad t + rest) 0

/-- A bound on the moves that the parts can make without the surroundings. -/
def load (s : Server) : Nat :=
  (if s.reading = .ended then 0 else 8 * s.inbox.length) + s.reading.load
    + s.desk.load + 3 * s.desk.outbox.queue.length
    + s.writing.load + (if s.stage = .stopped then 0 else 1)

end Server

end DatagramSession
