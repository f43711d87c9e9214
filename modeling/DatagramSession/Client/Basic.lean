import DatagramSession.Client.Failure
import DatagramSession.Network.Address
import DatagramSession.Wire.Envelope

/-!
# The client

A client makes one request at a time over its own socket.  It stamps every request with the session
of its last successful response, drops what it has noticed in its queue, sends, and takes the next
datagram that it notices for the response.

What has reached a socket lies in its queue, but a client sees no more of the queue than it has
noticed.  Emptying the queue does not wait, so it stops short of what has not been noticed, and a
request that waits may lose its patience before it notices anything.
-/

namespace DatagramSession

structure Client where
  server : Address
  /-- The session of the last successful response. -/
  session : SessionId
  /-- How long the client waits for a response. -/
  patience : Duration
deriving DecidableEq, Repr

namespace Client

def standardPatience : Duration := .ofSeconds 10

/-- A client that has no session yet. -/
def ofServer (server : Address) (patience : Duration) : Client := ⟨server, .absent, patience⟩

/-- What a socket has for its reader. -/
inductive Arrival where
  | datagram (contents : Octets)
  | failure (cause : IoError)
deriving DecidableEq, Repr

/-- The request as the client sends it. -/
def stamp (c : Client) (r : Request) : Request := r.withSession c.session

/-- Empties the noticed part of a queue and counts its datagrams.  A refused connection is left over
from an earlier request and is passed over; any other failure ends the emptying. -/
def discard : Nat → List Arrival → Except IoError Nat × List Arrival
  | 0, queue => (.ok 0, queue)
  | _ + 1, [] => (.ok 0, [])
  | noticed + 1, .datagram _ :: rest =>
    match discard noticed rest with
    | (.ok count, queue) => (.ok (count + 1), queue)
    | (.error cause, queue) => (.error cause, queue)
  | noticed + 1, .failure cause :: rest =>
    if cause = .connectionRefused then discard noticed rest else (.error cause, rest)

/-- What a datagram says to a request of an action.  Only a successful response changes the session;
of a datagram above the limit there is room for its front alone. -/
def conclude (c : Client) (action : Action) (contents : Octets) :
    Except Failure Response × Client :=
  match Response.decode action (contents.take Wire.limit) with
  | .error failure => (.error (.wire failure), c)
  | .ok (.refusal header) => (.error (.rejected header.error), c)
  | .ok response => (.ok response, { c with session := response.session })

/-- Takes the first arrival for the response, if it is noticed; else the patience ends. -/
def receive (c : Client) (action : Action) (noticed : Nat) (queue : List Arrival) :
    (Except Failure Response × Client) × List Arrival :=
  match (queue.take noticed).head? with
  | none => ((.error (.silence c.patience), c), queue)
  | some (.failure cause) => ((.error (.socket cause), c), queue.tail)
  | some (.datagram contents) => (c.conclude action contents, queue.tail)

/-- The datagram of a request, once the noticed part of the queue has been emptied, or why there is
none. -/
def prepare (c : Client) (r : Request) (noticed : Nat) (queue : List Arrival) :
    Except Failure Octets × List Arrival :=
  match discard noticed queue with
  | (.error cause, queue) => (.error (.socket cause), queue)
  | (.ok _, queue) => ((c.stamp r).encode.mapError .wire, queue)

/-- What has become of a request. -/
structure Exchange where
  result : Except Failure Response
  client : Client
  /-- The datagram that was sent. -/
  sent : Option Octets
  /-- What lies in the queue afterwards. -/
  queue : List Arrival

/-- What happens at a client's socket while a request waits for its response. -/
structure Wait (α : Type) where
  /-- What reaches the socket, oldest first. -/
  arrivals : List α
  /-- So much of its queue the client notices before its patience ends. -/
  noticed : Nat

namespace Wait

variable {α β : Type}

def map (f : α → β) (w : Wait α) : Wait β := ⟨w.arrivals.map f, w.noticed⟩

/-- What the request takes for its response, when this had not been noticed before. -/
def heard? (w : Wait α) (unnoticed : List α) : Option α :=
  ((unnoticed ++ w.arrivals).take w.noticed).head?

end Wait

/-- A whole request of a client that has noticed so much of its queue.  `network` takes the datagram
and says what then happens at the client's socket, or why the datagram cannot be sent. -/
def request (c : Client) (r : Request) (noticed : Nat) (queue : List Arrival)
    (network : Octets → Except IoError (Wait Arrival)) : Exchange :=
  match c.prepare r noticed queue with
  | (.error failure, queue) => ⟨.error failure, c, none, queue⟩
  | (.ok contents, queue) =>
    match network contents with
    | .error cause => ⟨.error (.socket cause), c, none, queue⟩
    | .ok wait =>
      let ((result, client), queue) := c.receive r.action wait.noticed (queue ++ wait.arrivals)
      ⟨result, client, some contents, queue⟩

end Client

end DatagramSession
