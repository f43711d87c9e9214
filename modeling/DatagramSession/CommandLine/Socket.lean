import Std.Async.DNS
import Std.Async.Signal
import Std.Async.Timer
import Std.Async.UDP
import DatagramSession.Errand
import DatagramSession.Network.Lookup
import DatagramSession.Wire.Envelope

/-!
# Sockets

The calls that the programs make on real sockets, in the terms of the library: addresses, octets
and socket errors.
-/

namespace DatagramSession.CommandLine

open Std.Async Std.Net

def socketAddress : Address → SocketAddress
  | .v4 host port =>
    let octet (place : Nat) : UInt8 := .ofNat (host >>> (8 * place))
    .v4 ⟨.ofParts (octet 3) (octet 2) (octet 1) (octet 0), .ofNat port⟩
  | .v6 host port _ =>
    let group (place : Nat) : UInt16 := .ofNat (host >>> (16 * place))
    .v6 ⟨.ofParts (group 7) (group 6) (group 5) (group 4) (group 3) (group 2) (group 1) (group 0),
      .ofNat port⟩

def hostOf : IPAddr → Nat
  | .v4 a => a.octets.toList.foldl (fun host octet => host * 256 + octet.toNat) 0
  | .v6 a => a.segments.toList.foldl (fun host group => host * 65536 + group.toNat) 0

/-- A host and a port. -/
def addressOf (host : IPAddr) (port : Nat) : Address :=
  match host with
  | .v4 _ => .v4 (hostOf host) port
  | .v6 _ => .v6 (hostOf host) port 0

/-- A failed call; of a refused connection the system's number is known. -/
def ioError (e : IO.Error) : IoError :=
  match e with
  | .noSuchThing _ code _ =>
    if code.toNat + 111 = 0x100000000 then .connectionRefused else .other (toString e)
  | _ => .other (toString e)

/-- The value of a call, or why it failed. -/
def attempt {α : Type} (call : IO α) : IO (Except IoError α) := do
  try
    return .ok (← call)
  catch e =>
    return .error (ioError e)

/-- The addresses that a text stands for; a valid name that the library does not know is asked
for. -/
def lookUp (text : String) : IO (Except IoError (List Address)) := do
  let known := Address.resolve text
  match known, Address.splitPort? text with
  | .error cause, some (name, port) =>
    if cause = .noNameServer then
      match ← attempt (DNS.getAddrInfo name port).block, Decimal.unsigned? 65535 port with
      | .ok hosts, some port => return .ok (hosts.toList.map (addressOf · port))
      | _, _ => return known
    else return known
  | _, _ => return known

/-- A socket at the first of some addresses that it can be bound to. -/
def boundFirst : List Address → IO (Except IoError UDP.Socket)
  | [] => return .error (.other "could not resolve to any address")
  | address :: rest => do
    let bound ← attempt do
      let socket ← UDP.Socket.mk
      socket.bind (socketAddress address)
      return socket
    match bound, rest with
    | .error _, _ :: _ => boundFirst rest
    | _, _ => return bound

def octetsOf (contents : ByteArray) : Octets := contents.toList

def bytesOf (contents : Octets) : ByteArray := ⟨contents.toArray⟩

def room : UInt64 := .ofNat Wire.limit

/-- A fresh id and the time. -/
def draw : IO Draw := do
  let bytes ← IO.getRandomBytes 18
  return ⟨.random (bytes.toList.foldl (fun seed byte => seed * 256 + byte.toNat) 0), ← IO.monoNanosNow⟩

end DatagramSession.CommandLine
