import DatagramSession.Network.Address
import DatagramSession.Network.IoError

/-!
# Hosts

Which sockets a host allows.  Two facts about a host decide it: whether its loopback interface is
up, and whether its processes may take the privileged ports.  A host without any interface has no
routes: every four-octet address can be bound there, but none can be reached.
-/

namespace DatagramSession

structure Host where
  /-- The loopback interface is up; there is no other. -/
  hasLoopback : Bool
  /-- Ports below 1024 may be bound. -/
  isPrivileged : Bool
deriving DecidableEq, Repr

namespace Host

/-- A host without an interface. -/
def isolated : Host := ⟨false, false⟩

def mayTakePort (h : Host) (port : Nat) : Bool :=
  h.isPrivileged || port = 0 || 1024 ≤ port

/-- A four-octet host that every machine has: the wildcard, a group, or everyone. -/
def isShared (host : Nat) : Bool :=
  host >>> 24 = 0 || host >>> 28 = 14 || host = 0xFFFFFFFF

def isLoopback (host : Nat) : Bool := host >>> 24 = 127

/-- A sixteen-octet host that stands for a four-octet one. -/
def mapped? (host : Nat) : Option Nat :=
  if host >>> 32 = 0xFFFF then some (host % 0x100000000) else none

/-- The host has the four-octet address. -/
def hasQuad (h : Host) (quad : Nat) : Bool := !h.hasLoopback || isShared quad || isLoopback quad

/-- A sixteen-octet address of many hosts. -/
def isGroup (host : Nat) : Bool := host >>> 120 = 0xFF

/-- A socket may be bound to the address. -/
def bind (h : Host) (address : Address) : Except IoError Unit :=
  match address with
  | .v4 host port =>
    if !h.hasQuad host then .error .addressNotAvailable
    else if !h.mayTakePort port then .error .permissionDenied
    else .ok ()
  | .v6 host port scope =>
    if !h.mayTakePort port then .error .permissionDenied
    else if Address.isNeighbour host && scope = 0 then .error .invalidArgument
    else if Address.isNeighbour host && scope ≠ Address.loopbackInterface then
      .error .noSuchDevice
    else
      let hasHost := match mapped? host with
        | some quad => h.hasQuad quad
        | none => isGroup host || host = 0 || (h.hasLoopback && host = 1)
      if hasHost then .ok () else .error .addressNotAvailable

/-- The first of some addresses that a socket may be bound to, or why not to the last. -/
def bindFirst (h : Host) : List Address → Except IoError Address
  | [] => .error (.other "could not resolve to any address")
  | address :: rest =>
    match h.bind address, rest with
    | .ok (), _ => .ok address
    | .error cause, [] => .error cause
    | .error _, _ => h.bindFirst rest

/-- There is a route to the address. -/
def connect (h : Host) (address : Address) : Except IoError Unit :=
  let toQuad (host : Nat) : Except IoError Unit :=
    if h.hasLoopback && (isLoopback host || isShared host) then .ok ()
    else .error .networkUnreachable
  match address with
  | .v4 host _ => toQuad host
  | .v6 host _ scope =>
    match mapped? host with
    | some quad => toQuad quad
    | none =>
      if Address.isNeighbour host && scope = 0 then .error .invalidArgument
      else if h.hasLoopback && host ≤ 1 then .ok ()
      else .error .addressNotAvailable

/-- The most octets that one datagram carries. -/
def datagramRoom : Nat := 65507

/-- A socket bound to `source` may send `size` octets to `target`.  A host that is all zeros is the
sender's own. -/
def send (h : Host) (source target : Address) (size : Nat) : Except IoError Unit :=
  match source, target with
  | .v4 .., .v6 .. => .error .familyNotSupported
  | _, _ => do
    if target.port = 0 then .error .invalidArgument
    match target with
    | .v4 0 _ => pure ()
    | _ => h.connect target
    if datagramRoom < size then .error .messageTooLong

end Host

end DatagramSession
