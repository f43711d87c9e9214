import DatagramSession.Network.Address
import DatagramSession.Network.HostName
import DatagramSession.Network.IoError

/-!
# Looking up addresses

A text stands for an address if it is written as one.  Otherwise what follows its last colon must be
a port, and what comes before is a host, which may be a loosely written number or a name and may
have more than one address.
-/

namespace DatagramSession.Address

/-- A number of a loosely written host: hexadecimal after `0x`, octal after `0`, else decimal. -/
def loosePart? (s : String) : Option Nat :=
  match s.toList with
  | ['0'] => some 0
  | '0' :: 'x' :: rest | '0' :: 'X' :: rest => Decimal.digits? 16 rest
  | '0' :: rest => Decimal.digits? 8 rest
  | cs => Decimal.digits? 10 cs

/-- One to four numbers; the last one fills the octets that are left. -/
def loose? (s : String) : Option Nat := do
  let parts ← (s.splitOn ".").mapM loosePart?
  let last ← parts.getLast?
  let first := parts.dropLast
  let room := 1 <<< (8 * (4 - first.length))
  if first.length < 4 ∧ first.all (· < 256) ∧ last < room then
    pure (first.foldl (· * 256 + ·) 0 * room + last)
  else none

/-- The host of a sixteen-octet address whose scope is the name of an interface: only neighbours are
named so, and the loopback interface is the only one. -/
def zoned? (s : String) : Option (Nat × Nat) :=
  match s.splitOn "%" with
  | [host, "lo"] => ((host? host).filter isNeighbour).map (·, loopbackInterface)
  | _ => none

/-- The addresses of a host that is not written by the book.  A star is the local host, of either
kind; a name other than the local one has no address, as there is no name server. -/
def resolveName (name : String) (port : Nat) : Except IoError (List Address) :=
  if name.contains '\x00' then .error .nulInName
  else if name = "*" then .ok [.v6 1 port 0, .loopback port]
  else
    match loose? name, (scoped? name).or (zoned? name) with
    | some host, _ => .ok [.v4 host port]
    | none, some (host, scope) => .ok [.v6 host port scope]
    | none, none =>
      if HostName.same name "localhost" then .ok [.loopback port]
      else .error (if HostName.isValid name then .noNameServer else .noSuchName)

/-- The addresses that a text stands for: an address as it is written, or a host and a port. -/
def resolve (text : String) : Except IoError (List Address) :=
  match ofText? text with
  | some address => .ok [address]
  | none =>
    match splitPort? text with
    | none => .error .missingPort
    | some (name, port) =>
      match Decimal.unsigned? 65535 port with
      | none => .error .badPort
      | some port => resolveName name port

end DatagramSession.Address
