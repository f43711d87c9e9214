/-!
# Socket errors

What a socket call or the reading of an address fails with, and the text of it.
-/

namespace DatagramSession

inductive IoError where
  /-- The operating system refused, with a number. -/
  | system (number : Nat) (text : String)
  /-- An address without a colon. -/
  | missingPort
  /-- The text after the last colon is not a port. -/
  | badPort
  /-- A host without an address. -/
  | unknownHost (reason : String)
  /-- A host with a NUL in its name. -/
  | nulInName
  | other (text : String)
deriving DecidableEq, Repr

namespace IoError

/-- There is no such name. -/
def noSuchName : IoError := .unknownHost "Name or service not known"

/-- Nobody can be asked for the name. -/
def noNameServer : IoError := .unknownHost "Temporary failure in name resolution"

def permissionDenied : IoError := .system 13 "Permission denied"
def noSuchDevice : IoError := .system 19 "No such device"
def invalidArgument : IoError := .system 22 "Invalid argument"
def messageTooLong : IoError := .system 90 "Message too long"
def familyNotSupported : IoError := .system 97 "Address family not supported by protocol"
def addressNotAvailable : IoError := .system 99 "Cannot assign requested address"
def networkUnreachable : IoError := .system 101 "Network is unreachable"
def connectionRefused : IoError := .system 111 "Connection refused"

def message : IoError → String
  | system number text => s!"{text} (os error {number})"
  | missingPort => "invalid socket address"
  | badPort => "invalid port value"
  | unknownHost reason => "failed to lookup address information: " ++ reason
  | nulInName => "file name contained an unexpected NUL byte"
  | other text => text

end IoError

end DatagramSession
