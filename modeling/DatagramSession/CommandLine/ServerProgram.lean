import DatagramSession.CommandLine.Options
import DatagramSession.Server.Failure
import DatagramSession.Text.Decimal

/-!
# The command line of the server
-/

namespace DatagramSession.CommandLine.ServerProgram

def maxSize : Nat := 0xFFFFFFFFFFFFFFFF

def isSize (s : String) : Bool := (Decimal.unsigned? maxSize s).isSome

def isPort (s : String) : Bool := (Decimal.signed? 65535 s).isSome

def host : Spec :=
  ⟨"host", some 'H', some fun _ => true, "127.0.0.1", "Server IP address to bind to"⟩

def port : Spec := ⟨"port", some 'p', some isPort, "8888", "Server port to listen on"⟩

def channelCapacity : Spec :=
  ⟨"channel-capacity", none, some isSize, "100",
    "Responses buffered between handlers and the send loop"⟩

def maxInFlight : Spec :=
  ⟨"max-in-flight", none, some isSize, "64", "Maximum number of requests handled concurrently"⟩

def requestTimeout : Spec :=
  ⟨"request-timeout-ms", none, some isSize, "5000", "Per-request deadline in milliseconds"⟩

def specs : List Spec := [host, port, channelCapacity, maxInFlight, requestTimeout]

def name : String := "server"

/-- The number that an option has. -/
def number (spec : Spec) (given : Given) : Nat :=
  (Decimal.signed? maxSize (spec.value given)).getD 0

def settings (given : Given) : Server.Settings where
  bindAddress := s!"{host.value given}:{number port given}"
  outboxCapacity := number channelCapacity given
  workers := number maxInFlight given
  patience := .ofMilliseconds (number requestTimeout given)

/-- The settings that a command line asks for, or the end of the program. -/
def start (words : List String) : Except Report Server.Settings :=
  match read specs words with
  | .ok given => .ok (settings given)
  | .error halt => .error (halt.report name specs)

/-- The end of a program that could not listen. -/
def failed : Report := ⟨1, ""⟩

/-- The end of a program whose server listens but cannot be spawned. -/
def crashed : Report := ⟨101, ""⟩

/-- The end of a program whose server has stopped. -/
def finished : Report := ⟨0, ""⟩

end DatagramSession.CommandLine.ServerProgram
