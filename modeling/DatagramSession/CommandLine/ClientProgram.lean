import DatagramSession.Client.Basic
import DatagramSession.CommandLine.Options
import DatagramSession.CommandLine.ServerProgram

/-!
# The command line of the client

The client logs in, prints its welcome and its session, and shuts the server down when it is asked
to.  The program is written over the two things it does on a network, so that it can be run on any.
-/

namespace DatagramSession.CommandLine.ClientProgram

def server : Spec :=
  ⟨"server", some 's', some fun _ => true, "127.0.0.1:8888", "Server address to connect to"⟩

def account : Spec :=
  ⟨"account", some 'a', some fun _ => true, "guest", "Account name sent with the login request"⟩

def password : Spec :=
  ⟨"password", some 'p', some fun _ => true, "", "Password sent with the login request"⟩

def shutdown : Spec :=
  ⟨"shutdown", none, none, "", "Ask the server to shut down after logging in"⟩

def timeout : Spec :=
  ⟨"timeout-ms", some 't', some ServerProgram.isSize, "10000",
    "Response timeout in milliseconds"⟩

def specs : List Spec := [server, account, password, shutdown, timeout]

def name : String := "client"

/-- What a command line asks of the client. -/
structure Plan where
  server : String
  credentials : Request
  shutsDown : Bool
  patience : Duration
deriving DecidableEq, Repr

def plan (given : Given) : Plan where
  server := server.value given
  credentials := .ofCredentials (account.value given) (password.value given)
  shutsDown := shutdown.isGiven given
  patience := .ofMilliseconds (ServerProgram.number timeout given)

def start (words : List String) : Except Report Plan :=
  match read specs words with
  | .ok given => .ok (plan given)
  | .error halt => .error (halt.report name specs)

/-- What is printed after a login. -/
def greeting : Response → String
  | .login header welcome => s!"{welcome}\nsession id: {header.session.shown}\n"
  | _ => ""

def farewell : String := "server is shutting down\n"

/-- A network as the client sees it. -/
structure Network (m : Type → Type) where
  connect : String → Duration → m (Except Client.Failure Client)
  request : Client → Request → m (Except Client.Failure Response × Client)

/-- The program once its command line is read. -/
def follow {m : Type → Type} [Monad m] (network : Network m) (p : Plan) : m Report := do
  match ← network.connect p.server p.patience with
  | .error _ => pure ⟨1, ""⟩
  | .ok client =>
    match ← network.request client p.credentials with
    | (.error _, _) => pure ⟨1, ""⟩
    | (.ok response, client) =>
      let output := greeting response
      if p.shutsDown then
        match ← network.request client .ofShutdown with
        | (.error _, _) => pure ⟨1, output⟩
        | (.ok _, _) => pure ⟨0, output ++ farewell⟩
      else pure ⟨0, output⟩

def run {m : Type → Type} [Monad m] (network : Network m) (words : List String) : m Report :=
  match start words with
  | .error report => pure report
  | .ok p => follow network p

end DatagramSession.CommandLine.ClientProgram
