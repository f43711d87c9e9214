import DatagramSession.Action
import DatagramSession.SessionId

/-!
# Requests

A request envelope is a header and, for a login, an account and a password.  The header names an
action of its own: nothing in the type makes it agree with the body.
-/

namespace DatagramSession

structure RequestHeader where
  action : Action
  session : SessionId
deriving DecidableEq, Repr

inductive Request where
  | login (header : RequestHeader) (account password : String)
  | shutdown (header : RequestHeader)
deriving DecidableEq, Repr

namespace Request

/-- A login of a sender that holds no session. -/
def ofCredentials (account password : String) : Request :=
  .login ⟨.login, .absent⟩ account password

/-- A shutdown of a sender that holds no session. -/
def ofShutdown : Request := .shutdown ⟨.shutdown, .absent⟩

def header : Request → RequestHeader
  | login header _ _ => header
  | shutdown header => header

def withHeader (header : RequestHeader) : Request → Request
  | login _ account password => .login header account password
  | shutdown _ => .shutdown header

def action (r : Request) : Action := r.header.action

def session (r : Request) : SessionId := r.header.session

/-- The same request under another session id. -/
def withSession (id : SessionId) (r : Request) : Request :=
  r.withHeader { r.header with session := id }

/-- The action that the body belongs to. -/
def bodyAction : Request → Action
  | login .. => .login
  | shutdown _ => .shutdown

@[simp] theorem header_withHeader (h : RequestHeader) (r : Request) :
    (r.withHeader h).header = h := by
  cases r <;> rfl

@[simp] theorem action_withSession (id : SessionId) (r : Request) :
    (r.withSession id).action = r.action := by
  simp [withSession, action]

end Request

end DatagramSession
