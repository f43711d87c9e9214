import DatagramSession.Action
import DatagramSession.SessionId

/-!
# Responses

A response envelope is a header and, for a login, a welcome.  A refusal is a header alone, whatever
the action it answers.
-/

namespace DatagramSession

structure ResponseHeader where
  action : Action
  session : SessionId
  isOk : Bool
  error : String
deriving DecidableEq, Repr

namespace ResponseHeader

def ok (action : Action) (session : SessionId) : ResponseHeader :=
  ⟨action, session, true, ""⟩

def failed (action : Action) (session : SessionId) (error : String) : ResponseHeader :=
  ⟨action, session, false, error⟩

end ResponseHeader

inductive Response where
  | login (header : ResponseHeader) (welcome : String)
  | shutdown (header : ResponseHeader)
  | refusal (header : ResponseHeader)
deriving DecidableEq, Repr

namespace Response

def header : Response → ResponseHeader
  | login header _ => header
  | shutdown header => header
  | refusal header => header

def action (r : Response) : Action := r.header.action

def session (r : Response) : SessionId := r.header.session

def isOk (r : Response) : Bool := r.header.isOk

end Response

end DatagramSession
