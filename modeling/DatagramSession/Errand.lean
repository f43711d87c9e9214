import DatagramSession.Request
import DatagramSession.Response
import DatagramSession.Network.Address
import DatagramSession.Session.Table

/-!
# Errands

An errand is a request under way from a sender.  Settling it is the whole business of the server: a
login is given a fresh session and a welcome, a shutdown is granted to a session that the table
holds and to no other.
-/

namespace DatagramSession

/-- A request under way. -/
structure Errand where
  sender : Address
  /-- The action that the header named when the request was read. -/
  action : Action
  request : Request
  /-- The session that the response is for; a login replaces it. -/
  session : SessionId
deriving DecidableEq, Repr

/-- What a server does once a response is on its way. -/
inductive Verdict where
  | carryOn (response : Response)
  | shutDown (response : Response)
deriving DecidableEq, Repr

namespace Verdict

def response : Verdict → Response
  | carryOn response => response
  | shutDown response => response

def isShutDown : Verdict → Bool
  | carryOn _ => false
  | shutDown _ => true

end Verdict

/-- A response on its way to an address. -/
structure Reply where
  recipient : Address
  response : Response
  /-- The server stops once the reply is written. -/
  closes : Bool
deriving DecidableEq, Repr

def Reply.ofVerdict (recipient : Address) (v : Verdict) : Reply :=
  ⟨recipient, v.response, v.isShutDown⟩

/-- What the surroundings hand to a settling: an id that a login may take, and the time. -/
structure Draw where
  fresh : SessionId
  now : Instant
deriving DecidableEq, Repr

/-- The body of a request does not belong to the action of its errand. -/
structure Mismatch where
  action : Action
deriving DecidableEq, Repr

/-- An errand that has been settled: the verdict, the errand as it was left, and the table. -/
structure Settlement where
  verdict : Verdict
  errand : Errand
  table : Table
deriving DecidableEq, Repr

namespace Errand

def invalidSession : String := "invalid session id"

def ofRequest (sender : Address) (request : Request) : Errand :=
  ⟨sender, request.action, request, request.session⟩

def welcome (account : String) : String := "Welcome " ++ account

/-- A login takes the fresh id, and the table stores it. -/
def logIn (e : Errand) (account : String) (draw : Draw) (table : Table) : Settlement where
  verdict := .carryOn (.login (.ok .login draw.fresh) (welcome account))
  errand := { e with session := draw.fresh }
  table := (table.save draw.fresh draw.now).2

/-- A shutdown is granted when the table has the session of the request's header; the response is
for the session of the errand. -/
def shutDown (e : Errand) (header : RequestHeader) (table : Table) : Settlement where
  verdict :=
    if table.has header.session then .shutDown (.shutdown (.ok .shutdown e.session))
    else .carryOn (.refusal (.failed .shutdown e.session invalidSession))
  errand := e
  table := table

def settle (e : Errand) (draw : Draw) (table : Table) : Except Mismatch Settlement :=
  match e.action, e.request with
  | .login, .login _ account _ => .ok (e.logIn account draw table)
  | .shutdown, .shutdown header => .ok (e.shutDown header table)
  | action, _ => .error ⟨action⟩

theorem settle_login {e : Errand} {header : RequestHeader} {account password : String}
    (action : e.action = .login) (request : e.request = .login header account password)
    (draw : Draw) (table : Table) : e.settle draw table = .ok (e.logIn account draw table) := by
  rw [settle, action, request]

theorem settle_shutdown {e : Errand} {header : RequestHeader} (action : e.action = .shutdown)
    (request : e.request = .shutdown header) (draw : Draw) (table : Table) :
    e.settle draw table = .ok (e.shutDown header table) := by
  rw [settle, action, request]

/-- An errand is settled exactly if its body belongs to its action: a login is logged in, and a
shutdown is granted or refused. -/
theorem settle_eq_ok_iff {e : Errand} {draw : Draw} {table : Table} {settled : Settlement} :
    e.settle draw table = .ok settled ↔
      (∃ header account password, e.action = .login ∧
        e.request = .login header account password ∧ settled = e.logIn account draw table) ∨
      (∃ header, e.action = .shutdown ∧ e.request = .shutdown header ∧
        settled = e.shutDown header table) := by
  constructor
  · intro h
    unfold settle at h
    split at h
    · next header account password action request =>
      cases h
      exact .inl ⟨header, account, password, action, request, rfl⟩
    · next header action request =>
      cases h
      exact .inr ⟨header, action, request, rfl⟩
    · cases h
  · intro h
    rcases h with ⟨header, account, password, action, request, rfl⟩ | ⟨header, action, request, rfl⟩
    · exact settle_login action request draw table
    · exact settle_shutdown action request draw table

/-- An errand can be settled exactly if its body belongs to its action. -/
theorem exists_settle_eq_ok_iff {e : Errand} {draw : Draw} {table : Table} :
    (∃ settled, e.settle draw table = .ok settled) ↔ e.request.bodyAction = e.action := by
  constructor
  · rintro ⟨settled, settling⟩
    rcases settle_eq_ok_iff.1 settling with
      ⟨header, account, password, action, request, -⟩ | ⟨header, action, request, -⟩
    · rw [action, request]
      rfl
    · rw [action, request]
      rfl
  · intro agree
    cases request : e.request with
    | login header account password =>
      rw [request] at agree
      exact ⟨_, settle_login agree.symm request draw table⟩
    | shutdown header =>
      rw [request] at agree
      exact ⟨_, settle_shutdown agree.symm request draw table⟩

/-- A shutdown is granted to a session that the table has. -/
theorem verdict_shutDown_of_has (e : Errand) {header : RequestHeader} {table : Table}
    (known : table.has header.session = true) :
    (e.shutDown header table).verdict = .shutDown (.shutdown (.ok .shutdown e.session)) :=
  if_pos known

/-- A shutdown is refused to any other session. -/
theorem verdict_shutDown_of_not_has (e : Errand) {header : RequestHeader} {table : Table}
    (unknown : table.has header.session = false) :
    (e.shutDown header table).verdict =
      .carryOn (.refusal (.failed .shutdown e.session invalidSession)) :=
  if_neg (Bool.not_eq_true _ ▸ unknown)

/-- The server is to stop exactly if a shutdown was granted. -/
theorem isShutDown_iff_of_settle {e : Errand} {draw : Draw} {table : Table} {settled : Settlement}
    (settling : e.settle draw table = .ok settled) :
    settled.verdict.isShutDown = true ↔
      e.action = .shutdown ∧ table.has e.request.session = true := by
  rcases settle_eq_ok_iff.1 settling with
    ⟨header, account, password, action, request, rfl⟩ | ⟨header, action, request, rfl⟩
  · simp [logIn, Verdict.isShutDown, action]
  · have session : e.request.session = header.session := by
      rw [request]
      rfl
    rw [session]
    cases known : table.has header.session with
    | true =>
      rw [verdict_shutDown_of_has e known]
      simp [Verdict.isShutDown, action]
    | false =>
      rw [verdict_shutDown_of_not_has e known]
      simp [Verdict.isShutDown]

/-- An errand that was made from a request names the action of its header. -/
@[simp] theorem action_ofRequest (sender : Address) (r : Request) :
    (ofRequest sender r).action = r.action := rfl

end Errand

end DatagramSession
