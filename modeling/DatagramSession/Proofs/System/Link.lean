import DatagramSession.Proofs.Server.Single
import DatagramSession.Proofs.System.Basic

/-!
# A reliable link

A link is a system that nothing goes wrong with outside the programs.  The network brings every
datagram once, no socket fails, nobody gives up a request or ends its wait without a response, and
nobody but the clients touches the server.  The ids that are drawn are fresh, the requests fit, and
clients take turns: a request is begun when the last one is over, and while the server listens.

So a link has the moves of a system, and allows some of them.  It remembers the datagrams that are
under way, and each turn: which request of whom, and the system at its beginning and at its end.

* `Link.system_of_run`: a run of a link is a run of its system.
* `Link.asked_of_run`: each request of a run is over, and has its turn, or waits for its response.
-/

namespace DatagramSession

/-- The request has been made without a session, and fits with the session that its client stamps on
it; and so does its reply. -/
def Request.IsFit (session : SessionId) : Request → Prop
  | .login header account password =>
    header = ⟨.login, .absent⟩ ∧
    28 + session.text.utf8ByteSize + account.utf8ByteSize + password.utf8ByteSize ≤ 61440 ∧
    73 + account.utf8ByteSize ≤ 61440
  | .shutdown header => header = ⟨.shutdown, .absent⟩

instance (session : SessionId) : (r : Request) → Decidable (r.IsFit session)
  | .login .. => inferInstanceAs (Decidable (_ ∧ _ ∧ _))
  | .shutdown _ => inferInstanceAs (Decidable (_ = _))

/-- The request that a move begins, and the client that makes it. -/
def System.Move.asked? : System.Move → Option (Nat × Request)
  | .ask caller r _ _ => some (caller, r)
  | _ => none

/-! ## Turns -/

/-- A request that has been begun, and the system before that. -/
structure Begun where
  caller : Nat
  request : Request
  before : System

/-- A request that is over, and the system after that. -/
structure Turn extends Begun where
  after : System

/-- The client of a request, as it was before. -/
def Begun.client? (b : Begun) : Option Client := (b.before.callers[b.caller]?).map (·.client)

namespace Turn

/-- The client of the request, as it is afterwards. -/
def clientAfter? (t : Turn) : Option Client := (t.after.callers[t.caller]?).map (·.client)

/-- What has become of the request. -/
def result? (t : Turn) : Option (Except Client.Failure Response) :=
  (t.after.callers[t.caller]?).bind (·.results.getLast?)

/-- The session that a login has been given. -/
def issued? (t : Turn) : Option SessionId :=
  match t.request, t.result? with
  | .login .., some (.ok response) => some response.session
  | _, _ => none

end Turn

/-- The sessions that logins have been given. -/
def issuedIn (turns : List Turn) : List SessionId := turns.filterMap Turn.issued?

/-- The session that the last login of a client has been given. -/
def lastLogin (turns : List Turn) (caller : Nat) : Option SessionId :=
  (issuedIn (turns.filter (·.caller = caller))).getLast?

/-! ## Links -/

structure Link where
  system : System
  /-- The datagrams that clients have sent and the network has not brought. -/
  toServer : List Datagram
  /-- The datagrams that the server has written and the network has not brought. -/
  toClients : List Datagram
  /-- The request that waits for its response. -/
  begun : Option Begun
  /-- The requests that are over, oldest first. -/
  turns : List Turn

namespace Link

/-- A server that has just begun to listen, and clients that have just connected to it. -/
def opened (s : Server) (address : Address) (clients : List (Address × Duration)) : Link where
  system := .opened s address clients
  toServer := []
  toClients := []
  begun := none
  turns := []

/-- The datagrams to and fro, and the turns, allow the move. -/
def allows (l : Link) : System.Move → Bool
  | .ask caller r _ refusal =>
    l.begun.isNone && l.system.server.stage = .listening && refusal.isNone &&
      (l.system.callers[caller]?).all fun c => r.IsFit c.client.session
  | .carry datagram => datagram ∈ l.toServer
  | .serve m => m.isSteady && m.draw?.all (·.IsFreshFor l.system.server.desk.table)
  | .bring caller contents =>
    (l.system.callers[caller]?).all fun c => ⟨c.address, contents⟩ ∈ l.toClients
  | .hear caller noticed => 0 < noticed && (l.system.callers[caller]?).all (!·.queue.isEmpty)
  | .obstruct .. | .giveUp _ => false

/-- What is under way and what is begun, without the datagram that a move brings, and with the
request that it begins. -/
def prepared (l : Link) : System.Move → Link
  | .ask caller r _ _ => { l with begun := some ⟨caller, r, l.system⟩ }
  | .carry datagram => { l with toServer := l.toServer.erase datagram }
  | .bring caller contents =>
    match l.system.callers[caller]? with
    | some c => { l with toClients := l.toClients.erase ⟨c.address, contents⟩ }
    | none => l
  | _ => l

/-- A request whose client does not wait any more is over. -/
def close (l : Link) : Link :=
  match l.begun with
  | none => l
  | some b =>
    if (l.system.callers[b.caller]?).all (·.awaited.isNone) then
      { l with begun := none, turns := l.turns ++ [⟨b, l.system⟩] }
    else l

/-- The system goes on, and what has been sent and written is under way. -/
def goOn (l : Link) (y : System) : Link :=
  { l with
    system := y
    toServer := l.toServer ++ y.sent.drop l.system.sent.length
    toClients := l.toClients ++ y.server.written.drop l.system.server.written.length }

/-- The link after a move, or none when the move is not possible or not allowed. -/
def step (l : Link) (m : System.Move) : Option Link :=
  if l.allows m then (l.system.step m).map fun y => ((l.prepared m).goOn y).close else none

/-- The link after a run of moves, or none when one of them is not possible or not allowed. -/
def run (l : Link) (moves : List System.Move) : Option Link := moves.foldlM step l

/-- Nothing can move, but that somebody may begin a request. -/
def IsQuiet (l : Link) : Prop := ∀ m : System.Move, m.asked? = none → l.step m = none

/-- A bound on the moves that are left without a new request.  A datagram that is brought adds to
the work of the server, and that may add a datagram; so each weighs more than what follows it. -/
def load (l : Link) : Nat :=
  25 * l.toServer.length + 3 * l.system.server.load + 2 * l.toClients.length +
    l.begun.isSome.toNat

variable {l l' : Link} {m : System.Move}

theorem step_eq_some_iff : l.step m = some l' ↔
    l.allows m = true ∧ ∃ y, l.system.step m = some y ∧ ((l.prepared m).goOn y).close = l' := by
  unfold step
  split
  · next allowed => simp only [allowed, true_and, Option.map_eq_some_iff]
  · next forbidden => simp only [forbidden, reduceCtorEq, false_and, Bool.false_eq_true]

/-- A move that is allowed, and possible for the system, is possible. -/
theorem exists_step (allowed : l.allows m = true) {y : System} (moved : l.system.step m = some y) :
    ∃ l', l.step m = some l' :=
  ⟨_, step_eq_some_iff.2 ⟨allowed, y, moved, rfl⟩⟩

@[simp] theorem system_close (l : Link) : l.close.system = l.system := by
  unfold close
  split
  · rfl
  · split <;> rfl

/-- A move of a link is a move of its system. -/
theorem system_of_step (h : l.step m = some l') : l.system.step m = some l'.system := by
  rcases step_eq_some_iff.1 h with ⟨-, y, moved, rfl⟩
  rw [system_close]
  exact moved

/-- A run of a link is a run of its system. -/
theorem system_of_run {moves : List System.Move} (run : l.run moves = some l') :
    l.system.run moves = some l'.system := by
  refine foldlM_induction (motive := fun moves l' => l.system.run moves = some l'.system)
    rfl ?_ run
  intro moves m mid after _ moved before
  rw [System.run, List.foldlM_append]
  refine Option.bind_eq_some_iff.2 ⟨mid.system, before, ?_⟩
  rw [List.foldlM_cons, system_of_step moved]
  rfl

/-- The requests that have been begun. -/
def asked (l : Link) : List (Nat × Request) :=
  (l.turns.map Turn.toBegun ++ l.begun.toList).map fun b => (b.caller, b.request)

theorem load_close_le (l : Link) : l.close.load ≤ l.load := by
  unfold close
  split
  · rfl
  · split
    · exact Nat.add_le_add_left (Nat.zero_le _) _
    · rfl

theorem asked_close (l : Link) : l.close.asked = l.asked := by
  unfold close
  split
  · rfl
  · next b begun =>
    split
    · simp [asked, begun]
    · rfl

/-- Each request that is begun is remembered, with its turn or as the one that waits. -/
theorem asked_of_step (h : l.step m = some l') : l'.asked = l.asked ++ m.asked?.toList := by
  rcases step_eq_some_iff.1 h with ⟨allowed, y, -, rfl⟩
  rw [asked_close]
  cases m with
  | ask caller r noticed refusal =>
    have idle : l.begun = none := by
      simp only [allows, Bool.and_eq_true, Option.isNone_iff_eq_none] at allowed
      exact allowed.1.1.1
    simp [asked, goOn, prepared, idle, System.Move.asked?]
  | bring caller contents =>
    have same : (l.prepared (.bring caller contents)).asked = l.asked := by
      simp only [prepared]
      split <;> rfl
    exact same.trans (List.append_nil _).symm
  | _ => exact (List.append_nil _).symm

theorem asked_of_run {moves : List System.Move} (run : l.run moves = some l') :
    l'.asked = l.asked ++ moves.filterMap System.Move.asked? := by
  refine foldlM_induction
    (motive := fun moves l' => l'.asked = l.asked ++ moves.filterMap System.Move.asked?)
    (List.append_nil _).symm ?_ run
  intro moves m mid after _ moved before
  have one : [m].filterMap System.Move.asked? = m.asked?.toList := by
    cases asked : m.asked? <;> simp [asked]
  rw [asked_of_step moved, before, List.filterMap_append, one, List.append_assoc]

end Link

end DatagramSession
