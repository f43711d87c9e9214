import DatagramSession.Proofs.Client.Receipt
import DatagramSession.Proofs.Server.History

/-!
# A server and its clients

A system is a running server, the clients that are connected to it, and a network between them.  The
network brings only what was really sent, but it may lose a datagram, hold it back, bring it several
times, or bring a later one first; so it remembers all that was sent, and a datagram is brought
whenever, and as often as, a move says so.

A client's request is cut where it waits: `Caller.ask` is the request up to its sending and
`Caller.hear` is the rest of it, so that anything may happen in between.
`Caller.eq_settle_of_ask` and `Caller.hear_of_ask_eq_settle` say that the two are the whole request,
whatever the client notices in each.

* `System.Step`: one rule for each thing that can happen in a system.
* `System.run_induction`: what holds of a system and is kept by each of its moves.
-/

namespace DatagramSession

/-- A client at its socket. -/
structure Caller where
  address : Address
  client : Client
  /-- What has reached the socket and was not received, oldest first. -/
  queue : List Client.Arrival
  /-- The action of the request that waits for its response. -/
  awaited : Option Action
  /-- What has become of the requests so far, oldest first. -/
  results : List (Except Client.Failure Response)

namespace Caller

/-- A client of a server at an address of its own, without a session. -/
def opened (server address : Address) (patience : Duration) : Caller where
  address := address
  client := .ofServer server patience
  queue := []
  awaited := none
  results := []

/-- A request is over. -/
def close (c : Caller) (result : Except Client.Failure Response) : Caller :=
  { c with awaited := none, results := c.results ++ [result] }

/-- Something reaches the socket. -/
def receive (c : Caller) (arrival : Client.Arrival) : Caller :=
  { c with queue := c.queue ++ [arrival] }

/-- A request is begun, and the datagram that is sent.  The client has noticed so much of its queue
and empties that; its socket may refuse to send. -/
def ask (c : Caller) (r : Request) (noticed : Nat) (refusal : Option IoError) :
    Option (Caller × Option Octets) :=
  match c.awaited with
  | some _ => none
  | none =>
    let (prepared, left) := c.client.prepare r noticed c.queue
    let c := { c with queue := left }
    match prepared, refusal with
    | .error failure, _ => some (c.close (.error failure), none)
    | .ok _, some cause => some (c.close (.error (.socket cause)), none)
    | .ok contents, none => some ({ c with awaited := some r.action }, some contents)

/-- The request that waits comes to its end: with the next arrival if the client has noticed one,
and else with the end of its patience. -/
def hear (c : Caller) (noticed : Nat) : Option Caller :=
  match c.awaited with
  | none => none
  | some action =>
    let ((result, client), left) := c.client.receive action noticed c.queue
    some ({ c with client := client, queue := left }.close result)

/-- The request that waits is given up by its owner. -/
def giveUp (c : Caller) : Option Caller :=
  match c.awaited with
  | none => none
  | some _ => some { c with awaited := none }

/-! ## What a request leaves of a client -/

/-- Who begins a request keeps address and client, and gets nothing into the queue. -/
theorem of_ask {c c' : Caller} {r : Request} {noticed : Nat} {refusal : Option IoError}
    {contents : Option Octets} (h : c.ask r noticed refusal = some (c', contents)) :
    c'.address = c.address ∧ c'.client = c.client ∧ ∀ arrival ∈ c'.queue, arrival ∈ c.queue := by
  have queued := (c.client.prepare_suffix r noticed c.queue).subset
  unfold ask at h
  split at h
  · cases h
  · simp only at h
    split at h <;> cases h <;> exact ⟨rfl, rfl, queued⟩

/-- Who ends a request keeps the address, gets nothing into the queue, and keeps the session or
takes that of a successful response from the queue. -/
theorem of_hear {c c' : Caller} {noticed : Nat} (h : c.hear noticed = some c') :
    c'.address = c.address ∧ (∀ arrival ∈ c'.queue, arrival ∈ c.queue) ∧
      (c'.client.session = c.client.session ∨
        ∃ action contents response, .datagram contents ∈ c.queue ∧
          Response.decode action (contents.take Wire.limit) = .ok response ∧
          response.isOk = true ∧ c'.client.session = response.session) := by
  unfold hear at h
  split at h
  · cases h
  · next action awaited =>
    cases h
    refine ⟨rfl, (c.client.receive_suffix action noticed c.queue).subset, ?_⟩
    exact (c.client.session_receive action noticed c.queue).imp_right fun taken => ⟨action, taken⟩

theorem of_giveUp {c c' : Caller} (h : c.giveUp = some c') :
    c'.address = c.address ∧ c'.client = c.client ∧ c'.queue = c.queue := by
  unfold giveUp at h
  split at h
  · cases h
  · cases h
    exact ⟨rfl, rfl, rfl⟩

/-! ## A request in two moves -/

section whole

variable {c after : Caller} {r : Request} {noticed : Nat}
  {network : Octets → Except IoError (Client.Wait Client.Arrival)}

/-- What a whole request makes of a client. -/
def settle (c : Caller) (x : Client.Exchange) : Caller :=
  { c with client := x.client, queue := x.queue, results := c.results ++ [x.result] }

/-- A request that does not come to its sending is the client's whole request. -/
theorem eq_settle_of_ask {refusal : Option IoError}
    (refuses : ∀ contents cause, refusal = some cause → network contents = .error cause)
    (unsent : c.ask r noticed refusal = some (after, none)) :
    (c.client.request r noticed c.queue network).sent = none ∧
      after = c.settle (c.client.request r noticed c.queue network) := by
  unfold ask at unsent
  split at unsent
  · cases unsent
  · next idle =>
    cases prepared : c.client.prepare r noticed c.queue with
    | mk result left =>
      simp only [prepared] at unsent
      cases result with
      | error failure =>
        cases unsent
        simp only [Client.request, prepared, settle, close, idle, and_self]
      | ok octets =>
        cases refusal with
        | none => cases unsent
        | some cause =>
          cases unsent
          simp only [Client.request, prepared, refuses octets cause rfl, settle, close, idle,
            and_self]

/-- A request in two moves is the client's whole request: whatever the client has noticed when it
sends, and whatever it notices before it hears, it has come to the same result, session and
queue. -/
theorem hear_of_ask_eq_settle {contents : Octets} {wait : Client.Wait Client.Arrival}
    (sent : c.ask r noticed none = some (after, some contents))
    (brought : network contents = .ok wait) :
    (c.client.request r noticed c.queue network).sent = some contents ∧
      { after with queue := after.queue ++ wait.arrivals }.hear wait.noticed =
        some (c.settle (c.client.request r noticed c.queue network)) := by
  unfold ask at sent
  split at sent
  · cases sent
  · next idle =>
    cases prepared : c.client.prepare r noticed c.queue with
    | mk result left =>
      simp only [prepared] at sent
      cases result with
      | error failure => cases sent
      | ok octets =>
        cases sent
        simp only [Client.request, prepared, brought, hear, settle, close, idle, and_self]

end whole

end Caller

structure System where
  server : Server
  callers : List Caller
  /-- The datagrams that clients have sent, each with its sender. -/
  sent : List Datagram

namespace System

/-- A possible move of a system. -/
inductive Move where
  /-- A move of the server or of its owner, other than an arrival. -/
  | serve (m : Server.Move)
  /-- The network brings a datagram of a client to the server. -/
  | carry (datagram : Datagram)
  /-- The network brings a datagram of the server to a client. -/
  | bring (caller : Nat) (contents : Octets)
  /-- A failure shows at the socket of a client. -/
  | obstruct (caller : Nat) (cause : IoError)
  | ask (caller : Nat) (r : Request) (noticed : Nat) (refusal : Option IoError)
  | hear (caller : Nat) (noticed : Nat)
  | giveUp (caller : Nat)

/-- A server that has just begun to listen, and clients that have just connected to its address,
each from an address of its own and with its own patience. -/
def opened (s : Server) (address : Address) (clients : List (Address × Duration)) : System where
  server := s
  callers := clients.map fun (own, patience) => .opened address own patience
  sent := []

/-- A client becomes `c`. -/
def put (y : System) (caller : Nat) (c : Caller) : System :=
  { y with callers := y.callers.set caller c }

/-- The system after a move, or none when the move is not possible. -/
def step (y : System) : Move → Option System
  | .serve (.arrive _) => none
  | .serve m => (y.server.step m).map fun s => { y with server := s }
  | .carry datagram =>
    if datagram ∈ y.sent then
      (y.server.step (.arrive datagram)).map fun s => { y with server := s }
    else none
  | .bring caller contents => do
    let c ← y.callers[caller]?
    if ⟨c.address, contents⟩ ∈ y.server.written then
      some (y.put caller (c.receive (.datagram contents)))
    else none
  | .obstruct caller cause => do
    let c ← y.callers[caller]?
    some (y.put caller (c.receive (.failure cause)))
  | .ask caller r noticed refusal => do
    let c ← y.callers[caller]?
    let (c', contents) ← c.ask r noticed refusal
    some { y.put caller c' with
      sent := y.sent ++ contents.toList.map fun contents => ⟨c.address, contents⟩ }
  | .hear caller noticed => do
    let c ← y.callers[caller]?
    let c' ← c.hear noticed
    some (y.put caller c')
  | .giveUp caller => do
    let c ← y.callers[caller]?
    let c' ← c.giveUp
    some (y.put caller c')

/-- The system after a run of moves, or none when one of them is not possible. -/
def run (y : System) (moves : List Move) : Option System := moves.foldlM step y

/-! ## Moves as rules -/

/-- One move of a system. -/
inductive Step (y : System) : Move → System → Prop
  /-- The server or its owner moves; a datagram comes from the network alone. -/
  | serve {m : Server.Move} {s : Server} :
    y.server.step m = some s → Step y (.serve m) { y with server := s }
  | carry {datagram : Datagram} {s : Server} :
    datagram ∈ y.sent → y.server.step (.arrive datagram) = some s →
    Step y (.carry datagram) { y with server := s }
  | bring {i : Nat} {c : Caller} {contents : Octets} :
    y.callers[i]? = some c → ⟨c.address, contents⟩ ∈ y.server.written →
    Step y (.bring i contents) (y.put i (c.receive (.datagram contents)))
  | obstruct {i : Nat} {c : Caller} {cause : IoError} :
    y.callers[i]? = some c →
    Step y (.obstruct i cause) (y.put i (c.receive (.failure cause)))
  | ask {i : Nat} {c c' : Caller} {r : Request} {noticed : Nat} {refusal : Option IoError}
      {contents : Option Octets} :
    y.callers[i]? = some c → c.ask r noticed refusal = some (c', contents) →
    Step y (.ask i r noticed refusal) { y.put i c' with
      sent := y.sent ++ contents.toList.map fun contents => ⟨c.address, contents⟩ }
  | hear {i : Nat} {c c' : Caller} {noticed : Nat} :
    y.callers[i]? = some c → c.hear noticed = some c' → Step y (.hear i noticed) (y.put i c')
  | giveUp {i : Nat} {c c' : Caller} :
    y.callers[i]? = some c → c.giveUp = some c' → Step y (.giveUp i) (y.put i c')

theorem Step.of_serve {y y' : System} {m : Server.Move} (h : y.step (.serve m) = some y') :
    Step y (.serve m) y' := by
  unfold step at h
  split at h
  · cases h
  · next served =>
    cases served
    obtain ⟨s, moved, rfl⟩ := Option.map_eq_some_iff.1 h
    exact .serve moved
  all_goals contradiction

/-- A possible move is an instance of a rule. -/
theorem Step.of_step {y y' : System} {m : Move} (h : y.step m = some y') : Step y m y' := by
  cases m with
  | serve m => exact .of_serve h
  | carry datagram =>
    simp only [step] at h
    split at h
    · next sent =>
      obtain ⟨s, moved, rfl⟩ := Option.map_eq_some_iff.1 h
      exact .carry sent moved
    · cases h
  | bring i contents =>
    obtain ⟨c, found, h⟩ := Option.bind_eq_some_iff.1 h
    split at h
    · next written =>
      cases h
      exact .bring found written
    · cases h
  | obstruct i cause =>
    obtain ⟨c, found, h⟩ := Option.bind_eq_some_iff.1 h
    cases h
    exact .obstruct found
  | ask i r noticed refusal =>
    obtain ⟨c, found, h⟩ := Option.bind_eq_some_iff.1 h
    obtain ⟨⟨c', contents⟩, asked, h⟩ := Option.bind_eq_some_iff.1 h
    cases h
    exact .ask found asked
  | hear i noticed =>
    obtain ⟨c, found, h⟩ := Option.bind_eq_some_iff.1 h
    obtain ⟨c', heard, h⟩ := Option.bind_eq_some_iff.1 h
    cases h
    exact .hear found heard
  | giveUp i =>
    obtain ⟨c, found, h⟩ := Option.bind_eq_some_iff.1 h
    obtain ⟨c', givenUp, h⟩ := Option.bind_eq_some_iff.1 h
    cases h
    exact .giveUp found givenUp

/-- **Induction along a run.**  What holds of a system and is kept by each possible move holds after
every run. -/
theorem run_induction {y y' : System} {motive : System → Prop} {moves : List Move}
    (start : motive y)
    (move : ∀ {mid after : System} {m : Move}, Step mid m after → motive mid → motive after)
    (run : y.run moves = some y') : motive y' :=
  foldlM_induction (motive := fun _ => motive) start (fun _ moved => move (.of_step moved)) run

end System

end DatagramSession
