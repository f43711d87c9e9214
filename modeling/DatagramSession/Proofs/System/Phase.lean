import DatagramSession.Proofs.System.Limit
import DatagramSession.Proofs.System.Booked

/-!
# How far a request is

On a reliable link a request goes to the server, through it, and back, and nothing else happens
meanwhile.  So what the client is told is what the server has done.

* `Phase`: how far a request can be.
* `Answered.login`, `Answered.shutdown`: what the client makes of the reply.
* `Phase.serve`, `Phase.carry`, `Phase.bring`, `Phase.ask`, `Phase.hear`: the moves of a link bring
  a request from one phase to the next, and the last one ends its turn as is due.
-/

namespace DatagramSession

open Server (CapacityLaw Holds IsDone IsSound Settles Passage Leaves Work)

/-! ## How far a request is -/

/-- Nobody waits, and nothing has reached a client. -/
def System.IsIdle (y : System) : Prop := ∀ c ∈ y.callers, c.awaited = none ∧ c.queue = []

/-- A client that waits for nothing, with an empty queue, sends what it can encode. -/
theorem Caller.ask_of_idle {c : Caller} {r : Request} {contents : Octets} (noticed : Nat)
    (awaited : c.awaited = none) (queue : c.queue = [])
    (encoded : (c.client.stamp r).encode = .ok contents) :
    c.ask r noticed none =
      some ({ c with awaited := some r.action, queue := [] }, some contents) := by
  simp only [ask, awaited, queue, Client.prepare, Client.discard_nil, encoded, mapError_ok]

/-- A request has been begun when nothing was to do, and its client waits with this in its queue. -/
structure Waits (l : Link) (b : Begun) (c : Caller) (queue : List Client.Arrival) : Prop where
  begun : l.begun = some b
  found : b.before.callers[b.caller]? = some c
  callers : l.system.callers = b.before.callers.set b.caller
    { c with awaited := some b.request.action, queue := queue }
  idle : b.before.IsIdle
  booked : Booked l.turns b.before
  fit : b.request.IsFit c.client.session
  holds : b.before.server.Holds .nothing

/-- The request as its client sends it. -/
def Caller.sends (c : Caller) (b : Begun) : Request := c.client.stamp b.request

/-- The request has been answered so, the reply has been written, and the server has done with the
request. -/
structure Answered (l : Link) (b : Begun) (c : Caller) (settled : Settlement) : Prop where
  settles : Settles c.address (c.sends b) b.before.server.desk.table settled
  table : l.system.server.desk.table = settled.table
  written : ⟨c.address, settled.verdict.response.written⟩ ∈ l.system.server.written
  leaves : Leaves settled.verdict.isShutDown l.system.server

inductive Phase (l : Link) : Prop
  /-- Nobody waits. -/
  | idle : l.begun = none → l.toServer = [] → l.toClients = [] → l.system.IsIdle →
    Booked l.turns l.system → l.system.server.Holds .nothing ∨ l.system.server.IsDone → Phase l
  /-- The request is on its way to the server. -/
  | sent {b : Begun} {c : Caller} : Waits l b c [] →
    l.toServer = [⟨c.address, (c.sends b).written⟩] →
    ⟨c.address, (c.sends b).written⟩ ∈ l.system.sent → l.toClients = [] →
    l.system.server = b.before.server → Phase l
  /-- The server has the request. -/
  | served {b : Begun} {c : Caller} {w : Work} : Waits l b c [] →
    l.toServer = [] → l.toClients = [] → l.system.server.Holds w →
    l.system.server.written = b.before.server.written →
    Passage c.address (c.sends b) b.before.server.desk.table w l.system.server.desk.table → Phase l
  /-- The reply is on its way to the client. -/
  | written {b : Begun} {c : Caller} {settled : Settlement} : Waits l b c [] →
    l.toServer = [] → l.toClients = [⟨c.address, settled.verdict.response.written⟩] →
    Answered l b c settled → Phase l
  /-- The reply has reached the client. -/
  | heard {b : Begun} {c : Caller} {settled : Settlement} :
    Waits l b c [.datagram settled.verdict.response.written] →
    l.toServer = [] → l.toClients = [] → Answered l b c settled → Phase l

namespace Waits

variable {l : Link} {b : Begun} {c : Caller} {queue : List Client.Arrival}

/-- The client is at its place. -/
theorem caller (waits : Waits l b c queue) : l.system.callers[b.caller]? =
    some { c with awaited := some b.request.action, queue := queue } := by
  have bound : b.caller < b.before.callers.length := (List.getElem?_eq_some_iff.1 waits.found).1
  rw [waits.callers, List.getElem?_set_self bound]

/-- The other clients are as they were. -/
theorem others (waits : Waits l b c queue) {i : Nat} (other : i ≠ b.caller) :
    l.system.callers[i]? = b.before.callers[i]? := by
  rw [waits.callers, List.getElem?_set_ne other.symm]

/-- Who waits has not done with its request. -/
theorem close_eq (waits : Waits l b c queue) : l.close = l := by
  unfold Link.close
  rw [waits.begun]
  simp [waits.caller]

/-- The request is sound as it is sent. -/
theorem isSound (waits : Waits l b c queue) :
    IsSound (c.sends b) b.before.server.desk.table :=
  waits.booked.isSound waits.found waits.fit

/-- When nothing has reached the client, nothing has reached any. -/
theorem queue_eq_nil (waits : Waits l b c []) {i : Nat} {other : Caller}
    (found : l.system.callers[i]? = some other) : other.queue = [] := by
  by_cases own : i = b.caller
  · rw [own, waits.caller] at found
    cases found
    rfl
  · rw [waits.others own] at found
    exact (waits.idle other (List.mem_of_getElem? found)).2

end Waits

/-! ## What the client makes of the reply -/

/-- A client whose request has come to this. -/
def Caller.after (c : Caller) (result : Except Client.Failure Response) (client : Client) :
    Caller :=
  { c with client := client, queue := [], awaited := none, results := c.results ++ [result] }

/-- The turn of a client that has heard its reply. -/
theorem Turn.of_callers {b : Begun} {c : Caller} {y : System}
    {result : Except Client.Failure Response} {client : Client}
    (found : b.before.callers[b.caller]? = some c)
    (callers : y.callers = b.before.callers.set b.caller (c.after result client)) :
    (Turn.mk b y).result? = some result ∧ (Turn.mk b y).clientAfter? = some client := by
  have bound : b.caller < b.before.callers.length := (List.getElem?_eq_some_iff.1 found).1
  have there : y.callers[b.caller]? = some (c.after result client) := by
    rw [callers, List.getElem?_set_self bound]
  simp [Turn.result?, Turn.clientAfter?, there, Caller.after]

namespace Waits

variable {l : Link} {b : Begun} {c : Caller} {queue : List Client.Arrival}
  (result : Except Client.Failure Response) (client : Client)

theorem callers_put (waits : Waits l b c queue) :
    (l.system.put b.caller (c.after result client)).callers =
      b.before.callers.set b.caller (c.after result client) := by
  change l.system.callers.set b.caller _ = _
  rw [waits.callers, List.set_set]

/-- The request is over when its client has come to a result. -/
theorem close_put (waits : Waits l b c queue) :
    let y := l.system.put b.caller (c.after result client)
    (l.goOn y).close = { l.goOn y with begun := none, turns := l.turns ++ [⟨b, y⟩] } := by
  intro y
  have bound : b.caller < b.before.callers.length := (List.getElem?_eq_some_iff.1 waits.found).1
  have there : y.callers[b.caller]? = some (c.after result client) := by
    rw [waits.callers_put, List.getElem?_set_self bound]
  have begun : (l.goOn y).begun = some b := waits.begun
  have system : (l.goOn y).system = y := rfl
  rw [Link.close, begun]
  simp only [system, there]
  rfl

end Waits

namespace Answered

variable {l : Link} {b : Begun} {c : Caller} {settled : Settlement} {queue : List Client.Arrival}
  {y : System} {result : Except Client.Failure Response} {client : Client}

/-- A server that has answered moves only towards its end. -/
theorem serve (answered : Answered l b c settled) {m : Server.Move} {s : Server}
    (step : Server.Step l.system.server m s) (steady : m.isSteady = true) :
    Answered (l.goOn { l.system with server := s }) b c settled ∧
      s.written = l.system.server.written := by
  rcases answered.leaves.step step steady with ⟨leaves, table, same⟩
  refine ⟨⟨answered.settles, table.trans answered.table, ?_, leaves⟩, same⟩
  change _ ∈ s.written
  rw [same]
  exact answered.written

/-- A login is welcomed with the id that was drawn. -/
theorem login (answered : Answered l b c settled) (waits : Waits l b c queue)
    {header : RequestHeader} {account password : String}
    (asked : b.request = .login header account password)
    (concluded : c.client.conclude b.request.action settled.verdict.response.written =
      (result, client))
    (callers : y.callers = b.before.callers.set b.caller (c.after result client))
    (table : y.server.desk.table = settled.table) :
    (Turn.mk b y).IsDue l.turns ∧ Booked (l.turns ++ [⟨b, y⟩]) y ∧
      ∀ failure, result ≠ .error (.wire failure) := by
  rcases answered.settles with ⟨draw, fresh, settling⟩
  have fit := waits.fit
  rw [asked] at fit
  rcases fit with ⟨rfl, -⟩
  have sends : c.sends b = .login ⟨.login, c.client.session⟩ account password := by
    rw [Caller.sends, asked]
    rfl
  rw [sends, Errand.settle_login rfl rfl] at settling
  cases settling
  let welcome : Response := .login (.ok .login draw.fresh) (Errand.welcome account)
  have opens : welcome.Opens .login welcome.written :=
    ⟨rfl, ⟨rfl, rfl⟩, _, waits.isSound.encode answered.settles, List.prefix_rfl⟩
  have conclusion : c.client.conclude .login welcome.written =
      (.ok welcome, { c.client with session := draw.fresh }) := Client.conclude_of_opens opens
  have action : b.request.action = .login := by
    rw [asked]
    rfl
  rw [action] at concluded
  cases conclusion.symm.trans concluded
  rcases Turn.of_callers waits.found callers with ⟨came, client⟩
  have issued : (Turn.mk b y).issued? = some draw.fresh := by
    simp only [Turn.issued?, asked, came]
    rfl
  have present := fresh.isAbsent_eq
  refine ⟨?_, waits.booked.snoc (t := ⟨b, y⟩) callers (fun id => ?_) ?_ ?_, nofun⟩
  · simp only [Turn.IsDue, asked, came, client]
    exact ⟨draw.fresh, rfl, fun earlier => fresh.2 (waits.booked.issued _ earlier), rfl⟩
  · rw [table, issued]
    simp [Errand.logIn, Table.mem_ids_save, present, eq_comm]
  · rw [issued]
    intro id same
    cases same
    exact fresh.1
  · rw [issued]
    rfl

/-- A shutdown is settled by the table as it was when the client asked. -/
theorem eq_shutDown (answered : Answered l b c settled) (waits : Waits l b c queue)
    {header : RequestHeader} (asked : b.request = .shutdown header) :
    settled = (Errand.ofRequest c.address (.shutdown ⟨.shutdown, c.client.session⟩)).shutDown
      ⟨.shutdown, c.client.session⟩ b.before.server.desk.table := by
  rcases answered.settles with ⟨draw, -, settling⟩
  have fit := waits.fit
  rw [asked] at fit
  cases fit
  have sends : c.sends b = .shutdown ⟨.shutdown, c.client.session⟩ := by
    rw [Caller.sends, asked]
    rfl
  rw [sends, Errand.settle_shutdown rfl rfl] at settling
  exact (Except.ok.inj settling).symm

/-- With the reply that grants a shutdown, the server is to stop. -/
theorem stopping (answered : Answered l b c settled) (waits : Waits l b c queue)
    {header : RequestHeader} {id : SessionId} (asked : b.request = .shutdown header)
    (last : lastLogin l.turns b.caller = some id) : .stopping ≤ l.system.server.stage := by
  have known := waits.booked.has_session_eq waits.found
  rw [last] at known
  have leaves := answered.leaves
  rw [answered.eq_shutDown waits asked, Errand.verdict_shutDown_of_has _ known] at leaves
  have done : l.system.server.IsDone := leaves
  exact done.stage

/-- A shutdown is granted to who has logged in, and refused to others. -/
theorem shutdown (answered : Answered l b c settled) (waits : Waits l b c queue)
    {header : RequestHeader} (asked : b.request = .shutdown header)
    (concluded : c.client.conclude b.request.action settled.verdict.response.written =
      (result, client))
    (callers : y.callers = b.before.callers.set b.caller (c.after result client))
    (server : y.server = l.system.server) :
    (Turn.mk b y).IsDue l.turns ∧ Booked (l.turns ++ [⟨b, y⟩]) y ∧
      ∀ failure, result ≠ .error (.wire failure) := by
  have encoded := waits.isSound.encode answered.settles
  have known := waits.booked.has_session_eq waits.found
  have held := waits.booked.sessions _ _ waits.found
  have action : b.request.action = .shutdown := by
    have fit := waits.fit
    rw [asked] at fit
    cases fit
    rw [asked]
    rfl
  have table := answered.table
  have leaves := answered.leaves
  cases answered.eq_shutDown waits asked
  replace table : y.server.desk.table = b.before.server.desk.table := by
    rw [server]
    exact table
  rw [action] at concluded
  rw [← server] at leaves
  have nothing : (Turn.mk b y).issued? = none := by
    simp only [Turn.issued?, asked]
  cases last : lastLogin l.turns b.caller with
  | some id =>
    rw [last] at known held
    rw [Errand.verdict_shutDown_of_has _ known] at concluded encoded
    let granted : Response := .shutdown (.ok .shutdown c.client.session)
    have opens : granted.Opens .shutdown granted.written :=
      ⟨rfl, ⟨rfl, rfl⟩, _, encoded, List.prefix_rfl⟩
    have conclusion : c.client.conclude .shutdown granted.written =
        (.ok granted, { c.client with session := c.client.session }) :=
      Client.conclude_of_opens opens
    cases conclusion.symm.trans concluded
    rcases Turn.of_callers waits.found callers with ⟨came, client⟩
    refine ⟨?_, waits.booked.snoc_of_nothing nothing waits.found callers table rfl, nofun⟩
    have same : c.client.session = id := held
    simp only [Turn.IsDue, asked, last, came, granted, same, server]
    exact ⟨trivial, answered.stopping waits asked last⟩
  | none =>
    rw [last] at known held
    rw [Errand.verdict_shutDown_of_not_has _ known] at concluded encoded leaves
    let refused : Response := .refusal (.failed .shutdown c.client.session Errand.invalidSession)
    have opens : refused.Opens .shutdown refused.written :=
      ⟨rfl, rfl, _, encoded, List.prefix_rfl⟩
    have conclusion : c.client.conclude .shutdown refused.written =
        (.error (.rejected Errand.invalidSession), c.client) := Client.conclude_of_opens opens
    cases conclusion.symm.trans concluded
    rcases Turn.of_callers waits.found callers with ⟨came, client⟩
    refine ⟨?_, waits.booked.snoc_of_nothing nothing waits.found callers table rfl, nofun⟩
    have holds : y.server.Holds .nothing := leaves
    have before : b.client? = some c.client := by
      rw [Begun.client?, waits.found]
      rfl
    have listening : y.server.stage = .listening := by
      rw [Server.stage, holds.life]
    simp only [Turn.IsDue, asked, last, came, client, before, table, listening]
    exact ⟨rfl, trivial, trivial, trivial⟩

end Answered

/-! ## One move -/

namespace Phase

variable {l : Link} {settings : Server.Settings}

theorem close_eq (phase : Phase l) : l.close = l := by
  cases phase with
  | idle begun =>
    unfold Link.close
    rw [begun]
  | sent waits | served waits | written waits | heard waits => exact waits.close_eq

/-- The server makes a move. -/
theorem serve (phase : Phase l) (law : CapacityLaw settings l.system.server)
    (capacity : 0 < settings.outboxCapacity) {m : Server.Move} {s : Server}
    (step : Server.Step l.system.server m s) (steady : m.isSteady = true)
    (fresh : ∀ draw ∈ m.draw?, draw.IsFreshFor l.system.server.desk.table) :
    Phase (l.goOn { l.system with server := s }) := by
  have toServer : (l.goOn { l.system with server := s }).toServer = l.toServer := by
    simp [Link.goOn]
  have toClients (same : s.written = l.system.server.written) :
      (l.goOn { l.system with server := s }).toClients = l.toClients := by
    simp [Link.goOn, same]
  -- The server moves by itself only for a request that has reached it, or to come to its end.
  cases phase with
  | idle begun sent written idle booked rests =>
    rcases rests with holds | done
    · exact (holds.not_step_of_nothing step steady).elim
    · rcases done.step step steady with ⟨done, table, same⟩
      exact .idle begun (toServer.trans sent) ((toClients same).trans written) idle
        (booked.congr rfl table) (.inr done)
  | sent waits _ _ _ server =>
    rw [server] at step
    exact (waits.holds.not_step_of_nothing step steady).elim
  | @served b c w waits sent written holds unwritten passage =>
    have waits' : Waits (l.goOn { l.system with server := s }) b c [] := { waits with }
    rcases passage.step holds waits.isSound law capacity step steady fresh with
      ⟨w', holds', passage', same⟩ | ⟨settled, settles, table, wrote, leaves⟩
    · exact .served waits' (toServer.trans sent) ((toClients same).trans written) holds'
        (same.trans unwritten) passage'
    · refine .written waits' (toServer.trans sent) ?_ ⟨settles, table, ?_, leaves⟩
      · simp [Link.goOn, wrote, written]
      · change _ ∈ s.written
        rw [wrote]
        exact List.mem_append_right _ (List.mem_singleton.2 rfl)
  | @written b c settled waits sent written answered =>
    have waits' : Waits (l.goOn { l.system with server := s }) b c [] := { waits with }
    rcases answered.serve step steady with ⟨answered, same⟩
    exact .written waits' (toServer.trans sent) ((toClients same).trans written) answered
  | @heard b c settled waits sent written answered =>
    have waits' : Waits (l.goOn { l.system with server := s }) b c _ := { waits with }
    rcases answered.serve step steady with ⟨answered, same⟩
    exact .heard waits' (toServer.trans sent) ((toClients same).trans written) answered

/-- The network brings the request to the server. -/
theorem carry (phase : Phase l) {d : Datagram} (under : d ∈ l.toServer) :
    Phase ((l.prepared (.carry d)).goOn { l.system with
      server := { l.system.server with inbox := l.system.server.inbox ++ [d] } }) := by
  cases phase with
  | idle _ sent | served _ sent | written _ sent | heard _ sent =>
    rw [sent] at under
    cases under
  | @sent b c waits sent _ written server =>
    rw [sent] at under
    cases List.mem_singleton.1 under
    have inbox : l.system.server.inbox = [] := by
      rw [server]
      exact waits.holds.inbox
    refine .served (w := .arrived ⟨c.address, (c.sends b).written⟩) { waits with } ?_ ?_ ?_ ?_ ?_
    · simp [Link.prepared, Link.goOn, sent]
    · simp [Link.prepared, Link.goOn, written]
    · have holds : l.system.server.Holds .nothing := by
        rw [server]
        exact waits.holds
      exact { holds with inbox := by rw [Link.goOn, inbox]; rfl }
    · change l.system.server.written = _
      rw [server]
    · have table : l.system.server.desk.table = b.before.server.desk.table := by
        rw [server]
      exact ⟨rfl, table⟩

/-- The network brings the reply to its client. -/
theorem bring (phase : Phase l) (apart : (l.system.callers.map (·.address)).Nodup) {i : Nat}
    {c : Caller} {contents : Octets} (found : l.system.callers[i]? = some c)
    (under : ⟨c.address, contents⟩ ∈ l.toClients) :
    Phase ((l.prepared (.bring i contents)).goOn
      (l.system.put i (c.receive (.datagram contents)))) := by
  cases phase with
  | idle _ _ written | sent _ _ _ written | served _ _ written | heard _ _ written =>
    rw [written] at under
    cases under
  | @written b c₀ settled waits sent written answered =>
    rw [written] at under
    rcases Datagram.mk.inj (List.mem_singleton.1 under) with ⟨address, rfl⟩
    have bound : i < (l.system.callers.map (·.address)).length := by
      rw [List.length_map]
      exact (List.getElem?_eq_some_iff.1 found).1
    -- The reply goes to an address, and only one client is at that.
    have own : i = b.caller := by
      refine (List.getElem?_inj bound apart).1 ?_
      rw [List.getElem?_map, List.getElem?_map, found, waits.caller]
      exact congrArg some address
    subst own
    have prepared : l.prepared (.bring b.caller settled.verdict.response.written) =
        { l with toClients := [] } := by
      simp [Link.prepared, found, written, address]
    cases found.symm.trans waits.caller
    rw [prepared]
    refine .heard (b := b) (c := c₀) { waits with callers := ?_ } ?_ ?_
      ⟨answered.settles, answered.table, answered.written, answered.leaves⟩
    · change l.system.callers.set b.caller _ = _
      rw [waits.callers, List.set_set]
      rfl
    · simp [Link.goOn, System.put, sent]
    · simp [Link.goOn, System.put]

/-- A client begins a request. -/
theorem ask (phase : Phase l) (begun : l.begun = none)
    (listening : l.system.server.stage = .listening) {i noticed : Nat} {c c' : Caller} {r : Request}
    {contents : Option Octets} (found : l.system.callers[i]? = some c)
    (fit : r.IsFit c.client.session) (asked : c.ask r noticed none = some (c', contents)) :
    c'.results = c.results ∧
    Phase ((l.prepared (.ask i r noticed none)).goOn { l.system.put i c' with
      sent := l.system.sent ++ contents.toList.map fun contents => ⟨c.address, contents⟩ }) := by
  cases phase with
  | idle _ sent written idle booked rests =>
    have holds : l.system.server.Holds .nothing := by
      rcases rests with holds | done
      · exact holds
      · have stopping := done.stage
        rw [listening] at stopping
        exact absurd stopping (by decide)
    rcases idle c (List.mem_of_getElem? found) with ⟨awaited, queue⟩
    let b : Begun := ⟨i, r, l.system⟩
    have encoded : (c.client.stamp r).encode = .ok (c.sends b).written :=
      (booked.isSound found fit).within
    cases (Caller.ask_of_idle noticed awaited queue encoded).symm.trans asked
    refine ⟨rfl, .sent (b := b) (c := c) ⟨rfl, found, rfl, idle, booked, fit, holds⟩ ?_ ?_ ?_ rfl⟩
    · simp [Link.prepared, Link.goOn, sent]
    · simp [Link.goOn]
    · simp [Link.prepared, Link.goOn, written, System.put]
  | sent waits | served waits | written waits | heard waits =>
    cases begun.symm.trans waits.begun

/-- The client ends its request: the turn is as it is due, and nobody waits. -/
theorem hear (phase : Phase l) {i noticed : Nat} {c c' : Caller}
    (found : l.system.callers[i]? = some c) (notices : 0 < noticed) (reached : c.queue ≠ [])
    (h : c.hear noticed = some c') :
    ∃ t : Turn, (l.goOn (l.system.put i c')).close =
        { l.goOn (l.system.put i c') with begun := none, turns := l.turns ++ [t] } ∧
      t.IsDue l.turns ∧ Phase (l.goOn (l.system.put i c')).close ∧ l.begun.isSome = true ∧
      ∃ result, c'.results = c.results ++ [result] ∧
        ∀ failure, result ≠ .error (.wire failure) := by
  cases phase with
  | idle _ _ _ idle => exact absurd (idle c (List.mem_of_getElem? found)).2 reached
  | sent waits | served waits | written waits =>
    exact absurd (waits.queue_eq_nil found) reached
  | @heard b c₀ settled waits sent written answered =>
    have own : i = b.caller := by
      by_contra other
      rw [waits.others other] at found
      exact reached (waits.idle c (List.mem_of_getElem? found)).2
    subst own
    cases found.symm.trans waits.caller
    rcases concluded : c₀.client.conclude b.request.action settled.verdict.response.written with
      ⟨result, client⟩
    have taken : [Client.Arrival.datagram settled.verdict.response.written].take noticed =
        [.datagram settled.verdict.response.written] := List.take_of_length_le notices
    have next : c₀.after result client = c' := by
      simp only [Caller.hear, taken, List.head?_cons, Client.receive, concluded,
        Option.some.injEq] at h
      exact h
    subst next
    let y : System := l.system.put b.caller (c₀.after result client)
    have callers : y.callers = b.before.callers.set b.caller (c₀.after result client) :=
      waits.callers_put result client
    have due : (Turn.mk b y).IsDue l.turns ∧ Booked (l.turns ++ [⟨b, y⟩]) y ∧
        ∀ failure, result ≠ .error (.wire failure) := by
      cases asked : b.request with
      | login header account password =>
        exact answered.login waits asked concluded callers answered.table
      | shutdown header => exact answered.shutdown waits asked concluded callers rfl
    rcases due with ⟨due, booked, sound⟩
    have closed := waits.close_put result client
    refine ⟨⟨b, y⟩, closed, due, ?_, ?_, result, rfl, sound⟩
    · rw [closed]
      refine .idle rfl ?_ ?_ ?_ booked answered.leaves.rests
      · simp [Link.goOn, System.put, sent]
      · simp [Link.goOn, System.put, written]
      · intro other member
        change other ∈ y.callers at member
        rw [callers] at member
        rcases List.mem_or_eq_of_mem_set member with old | rfl
        · exact waits.idle other old
        · exact ⟨rfl, rfl⟩
    · rw [waits.begun]
      rfl

end Phase

end DatagramSession
