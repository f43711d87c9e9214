import DatagramSession.Proofs.System.Phase

/-!
# Turns on a reliable link

Client and server agree about each turn of a link, and a request that waits comes to its end.

* `LinkLaw.of_step`: every move keeps what is known of a link.
* `Phase.exists_step`, `LinkLaw.load_lt`: while a request waits there is a move, and not many.
* `Link.every_turn_is_due`: all turns of a run.
-/

namespace DatagramSession

open Server (CapacityLaw)

/-! ## The law of a link -/

theorem System.addresses_put {y : System} {i : Nat} {c c' : Caller}
    (found : y.callers[i]? = some c) (same : c'.address = c.address) :
    (y.put i c').callers.map (·.address) = y.callers.map (·.address) := by
  rcases List.getElem?_eq_some_iff.1 found with ⟨bound, rfl⟩
  have place : i < (y.callers.map (·.address)).length := by
    rw [List.length_map]
    exact bound
  rw [System.put, List.map_set, same]
  refine Eq.trans ?_ (List.set_getElem_self place)
  rw [List.getElem_map]

/-- What is known of a link whose server has such settings. -/
structure LinkLaw (settings : Server.Settings) (l : Link) : Prop where
  apart : (l.system.callers.map (·.address)).Nodup
  capacity : CapacityLaw settings l.system.server
  sound : ∀ c ∈ l.system.callers, ∀ failure, .error (.wire failure) ∉ c.results
  due : ∀ (k : Nat) (turn : Turn), l.turns[k]? = some turn → turn.IsDue (l.turns.take k)
  phase : Phase l

namespace LinkLaw

variable {settings : Server.Settings} {l l' : Link} {m : System.Move}

/-- One more turn, as it is due. -/
theorem due_snoc (law : LinkLaw settings l) {t : Turn} (due : t.IsDue l.turns) :
    ∀ (k : Nat) (turn : Turn), (l.turns ++ [t])[k]? = some turn →
      turn.IsDue ((l.turns ++ [t]).take k) := by
  intro k turn found
  rcases Nat.lt_or_ge k l.turns.length with earlier | last
  · rw [List.getElem?_append_left earlier] at found
    rw [List.take_append_of_le_length (Nat.le_of_lt earlier)]
    exact law.due k turn found
  · rw [List.getElem?_append_right last] at found
    rcases List.getElem?_eq_some_iff.1 found with ⟨bound, rfl⟩
    have place : k = l.turns.length := by
      rw [List.length_singleton] at bound
      omega
    subst place
    simpa using due

/-- A client that changes keeps its address, and has not seen a failure of the wire. -/
theorem put (law : LinkLaw settings l) {i : Nat} {c c' : Caller}
    (found : l.system.callers[i]? = some c) (address : c'.address = c.address)
    (sound : ∀ failure, .error (.wire failure) ∉ c'.results) :
    ((l.system.put i c').callers.map (·.address)).Nodup ∧
      ∀ other ∈ (l.system.put i c').callers, ∀ failure, .error (.wire failure) ∉ other.results := by
  rw [System.addresses_put found address]
  refine ⟨law.apart, fun other member => ?_⟩
  rcases List.mem_or_eq_of_mem_set member with old | rfl
  · exact law.sound other old
  · exact sound

/-- A request that is not over keeps its turns. -/
theorem goOn (law : LinkLaw settings l) {y : System}
    (phase : Phase ((l.prepared m).goOn y)) (apart : (y.callers.map (·.address)).Nodup)
    (capacity : CapacityLaw settings y.server)
    (sound : ∀ c ∈ y.callers, ∀ failure, .error (.wire failure) ∉ c.results) :
    LinkLaw settings ((l.prepared m).goOn y).close := by
  have turns : ((l.prepared m).goOn y).turns = l.turns := by
    cases m with
    | bring i contents =>
      simp only [Link.goOn, Link.prepared]
      split <;> rfl
    | _ => rfl
  rw [phase.close_eq]
  refine ⟨apart, capacity, sound, ?_, phase⟩
  rw [turns]
  exact law.due

/-- **One move.** -/
theorem of_step (law : LinkLaw settings l) (capacity : 0 < settings.outboxCapacity)
    (h : l.step m = some l') : LinkLaw settings l' := by
  rcases Link.step_eq_some_iff.1 h with ⟨allowed, y, moved, rfl⟩
  cases System.Step.of_step moved with
  | @serve m s step =>
    rcases Bool.and_eq_true_iff.1 allowed with ⟨steady, fresh⟩
    replace step := Server.Step.of_step step
    have drawn : ∀ draw ∈ m.draw?, draw.IsFreshFor l.system.server.desk.table := by
      intro draw draws
      rw [draws] at fresh
      simpa using fresh
    exact law.goOn (law.phase.serve law.capacity capacity step steady drawn) law.apart
      (law.capacity.of_step step) law.sound
  | @carry d s sent step =>
    have under : d ∈ l.toServer := of_decide_eq_true allowed
    have capacity := law.capacity.of_step (.of_step step)
    cases step
    exact law.goOn (law.phase.carry under) law.apart capacity law.sound
  | @bring i c contents found written =>
    have under : ⟨c.address, contents⟩ ∈ l.toClients := by
      simpa [Link.allows, found] using allowed
    have brought : (c.receive (.datagram contents)).address = c.address := rfl
    rcases law.put found brought (law.sound c (List.mem_of_getElem? found)) with ⟨apart, sound⟩
    exact law.goOn (law.phase.bring law.apart found under) apart law.capacity sound
  | obstruct => cases allowed
  | @ask i c c' r noticed refusal contents found asked =>
    simp only [Link.allows, found, Bool.and_eq_true, Option.isNone_iff_eq_none, decide_eq_true_eq,
      Option.all_some] at allowed
    rcases allowed with ⟨⟨⟨begun, listening⟩, rfl⟩, fit⟩
    rcases law.phase.ask begun listening found fit asked with ⟨results, phase⟩
    have old := law.sound c (List.mem_of_getElem? found)
    rw [← results] at old
    rcases law.put found (Caller.of_ask asked).1 old with ⟨apart, sound⟩
    exact law.goOn phase apart law.capacity sound
  | @hear i c c' noticed found heard =>
    simp only [Link.allows, found, Bool.and_eq_true, decide_eq_true_eq, Option.all_some,
      Bool.not_eq_true', List.isEmpty_eq_false_iff] at allowed
    rcases allowed with ⟨notices, reached⟩
    rcases law.phase.hear found notices reached heard with
      ⟨t, closed, due, phase, -, result, results, sound⟩
    have all : ∀ failure, .error (.wire failure) ∉ c'.results := by
      intro failure member
      rw [results] at member
      rcases List.mem_append.1 member with old | new
      · exact law.sound c (List.mem_of_getElem? found) failure old
      · exact sound failure (List.mem_singleton.1 new).symm
    rcases law.put found (Caller.of_hear heard).1 all with ⟨apart, sound⟩
    change LinkLaw settings (l.goOn (l.system.put i c')).close
    have turns : (l.goOn (l.system.put i c')).close.turns = l.turns ++ [t] := by rw [closed]
    have system : (l.goOn (l.system.put i c')).close.system = l.system.put i c' :=
      Link.system_close _
    refine ⟨?_, ?_, ?_, ?_, phase⟩
    · rw [system]
      exact apart
    · rw [system]
      exact law.capacity
    · rw [system]
      exact sound
    · rw [turns]
      exact law.due_snoc due
  | giveUp => cases allowed

/-- **A whole run.** -/
theorem of_run (law : LinkLaw settings l) (capacity : 0 < settings.outboxCapacity)
    {moves : List System.Move} (run : l.run moves = some l') : LinkLaw settings l' :=
  foldlM_induction (motive := fun _ l' => LinkLaw settings l') law
    (fun _ moved law => law.of_step capacity moved) run

/-- A link is opened with nobody waiting, and nothing given to anybody. -/
theorem of_opened {spare : Nat} {s : Server} {clients : List (Address × Duration)}
    (spawned : Server.spawnWith spare settings = some s) (address : Address)
    (apart : (clients.map Prod.fst).Nodup) : LinkLaw settings (.opened s address clients) := by
  have opened : ∀ c ∈ (System.opened s address clients).callers,
      c.awaited = none ∧ c.queue = [] ∧ c.results = [] ∧ c.client.session = .absent := by
    intro c member
    rcases List.mem_map.1 member with ⟨_, -, rfl⟩
    exact ⟨rfl, rfl, rfl, rfl⟩
  have capacity := CapacityLaw.of_spawnWith spawned
  have new := Server.eq_opened_of_spawnWith spawned
  have empty : s.desk.table.ids = [] := by
    rw [new]
    rfl
  have booked : Booked [] (.opened s address clients) := by
    refine ⟨?_, nofun, fun i c found => ?_⟩
    · intro id known
      change id ∈ s.desk.table.ids at known
      rw [empty] at known
      cases known
    · exact (opened c (List.mem_of_getElem? found)).2.2.2
  have holds : s.Holds .nothing := by
    rw [new]
    exact ⟨rfl, rfl, rfl, rfl, rfl, rfl, rfl⟩
  have idle : (System.opened s address clients).IsIdle := by
    intro c member
    exact ⟨(opened c member).1, (opened c member).2.1⟩
  refine ⟨?_, capacity, ?_, ?_, .idle rfl rfl rfl idle booked (.inl holds)⟩
  · have addresses : (System.opened s address clients).callers.map (·.address) =
        clients.map Prod.fst := by
      rw [System.opened, List.map_map]
      rfl
    change ((System.opened s address clients).callers.map (·.address)).Nodup
    rw [addresses]
    exact apart
  · intro c member failure failed
    rw [(opened c member).2.2.1] at failed
    cases failed
  · intro k turn found
    cases List.mem_of_getElem? found

/-! ## Every request comes to its end -/

/-- The server writes at most one datagram in a move. -/
theorem length_written_le_of_step {s s' : Server} {m : Server.Move} (h : Server.Step s m s') :
    s'.written.length ≤ s.written.length + 1 := by
  cases h with
  | write => exact Nat.le_of_eq List.length_append
  | _ => exact Nat.le_succ _

/-- Without a new request, every move lightens the load. -/
theorem load_lt (law : LinkLaw settings l) (h : l.step m = some l') (idle : m.asked? = none) :
    l'.load < l.load := by
  rcases Link.step_eq_some_iff.1 h with ⟨allowed, y, moved, rfl⟩
  cases System.Step.of_step moved with
  | @serve m s step =>
    replace step := Server.Step.of_step step
    have steady := (Bool.and_eq_true_iff.1 allowed).1
    have lighter := step.load_lt steady
    have wrote := length_written_le_of_step step
    refine Nat.lt_of_le_of_lt (Link.load_close_le _) ?_
    simp only [Link.load, Link.goOn, Link.prepared, List.drop_length, List.append_nil,
      List.length_append, List.length_drop]
    omega
  | @carry d s sent step =>
    have under : d ∈ l.toServer := of_decide_eq_true allowed
    have heavier := Server.own_add_load_le_of_step (.of_step step)
    have fewer := List.length_erase_of_mem under
    have some := List.length_pos_of_mem under
    cases step
    refine Nat.lt_of_le_of_lt (Link.load_close_le _) ?_
    simp only [Link.load, Link.goOn, Link.prepared, List.drop_length, List.append_nil,
      Server.Move.isOwn, Server.Move.burden, Bool.toNat_false] at heavier ⊢
    omega
  | @bring i c contents found written =>
    have under : ⟨c.address, contents⟩ ∈ l.toClients := by
      simpa [Link.allows, found] using allowed
    have fewer := List.length_erase_of_mem under
    have some := List.length_pos_of_mem under
    refine Nat.lt_of_le_of_lt (Link.load_close_le _) ?_
    simp only [Link.load, Link.goOn, Link.prepared, found, System.put, List.drop_length,
      List.append_nil]
    omega
  | obstruct => cases allowed
  | ask => cases idle
  | @hear i c c' noticed found heard =>
    simp only [Link.allows, found, Bool.and_eq_true, decide_eq_true_eq, Option.all_some,
      Bool.not_eq_true', List.isEmpty_eq_false_iff] at allowed
    rcases allowed with ⟨notices, reached⟩
    rcases law.phase.hear found notices reached heard with ⟨t, closed, -, -, waiting, -⟩
    change (l.goOn (l.system.put i c')).close.load < _
    rw [closed]
    simp only [Link.load, Link.goOn, System.put, List.drop_length, List.append_nil, waiting,
      Option.isSome_none, Bool.toNat_false, Bool.toNat_true]
    omega
  | giveUp => cases allowed

/-- Without a new request, there are no more moves than the load. -/
theorem length_add_load_le_of_run (law : LinkLaw settings l)
    (capacity : 0 < settings.outboxCapacity) {moves : List System.Move}
    (run : l.run moves = some l') (idle : ∀ m ∈ moves, m.asked? = none) :
    moves.length + l'.load ≤ l.load := by
  revert idle
  refine foldlM_induction
    (motive := fun moves l' => (∀ m ∈ moves, m.asked? = none) → moves.length + l'.load ≤ l.load)
    (fun _ => Nat.le_of_eq (Nat.zero_add _)) ?_ run
  intro moves m mid after before moved bound idle
  have lighter := (law.of_run capacity before).load_lt moved (idle m (by simp))
  have earlier := bound fun m member => idle m (List.mem_append_left _ member)
  rw [List.length_append, List.length_singleton]
  omega

end LinkLaw

/-- While a request waits, something can move, with any fresh id that is drawn. -/
theorem Phase.exists_step {l : Link} {settings : Server.Settings} (phase : Phase l)
    (law : CapacityLaw settings l.system.server) (capacity : 0 < settings.outboxCapacity)
    (workers : 0 < settings.workers) (waiting : l.begun ≠ none) {draw : Draw}
    (fresh : draw.IsFreshFor l.system.server.desk.table) :
    ∃ m l', m.asked? = none ∧ l.step m = some l' := by
  cases phase with
  | idle begun => exact absurd begun waiting
  | @sent b c waits sent known =>
    let d : Datagram := ⟨c.address, (c.sends b).written⟩
    have allowed : l.allows (.carry d) = true := by simp [Link.allows, sent, d]
    have moved : l.system.step (.carry d) = some { l.system with
        server := { l.system.server with inbox := l.system.server.inbox ++ [d] } } := by
      simp [System.step, known, Server.step, d]
    rcases Link.exists_step allowed moved with ⟨l', step⟩
    exact ⟨_, l', rfl, step⟩
  | @served b c w waits _ _ holds _ passage =>
    rcases passage.exists_step holds waits.isSound law capacity workers draw with
      ⟨m, steady, possible, draws⟩
    rcases Option.ne_none_iff_exists'.1 possible with ⟨s, served⟩
    have allowed : l.allows (.serve m) = true := by
      refine Bool.and_eq_true_iff.2 ⟨steady, ?_⟩
      rw [Option.all_eq_true]
      intro drawn drew
      rw [draws drawn drew]
      exact decide_eq_true fresh
    have moved : l.system.step (.serve m) = some { l.system with server := s } := by
      cases m with
      | arrive => cases steady
      | _ => simp [System.step, served]
    rcases Link.exists_step allowed moved with ⟨l', step⟩
    exact ⟨_, l', rfl, step⟩
  | @written b c settled waits _ written answered =>
    have allowed : l.allows (.bring b.caller settled.verdict.response.written) = true := by
      simp [Link.allows, waits.caller, written]
    have moved : l.system.step (.bring b.caller settled.verdict.response.written) =
        some (l.system.put b.caller ({ c with
          awaited := some b.request.action
          queue := [] }.receive (.datagram settled.verdict.response.written))) := by
      simp [System.step, waits.caller, answered.written]
    rcases Link.exists_step allowed moved with ⟨l', step⟩
    exact ⟨_, l', rfl, step⟩
  | @heard b c settled waits =>
    have allowed : l.allows (.hear b.caller 1) = true := by simp [Link.allows, waits.caller]
    have moved : ∃ y, l.system.step (.hear b.caller 1) = some y := by
      simp [System.step, waits.caller, Caller.hear]
    rcases moved with ⟨y, moved⟩
    rcases Link.exists_step allowed moved with ⟨l', step⟩
    exact ⟨_, l', rfl, step⟩

/-- While nobody waits and the server listens, any client may begin any request that fits. -/
theorem Phase.exists_ask {l : Link} (phase : Phase l) (begun : l.begun = none)
    (listening : l.system.server.stage = .listening) {i : Nat} {c : Caller} {r : Request}
    (found : l.system.callers[i]? = some c) (fit : r.IsFit c.client.session) :
    ∃ later, l.step (.ask i r 0 none) = some later := by
  cases phase with
  | idle _ _ _ idle booked =>
    rcases idle c (List.mem_of_getElem? found) with ⟨awaited, queue⟩
    have asked := Caller.ask_of_idle 0 awaited queue (booked.isSound found fit).within
    have allowed : l.allows (.ask i r 0 none) = true := by
      simp [Link.allows, begun, listening, found, fit]
    have moved : ∃ y, l.system.step (.ask i r 0 none) = some y := by
      simp [System.step, found, asked]
    rcases moved with ⟨y, moved⟩
    exact Link.exists_step allowed moved
  | sent waits | served waits | written waits | heard waits =>
    cases begun.symm.trans waits.begun

/-- When the reply that grants a shutdown has been written, the server is to stop. -/
theorem Phase.stopping {l : Link} (phase : Phase l) {b : Begun} (begun : b ∈ l.begun)
    {header : RequestHeader} {id : SessionId} (asked : b.request = .shutdown header)
    (last : lastLogin l.turns b.caller = some id)
    (wrote : l.system.server.written ≠ b.before.server.written) :
    .stopping ≤ l.system.server.stage := by
  cases phase with
  | idle idle => cases idle.symm.trans begun
  | sent waits _ _ _ server =>
    cases waits.begun.symm.trans begun
    exact absurd (congrArg Server.written server) wrote
  | served waits _ _ _ unwritten =>
    cases waits.begun.symm.trans begun
    exact absurd unwritten wrote
  | written waits _ _ answered | heard waits _ _ answered =>
    cases waits.begun.symm.trans begun
    exact answered.stopping waits asked last

/-- **Every turn is as is due.**  Clients at addresses of their own take turns on a reliable link to
a server that has just begun to listen.  After every run:

* the run is one of the system, and the turns are the requests that have been begun, without the one
  that waits;
* each turn has come to what is due after the turns before it: a login to a welcome and a session
  that nobody had, a shutdown of a client with a login to the acknowledgement of its session and a
  server that is to stop, and any other shutdown to a refusal that changes nothing;
* no client has seen a failure of the wire;
* once the reply that grants a shutdown has been written, the server is to stop, even if the client
  has yet to hear it;
* while nobody waits and the server listens, any client can begin any request that fits;
* a request that waits comes to its end: there are only so many moves without a new request, and
  when none is left though a fresh id can be drawn, nobody waits. -/
theorem Link.every_turn_is_due {spare : Nat} {settings : Server.Settings} {s : Server}
    {address : Address} {clients : List (Address × Duration)} {moves : List System.Move} {l : Link}
    (valid : settings.check = .ok ()) (spawned : Server.spawnWith spare settings = some s)
    (apart : (clients.map Prod.fst).Nodup)
    (run : (Link.opened s address clients).run moves = some l) :
    ((System.opened s address clients).run moves = some l.system ∧
      l.asked = moves.filterMap System.Move.asked?) ∧
    (∀ (k : Nat) (turn : Turn), l.turns[k]? = some turn → turn.IsDue (l.turns.take k)) ∧
    (∀ c ∈ l.system.callers, ∀ failure, .error (.wire failure) ∉ c.results) ∧
    (∀ b ∈ l.begun, ∀ header id, b.request = .shutdown header →
      lastLogin l.turns b.caller = some id →
      l.system.server.written ≠ b.before.server.written → .stopping ≤ l.system.server.stage) ∧
    (l.begun = none → l.system.server.stage = .listening →
      ∀ (i : Nat) (c : Caller) (r : Request), l.system.callers[i]? = some c →
        r.IsFit c.client.session → ∃ later, l.step (.ask i r 0 none) = some later) ∧
    ∀ more later, l.run more = some later → (∀ m ∈ more, m.asked? = none) →
      more.length ≤ l.load ∧
      (later.IsQuiet → (∃ draw : Draw, draw.IsFreshFor later.system.server.desk.table) →
        later.begun = none) := by
  rcases Server.Settings.check_eq_ok_iff.1 valid with ⟨capacity, workers, -⟩
  have law := (LinkLaw.of_opened spawned address apart).of_run capacity run
  refine ⟨⟨Link.system_of_run run, Link.asked_of_run run⟩, law.due, law.sound, ?_, ?_, ?_⟩
  · intro b begun header id asked last wrote
    exact law.phase.stopping begun asked last wrote
  · intro begun listening i c r found fit
    exact law.phase.exists_ask begun listening found fit
  · intro more later goesOn idle
    have bound := law.length_add_load_le_of_run capacity goesOn idle
    refine ⟨Nat.le_of_add_right_le bound, ?_⟩
    rintro quiet ⟨draw, fresh⟩
    by_contra waiting
    have law := law.of_run capacity goesOn
    rcases law.phase.exists_step law.capacity capacity workers waiting fresh with
      ⟨m, after, noRequest, moved⟩
    cases (quiet m noRequest).symm.trans moved

namespace Link

/-- The moves of one request: to the server, through it, and back. -/
def turnMoves (caller : Nat) (r : Request) (sent : Datagram) (ticket : Server.Ticket) (draw : Draw)
    (reply : Response) : List System.Move :=
  [.ask caller r 0 none, .carry sent, .serve .read, .serve .accept, .serve .start,
    .serve (.task (.serve ticket draw)), .serve .take, .serve .write,
    .bring caller reply.written, .hear caller 1]

def aliceSession : SessionId := ⟨"00000000-0000-4000-8000-000000000001"⟩

/-- Bob asks for a shutdown without a login; Alice logs in and asks for one. -/
def threeTurns : List System.Move :=
  let draw : Draw := ⟨aliceSession, 1⟩
  let next : Draw := ⟨⟨"00000000-0000-4000-8000-000000000002"⟩, 2⟩
  let login := Request.ofCredentials "alice" "pw"
  let close : Request := .shutdown ⟨.shutdown, aliceSession⟩
  turnMoves 1 .ofShutdown ⟨.loopback 9001, Request.ofShutdown.written⟩ 0 draw
    (.refusal (.failed .shutdown .absent Errand.invalidSession)) ++
  turnMoves 0 login ⟨.loopback 9000, login.written⟩ 1 draw
    (.login (.ok .login aliceSession) "Welcome alice") ++
  turnMoves 0 .ofShutdown ⟨.loopback 9000, close.written⟩ 2 next
    (.shutdown (.ok .shutdown aliceSession))

theorem every_turn_is_due_of_threeTurns :
    let clients : List (Address × Duration) :=
      [(.loopback 9000, .ofSeconds 5), (.loopback 9001, .ofSeconds 5)]
    (clients.map Prod.fst).Nodup ∧
    ∃ l, (opened (Server.opened 0 {}) (.loopback 8888) clients).run threeTurns = some l ∧
      l.turns.map Turn.result? =
        [some (.error (.rejected "invalid session id")),
          some (.ok (.login (.ok .login aliceSession) "Welcome alice")),
          some (.ok (.shutdown (.ok .shutdown aliceSession)))] ∧
      l.asked = threeTurns.filterMap System.Move.asked? ∧
      ∀ (k : Nat) (turn : Turn), l.turns[k]? = some turn → turn.IsDue (l.turns.take k) := by
  intro clients
  have valid : ({} : Server.Settings).check = .ok () := by decide
  have spawned : Server.spawnWith 0 {} = some (Server.opened 0 {}) := by decide
  have apart : (clients.map Prod.fst).Nodup := by decide
  have seen : ((opened (Server.opened 0 {}) (.loopback 8888) clients).run threeTurns).map
      (fun l => l.turns.map Turn.result?) = some
        [some (.error (.rejected "invalid session id")),
          some (.ok (.login (.ok .login aliceSession) "Welcome alice")),
          some (.ok (.shutdown (.ok .shutdown aliceSession)))] := by decide +kernel
  rcases Option.map_eq_some_iff.1 seen with ⟨l, run, results⟩
  rcases every_turn_is_due valid spawned apart run with ⟨⟨-, asked⟩, due, -⟩
  exact ⟨apart, l, run, results, asked, due⟩

end Link

end DatagramSession
