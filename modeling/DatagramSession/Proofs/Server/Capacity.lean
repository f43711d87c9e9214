import DatagramSession.Proofs.Server.Oversight
import Mathlib.Data.List.Nodup

/-!
# Permits and slots

There are as many permits as a server may have tasks at once, and as many slots in its outbox as
replies may be queued.  A permit is free, or the reader holds it for the task that it is about to
start, or a live task has it.  A slot is free, or granted to a live task, or holds a queued reply.
However a task ends, its permit comes back once, and its slot comes back or goes over to its reply.

* `Outbox.slots_leave`, `Outbox.slots_put` and the like: every move of the outbox keeps its slots.
* `Desk.IsOrderly`: tasks have tickets of their own, and only a live task has a place in the outbox.
* `CapacityLaw.of_step`, `CapacityLaw.of_run`: one move, and a whole run.
* `Supervised.permits_and_slots_add_up`: where the permits and the slots are.
-/

namespace DatagramSession.Server

/-! ## Slots -/

namespace Outbox

variable {b b' : Outbox} {ticket : Ticket} {reply : Reply}

/-- The slots of the outbox: with a queued reply, granted, and free. -/
def slots (b : Outbox) : Nat := b.queue.length + b.granted.length + b.free

/-- The tickets with a place: a slot that was granted, or a turn in the line. -/
def holders (b : Outbox) : List Ticket := b.granted ++ b.line

/-- A slot that comes back is free, or goes to the first in the line. -/
theorem slots_release (b : Outbox) : b.release.slots = b.slots + 1 := by
  unfold release slots
  split
  · rfl
  · simp only [List.length_append, List.length_singleton]
    omega

/-- Who is granted a slot keeps the place. -/
theorem holders_release (b : Outbox) : b.release.holders = b.holders := by
  unfold release holders
  split
  · rfl
  · next line => simp only [line, List.append_assoc, List.singleton_append]

theorem slots_leave (b : Outbox) (ticket : Ticket) : (b.leave ticket).slots = b.slots := by
  unfold leave
  split
  · next granted =>
    have held := List.length_pos_of_mem granted
    rw [slots_release]
    simp only [slots, List.length_erase_of_mem granted]
    omega
  · rfl

theorem holders_leave (b : Outbox) (ticket : Ticket) :
    (b.leave ticket).holders = b.holders.erase ticket := by
  unfold leave
  split
  · next granted =>
    rw [holders_release]
    exact (List.erase_append_left b.line granted).symm
  · next other => exact (List.erase_append_right b.line other).symm

theorem holders_wait (b : Outbox) (ticket : Ticket) :
    (b.wait ticket).holders = b.holders ++ [ticket] :=
  (List.append_assoc b.granted b.line [ticket]).symm

/-- A reply takes the slot of its ticket, or a free one. -/
theorem slots_put (servable : b.isServable ticket = true) :
    (b.put ticket reply).slots = b.slots := by
  unfold put
  split
  · next granted =>
    have held := List.length_pos_of_mem granted
    simp only [slots, List.length_append, List.length_singleton, List.length_erase_of_mem granted]
    omega
  · next other =>
    have free : 0 < b.free := by
      simp only [isServable, other, decide_false, Bool.false_or, Bool.and_eq_true,
        decide_eq_true_eq] at servable
      exact servable.2.2
    simp only [slots, List.length_append, List.length_singleton]
    omega

/-- Who puts in a reply gives up the place, if there was one. -/
theorem holders_put (servable : b.isServable ticket = true) :
    (b.put ticket reply).holders = b.holders.erase ticket := by
  unfold put
  split
  · next granted => exact (List.erase_append_left b.line granted).symm
  · next other =>
    have outside : ticket ∉ b.line := by
      simp only [isServable, other, decide_false, Bool.false_or, Bool.and_eq_true,
        decide_eq_true_eq] at servable
      exact servable.2.1
    refine (List.erase_of_not_mem ?_).symm
    rw [holders, List.mem_append, not_or]
    exact ⟨other, outside⟩

/-- The slot of the reply that is taken out comes back. -/
theorem slots_of_take? (taken : b.take? = some (reply, b')) :
    b'.isOpen = b.isOpen ∧ b'.slots = b.slots ∧ b'.holders = b.holders := by
  unfold take? at taken
  split at taken
  · cases taken
  · next first rest queue =>
    cases taken
    refine ⟨isOpen_release _, ?_, holders_release _⟩
    rw [slots_release]
    simp only [slots, queue, List.length_cons]
    omega

theorem slots_of_push? (pushed : b.push? reply = some b') :
    b'.isOpen = b.isOpen ∧ b.isOpen = true ∧ b'.slots = b.slots ∧ b'.holders = b.holders := by
  unfold push? at pushed
  split at pushed
  · next room =>
    cases pushed
    rcases Bool.and_eq_true_iff.1 room with ⟨isOpen, free⟩
    replace free : 0 < b.free := of_decide_eq_true free
    refine ⟨rfl, isOpen, ?_, rfl⟩
    simp only [slots, List.length_append, List.length_singleton]
    omega
  · cases pushed

end Outbox

/-! ## Places -/

namespace Desk

variable {d d' : Desk} {ticket : Ticket} {errand : Errand}

/-- The tickets of the live tasks. -/
def tickets (d : Desk) : List Ticket := d.tasks.map (·.ticket)

/-- The tasks have tickets of their own, which were given out before; and whoever has a place in
the outbox is a live task, and has one place. -/
structure IsOrderly (d : Desk) : Prop where
  given : ∀ ticket ∈ d.tickets, ticket < d.next
  apart : d.tickets.Nodup
  places : d.outbox.holders.Nodup
  live : d.outbox.holders ⊆ d.tickets

theorem ticket_mem_of_errand? (live : d.errand? ticket = some errand) : ticket ∈ d.tickets :=
  List.mem_map.2 ⟨_, mem_tasks_of_errand? live, rfl⟩

theorem tickets_finish (d : Desk) (ticket : Ticket) :
    (d.finish ticket).tickets = d.tickets.filter (· ≠ ticket) := by
  unfold tickets
  rw [finish, List.filter_map]
  rfl

/-- A ticket of its own goes when its task ends, and no other. -/
theorem IsOrderly.tickets_finish (orderly : d.IsOrderly) (ticket : Ticket) :
    (d.finish ticket).tickets = d.tickets.erase ticket := by
  rw [Desk.tickets_finish, orderly.apart.erase_eq_filter]
  refine List.filter_congr fun other _ => ?_
  simp only [ne_eq, decide_not, bne, beq_eq_decide]

theorem IsOrderly.start (orderly : d.IsOrderly) (errand : Errand) :
    (d.start errand).IsOrderly := by
  have tickets : (d.start errand).tickets = d.tickets ++ [d.next] := by
    simp only [Desk.tickets, Desk.start, List.map_append, List.map_cons, List.map_nil]
  refine ⟨fun ticket live => ?_, ?_, orderly.places, fun ticket holds => ?_⟩
  · rw [tickets] at live
    rcases List.mem_append.1 live with old | new
    · exact Nat.lt_succ_of_lt (orderly.given ticket old)
    · rw [List.mem_singleton.1 new]
      exact Nat.lt_succ_self _
  · rw [tickets]
    refine List.nodup_append.2 ⟨orderly.apart, List.nodup_singleton _, ?_⟩
    intro old live new last same
    rw [same, List.mem_singleton.1 last] at live
    exact Nat.lt_irrefl _ (orderly.given _ live)
  · rw [tickets]
    exact List.mem_append_left _ (orderly.live holds)

/-- A live task without a place gets in line. -/
theorem IsOrderly.wait (orderly : d.IsOrderly) (live : d.errand? ticket = some errand)
    (outside : ticket ∉ d.outbox.holders) :
    ({ d with outbox := d.outbox.wait ticket } : Desk).IsOrderly := by
  have holders := d.outbox.holders_wait ticket
  refine ⟨orderly.given, orderly.apart, ?_, fun other holds => ?_⟩
  · rw [holders]
    refine List.nodup_append.2 ⟨orderly.places, List.nodup_singleton _, ?_⟩
    intro old held new last same
    rw [same, List.mem_singleton.1 last] at held
    exact outside held
  · rw [holders] at holds
    rcases List.mem_append.1 holds with old | new
    · exact orderly.live old
    · rw [List.mem_singleton.1 new]
      exact ticket_mem_of_errand? live

/-- A task that ends leaves its place to nobody else. -/
theorem IsOrderly.finish (orderly : d.IsOrderly) (kept : d'.tasks = d.tasks ∧ d'.next = d.next)
    (left : d'.outbox.holders = d.outbox.holders.erase ticket) : (d'.finish ticket).IsOrderly := by
  rcases kept with ⟨tasks, next⟩
  have tickets : (d'.finish ticket).tickets = d.tickets.erase ticket := by
    rw [← orderly.tickets_finish, Desk.tickets_finish, Desk.tickets_finish, Desk.tickets, tasks]
    rfl
  refine ⟨fun other live => ?_, ?_, ?_, fun other holds => ?_⟩
  · rw [tickets] at live
    have bound := orderly.given other (List.mem_of_mem_erase live)
    rw [← next] at bound
    exact bound
  · rw [tickets]
    exact orderly.apart.erase ticket
  · rw [outbox_finish, left]
    exact orderly.places.erase ticket
  · rw [outbox_finish, left, orderly.places.mem_erase_iff] at holds
    rw [tickets, orderly.apart.mem_erase_iff]
    exact ⟨holds.1, orderly.live holds.2⟩

/-- Who has no place left has none to lose. -/
theorem IsOrderly.of_sublist (orderly : d.IsOrderly) (kept : d'.tasks = d.tasks ∧ d'.next = d.next)
    (holders : d'.outbox.holders.Sublist d.outbox.holders) : d'.IsOrderly := by
  rcases kept with ⟨tasks, next⟩
  have tickets : d'.tickets = d.tickets := congrArg (List.map _) tasks
  refine ⟨?_, ?_, orderly.places.sublist holders, ?_⟩
  · rw [tickets, next]
    exact orderly.given
  · rw [tickets]
    exact orderly.apart
  · rw [tickets]
    exact List.Subset.trans holders.subset orderly.live

/-- Who gets in line, settles or gives up leaves the desk in order. -/
theorem IsOrderly.of_step {isCancelled : Bool} {m : Task.Move} (orderly : d.IsOrderly)
    (h : d.Step isCancelled m d') : d'.IsOrderly := by
  cases h with
  | @wait ticket errand live _ isOpen unservable outside =>
    have ungranted : ticket ∉ d.outbox.granted := by
      intro granted
      simp [Outbox.isServable, isOpen, granted] at unservable
    apply orderly.wait live
    rw [Outbox.holders, List.mem_append, not_or]
    exact ⟨ungranted, outside⟩
  | settle _ servable _ => exact orderly.finish ⟨rfl, rfl⟩ (Outbox.holders_put servable)
  | giveUp => exact orderly.finish ⟨rfl, rfl⟩ (Outbox.holders_leave _ _)

/-- The free permits, and those that the tasks have. -/
def permitsAndTasks (d : Desk) : Nat := d.permits + d.tasks.length

theorem permitsAndTasks_start (d : Desk) (errand : Errand) :
    (d.start errand).permitsAndTasks = d.permitsAndTasks + 1 := by
  simp only [permitsAndTasks, start, List.length_append, List.length_singleton]
  omega

/-- A live task that ends gives one permit back. -/
theorem IsOrderly.permitsAndTasks_finish (orderly : d.IsOrderly)
    (kept : d'.tasks = d.tasks ∧ d'.permits = d.permits) (live : d.errand? ticket = some errand) :
    (d'.finish ticket).permitsAndTasks = d.permitsAndTasks := by
  rcases kept with ⟨tasks, permits⟩
  have member := ticket_mem_of_errand? live
  have before : d.tickets.length = d.tasks.length := List.length_map _
  have some : 0 < d.tickets.length := List.length_pos_of_mem member
  have after : (d.finish ticket).tasks.length = d.tickets.length - 1 := by
    rw [← List.length_erase_of_mem member, ← orderly.tickets_finish, Desk.tickets, List.length_map]
  have same : (d'.finish ticket).tasks = (d.finish ticket).tasks := by
    rw [Desk.finish, Desk.finish, tasks]
  have back : (d'.finish ticket).permits = d.permits + 1 := congrArg (· + 1) permits
  unfold permitsAndTasks
  rw [same, back]
  omega

end Desk

/-! ## One move -/

/-- The permits that the reader holds: the one for a task that it is about to start. -/
def Reading.permits : Reading → Nat
  | admitted _ => 1
  | ready | admitting _ | ended => 0

/-- Where the permits and the slots of a server with such settings are. -/
structure CapacityLaw (settings : Settings) (s : Server) : Prop where
  orderly : s.desk.IsOrderly
  permits : s.desk.permitsAndTasks + s.reading.permits = settings.workers
  slots : s.writing ≠ .ended →
    s.desk.outbox.isOpen = true ∧ s.desk.outbox.slots = settings.outboxCapacity
  closed : s.writing = .ended → s.desk.outbox.isOpen = false ∧ s.desk.outbox.queue = []

namespace CapacityLaw

variable {settings : Settings} {s s' : Server}

theorem of_spawnWith {spare : Nat} (spawned : spawnWith spare settings = some s) :
    CapacityLaw settings s := by
  rw [eq_opened_of_spawnWith spawned]
  refine ⟨⟨nofun, List.nodup_nil, List.nodup_nil, List.nil_subset _⟩, rfl, fun _ => ⟨rfl, ?_⟩,
    nofun⟩
  exact Nat.zero_add _

/-- A desk with the permits, the slots and the queue that it had. -/
theorem putDesk (law : CapacityLaw settings s) {d : Desk} (orderly : d.IsOrderly)
    (permits : d.permitsAndTasks = s.desk.permitsAndTasks)
    (open_eq : d.outbox.isOpen = s.desk.outbox.isOpen)
    (slots : d.outbox.slots = s.desk.outbox.slots)
    (queue : s.desk.outbox.isOpen = false → d.outbox.queue = s.desk.outbox.queue) :
    CapacityLaw settings { s with desk := d } := by
  refine ⟨orderly, ?_, fun live => ?_, fun ended => ?_⟩
  · rw [permits]
    exact law.permits
  · rw [open_eq, slots]
    exact law.slots live
  · have closed := law.closed ended
    rw [open_eq, queue closed.1]
    exact closed

theorem task (law : CapacityLaw settings s) {m : Task.Move} {d : Desk}
    (h : s.desk.Step s.lifecycle.isCancelled m d) : CapacityLaw settings { s with desk := d } := by
  have orderly := law.orderly.of_step h
  cases h with
  | wait => exact law.putDesk orderly rfl rfl rfl fun _ => rfl
  | @settle ticket draw errand settled live servable settling =>
    have isOpen : s.desk.outbox.isOpen = true := (Bool.and_eq_true_iff.1 servable).1
    apply law.putDesk orderly
    · exact law.orderly.permitsAndTasks_finish ⟨rfl, rfl⟩ live
    · exact Outbox.isOpen_put _ _ _
    · exact Outbox.slots_put servable
    · intro closed
      cases isOpen.symm.trans closed
  | giveUp gaveUp =>
    -- why it gives up does not matter: it gives back what it has
    rcases gaveUp.live with ⟨errand, live⟩
    apply law.putDesk orderly
    · exact law.orderly.permitsAndTasks_finish ⟨rfl, rfl⟩ live
    · exact Outbox.isOpen_leave _ _
    · exact Outbox.slots_leave _ _
    · intro _
      exact Desk.queue_giveUp _ _

/-- The writer takes a reply out, and goes on or writes it. -/
theorem takeOut (law : CapacityLaw settings s) {reply : Reply} {outbox : Outbox}
    (taken : s.desk.outbox.take? = some (reply, outbox)) (ready : s.writing = .ready)
    {writing : Writing} (goesOn : writing ≠ .ended) :
    CapacityLaw settings { s with
      writing := writing
      desk := { s.desk with outbox := outbox } } := by
  have live : s.writing ≠ .ended := by simp [ready]
  rcases Outbox.slots_of_take? taken with ⟨open_eq, slots, holders⟩
  rcases law.slots live with ⟨isOpen, capacity⟩
  refine ⟨law.orderly.of_sublist ⟨rfl, rfl⟩ (by rw [holders]), law.permits, fun _ => ⟨?_, ?_⟩,
    fun ended => absurd ended goesOn⟩
  · exact open_eq.trans isOpen
  · exact slots.trans capacity

/-- Without its writer the outbox has neither slots nor places. -/
theorem endWriting (law : CapacityLaw settings s) : CapacityLaw settings s.endWriting where
  orderly := law.orderly.of_sublist ⟨rfl, rfl⟩ (List.nil_sublist _)
  permits := law.permits
  slots live := absurd rfl live
  closed _ := ⟨rfl, rfl⟩

/-- Reader and lifecycle change, and no permit goes to the reader or comes from it. -/
theorem putReading (law : CapacityLaw settings s) {reading : Reading} (inbox : List Datagram)
    (lifecycle : Lifecycle) (permits : reading.permits = s.reading.permits) :
    CapacityLaw settings { s with
      inbox := inbox
      reading := reading
      lifecycle := lifecycle } where
  orderly := law.orderly
  permits := by
    rw [permits]
    exact law.permits
  slots := law.slots
  closed := law.closed

theorem of_step {m : Move} (law : CapacityLaw settings s) (h : Step s m s') :
    CapacityLaw settings s' := by
  cases h with
  | @push reply outbox spare pushed =>
    rcases Outbox.slots_of_push? pushed with ⟨open_eq, isOpen, slots, holders⟩
    refine law.putDesk (law.orderly.of_sublist ⟨rfl, rfl⟩ (by rw [holders])) rfl open_eq slots fun closed => ?_
    cases isOpen.symm.trans closed
  | read ready => exact law.putReading _ _ (by rw [ready]; rfl)
  | failRead ready => exact law.putReading _ _ (by rw [ready]; rfl)
  | quit waits =>
    refine law.putReading _ _ ?_
    rcases waits with ready | ⟨errand, admitting⟩
    · rw [ready]
      rfl
    · rw [admitting]
      rfl
  | accept admitting permits =>
    have sum := law.permits
    rw [admitting, Desk.permitsAndTasks, Reading.permits] at sum
    refine { law with
      orderly := law.orderly.of_sublist ⟨rfl, rfl⟩ (List.Sublist.refl _)
      permits := ?_ }
    simp only [Desk.permitsAndTasks, Reading.permits]
    omega
  | start admitted =>
    have sum := law.permits
    rw [admitted, Reading.permits] at sum
    refine { law with orderly := law.orderly.start _, permits := ?_ }
    rw [Desk.permitsAndTasks_start, Reading.permits, Nat.add_zero]
    exact sum
  | save =>
    exact { law with orderly := law.orderly.of_sublist ⟨rfl, rfl⟩ (List.Sublist.refl _) }
  | task step => exact law.task step
  | take ready taken => exact law.takeOut taken ready nofun
  | skip ready taken => exact law.takeOut taken ready nofun
  | write busy =>
    have live : s.writing ≠ .ended := by simp [busy]
    exact { law with slots := fun _ => law.slots live, closed := nofun }
  | failWrite => exact { law.endWriting with }
  | finish => exact law.endWriting
  | _ => exact { law with }

/-- A reader that faults gives back the permit that it holds. -/
theorem abortReading (law : CapacityLaw settings s) : CapacityLaw settings s.abortReading := by
  unfold Server.abortReading
  split
  · next errand admitted =>
    have sum := law.permits
    rw [admitted, Desk.permitsAndTasks, Reading.permits] at sum
    refine { law with
      orderly := law.orderly.of_sublist ⟨rfl, rfl⟩ (List.Sublist.refl _)
      permits := ?_ }
    simp only [Desk.permitsAndTasks, Reading.permits]
    omega
  · next other =>
    refine law.putReading _ _ ?_
    cases reading : s.reading with
    | admitted errand => exact absurd reading (other errand)
    | _ => rfl

/-- The law does not look at the life of the server. -/
theorem putLifecycle (law : CapacityLaw settings s) (lifecycle : Lifecycle) :
    CapacityLaw settings { s with lifecycle := lifecycle } :=
  { law with }

end CapacityLaw

/-! ## A whole run -/

namespace Supervised

theorem capacityLaw_of_step {settings : Settings} {v v' : Supervised} {m : Move}
    (law : CapacityLaw settings v.server) (h : Step v m v') : CapacityLaw settings v'.server := by
  cases h with
  | part living moved => exact (law.of_step (.of_step moved)).putLifecycle _
  | cancel => exact law.putLifecycle _
  | breakReader => exact law.abortReading
  | breakWriter => exact law.endWriting
  | seeReader =>
    rw [server_seeReader]
    exact law.putLifecycle _
  | seeWriter => exact law.putLifecycle _
  | handle => exact law
  | returns => exact law

theorem capacityLaw_of_run {spare : Nat} {settings : Settings} {s : Server} {v : Supervised}
    {moves : List Move} (spawned : spawnWith spare settings = some s)
    (run : (ofServer s).run moves = some v) : CapacityLaw settings v.server :=
  run_induction (motive := fun _ v => CapacityLaw settings v.server) (.of_spawnWith spawned)
    (fun h law => capacityLaw_of_step law h) run

/-- **Permits and slots add up.**  After every run of a spawned server under supervision, however
its tasks have ended and whichever part has failed:

* the free permits, the live tasks and the permit that the reader holds make up the workers of the
  settings;
* as long as the writer has not ended, the queued replies, the granted slots and the free ones make
  up the capacity of the outbox;
* a granted slot is that of one live task, and no task has two;
* so there are never more tasks than workers, nor more queued replies than the outbox holds. -/
theorem permits_and_slots_add_up {spare : Nat} {settings : Settings} {s : Server} {v : Supervised}
    {moves : List Move} (spawned : spawnWith spare settings = some s)
    (run : (ofServer s).run moves = some v) :
    let d := v.server.desk
    d.permits + d.tasks.length + v.server.reading.permits = settings.workers ∧
    (v.server.writing ≠ .ended →
      d.outbox.queue.length + d.outbox.granted.length + d.outbox.free = settings.outboxCapacity) ∧
    (d.outbox.granted.Nodup ∧ ∀ ticket ∈ d.outbox.granted, ∃ t ∈ d.tasks, t.ticket = ticket) ∧
    d.tasks.length ≤ settings.workers ∧ d.outbox.queue.length ≤ settings.outboxCapacity := by
  intro d
  have law := capacityLaw_of_run spawned run
  have permits : d.permits + d.tasks.length + v.server.reading.permits = settings.workers :=
    law.permits
  have placed : d.outbox.granted.Sublist d.outbox.holders := List.sublist_append_left _ _
  refine ⟨permits, fun live => (law.slots live).2, ⟨law.orderly.places.sublist placed, ?_⟩,
    by omega, ?_⟩
  · intro ticket granted
    exact List.mem_map.1 (law.orderly.live (placed.subset granted))
  · by_cases ended : v.server.writing = .ended
    · rw [(law.closed ended).2]
      exact Nat.zero_le _
    · have slots : d.outbox.queue.length + d.outbox.granted.length + d.outbox.free = _ :=
        (law.slots ended).2
      omega

/-- Two workers and one slot.  The first task is served; the second waits in line until the writer
takes the first reply out, and has been granted the slot; the reader holds the permit that has come
back. -/
def slotGranted : List Move :=
  let login (port : Nat) : Datagram :=
    ⟨.loopback port, (Request.ofCredentials "alice" "pw").written⟩
  [.part (.arrive (login 9000)), .part (.arrive (login 9001)), .part (.arrive (login 9002)),
    .part .read, .part .accept, .part .start, .part .read, .part .accept, .part .start,
    .part .read, .part (.task (.serve 0 ⟨⟨"first"⟩, 1⟩)), .part (.task (.wait 1)), .part .accept,
    .part .take, .part .stop]

theorem permits_and_slots_add_up_of_slotGranted :
    let settings : Settings := { outboxCapacity := 1, workers := 2 }
    settings.check = .ok () ∧ spawnWith 0 settings = some (opened 0 settings) ∧
    ∃ v, (ofServer (opened 0 settings)).run slotGranted = some v ∧
      v.server.desk.outbox.granted = [1] ∧ v.server.reading.permits = 1 ∧
      v.server.desk.permits + v.server.desk.tasks.length + v.server.reading.permits = 2 ∧
      v.server.desk.outbox.queue.length + v.server.desk.outbox.granted.length
        + v.server.desk.outbox.free = 1 := by
  intro settings
  have spawned : spawnWith 0 settings = some (opened 0 settings) := by decide
  let welcome : Response := .login (.ok .login ⟨"first"⟩) "Welcome alice"
  have seen : ((ofServer (opened 0 settings)).run slotGranted).map (fun v =>
      (v.server.desk.outbox.granted, v.server.reading.permits, v.server.writing)) =
      some ([1], 1, .busy ⟨.loopback 9000, welcome.written⟩ false) := by decide +kernel
  rcases Option.map_eq_some_iff.1 seen with ⟨v, run, same⟩
  simp only [Prod.mk.injEq] at same
  rcases same with ⟨granted, held, writing⟩
  have live : v.server.writing ≠ .ended := by simp [writing]
  rcases permits_and_slots_add_up spawned run with ⟨permits, slots, -⟩
  exact ⟨rfl, spawned, v, run, granted, held, permits, slots live⟩

end Supervised

end DatagramSession.Server
