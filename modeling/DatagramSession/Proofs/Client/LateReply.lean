import DatagramSession.Proofs.Client.Conversation
import Mathlib.Data.List.Nodup

/-!
# Late replies

A reply does not say which request it answers.  A client that begins a request drops what it has
noticed in its queue, and so it never takes a reply that it has noticed too early; but a reply to a
request that it has given up may also be noticed too late for that, while the next request waits.

* `IsAnswered`: a peer that answers each request at most once, and not before it is made.
* `queue_suffix_reached`: what lies in a queue is the last of what has reached the socket.
* `takes_first_of_converse`: the reply that a request takes is the first that it can notice while it
  waits.
* `takes_late_reply`: this may be the reply to an earlier request.
-/

namespace DatagramSession.Client

/-! ## What reaches the socket -/

/-- A failure of the socket, or a reply to one of so many requests. -/
def Delivery.isDue (requests : Nat) (d : Delivery) : Bool :=
  match d.answers, d.arrival with
  | some place, _ => place < requests
  | none, .failure _ => true
  | none, .datagram _ => false

/-- A datagram that is due is a reply. -/
theorem Delivery.exists_answers_of_isDue {requests : Nat} {d : Delivery} {contents : Octets}
    (due : d.isDue requests = true) (arrival : d.arrival = .datagram contents) :
    ∃ place, d.answers = some place ∧ place < requests := by
  unfold isDue at due
  rw [arrival] at due
  cases answers : d.answers with
  | none => simp [answers] at due
  | some place => exact ⟨place, rfl, by simpa [answers] using due⟩

/-- What is due stays due. -/
theorem Delivery.isDue_mono {requests more : Nat} {d : Delivery} (due : d.isDue requests = true)
    (later : requests ≤ more) : d.isDue more = true := by
  unfold isDue at due ⊢
  split at due
  · next place _ => exact decide_eq_true (Nat.lt_of_lt_of_le (of_decide_eq_true due) later)
  · rfl
  · cases due

/-- What has reached the socket since the last request. -/
def Call.reached (call : Call) : List Delivery := call.occasion.before ++ call.during

/-- The peer answers each request at most once, and not before it is made; but for its replies, only
failures show at the socket. -/
structure IsAnswered (calls : List Call) : Prop where
  before : ∀ (k : Nat) (call : Call), calls[k]? = some call →
    ∀ d ∈ call.occasion.before, d.isDue k = true
  during : ∀ (k : Nat) (call : Call), calls[k]? = some call →
    ∀ d ∈ call.during, d.isDue (k + 1) = true
  once : ((calls.flatMap Call.reached).filterMap Delivery.answers).Nodup

theorem isAnswered_iff {calls : List Call} : IsAnswered calls ↔
    (∀ p ∈ calls.zipIdx, (∀ d ∈ p.1.occasion.before, d.isDue p.2 = true) ∧
      ∀ d ∈ p.1.during, d.isDue (p.2 + 1) = true) ∧
    ((calls.flatMap Call.reached).filterMap Delivery.answers).Nodup := by
  constructor
  · intro law
    refine ⟨fun (call, k) member => ?_, law.once⟩
    have found := List.mem_zipIdx_iff_getElem?.1 member
    exact ⟨law.before k call found, law.during k call found⟩
  · intro ⟨due, once⟩
    constructor
    · intro k call found
      exact (due (call, k) (List.mem_zipIdx_iff_getElem?.2 found)).1
    · intro k call found
      exact (due (call, k) (List.mem_zipIdx_iff_getElem?.2 found)).2
    · exact once

instance IsAnswered.decidable (calls : List Call) : Decidable (IsAnswered calls) :=
  decidable_of_iff _ isAnswered_iff.symm

/-- What lies in the queue when a request is begun is the last of what has reached the socket. -/
theorem queue_suffix_reached {c : Client} {left : List Delivery} {occasions : List Occasion}
    {k : Nat} {call : Call} (found : (c.converse left occasions)[k]? = some call) :
    call.queue <:+ left ++ (((c.converse left occasions).take k).flatMap Call.reached
      ++ call.occasion.before) := by
  induction occasions generalizing c left k with
  | nil => cases found
  | cons first rest ih =>
    cases k with
    | zero =>
      cases found
      exact List.suffix_rfl
    | succ k =>
      have kept : (c.call left first).left <:+ left ++ (c.call left first).reached := by
        rw [Call.reached, ← List.append_assoc]
        exact List.drop_suffix _ _
      have later := ih found
      change call.queue <:+ left ++ (((c.call left first) :: _).flatMap Call.reached ++ _)
      rw [List.flatMap_cons, List.append_assoc, ← List.append_assoc]
      exact later.trans (List.suffix_append_self_iff.2 kept)

namespace IsAnswered

variable {c : Client} {occasions : List Occasion} {k : Nat} {call : Call}

/-- No two of the replies that lie in the queue or come while the request waits are to the same
request. -/
theorem nodup_answers (law : IsAnswered (c.converse [] occasions))
    (found : (c.converse [] occasions)[k]? = some call) :
    ((call.queue ++ call.during).filterMap Delivery.answers).Nodup := by
  have queued := queue_suffix_reached found
  generalize c.converse [] occasions = calls at law found queued
  obtain ⟨bound, rfl⟩ := List.getElem?_eq_some_iff.1 found
  have all : calls.flatMap Call.reached =
      ([] ++ ((calls.take k).flatMap Call.reached ++ calls[k].occasion.before) ++
        calls[k].during) ++ (calls.drop (k + 1)).flatMap Call.reached := by
    conv_lhs => rw [← List.take_append_drop k calls, List.drop_eq_getElem_cons bound]
    simp only [List.flatMap_append, List.flatMap_cons, Call.reached, List.nil_append,
      List.append_assoc]
  have among : (calls[k].queue ++ calls[k].during).Sublist (calls.flatMap Call.reached) := by
    rw [all]
    exact (List.suffix_append_self_iff.2 queued).sublist.trans (List.sublist_append_left _ _)
  exact law.once.sublist (among.filterMap _)

/-- Whatever lies in the queue or comes while the request waits is due. -/
theorem isDue_of_mem (law : IsAnswered (c.converse [] occasions))
    (found : (c.converse [] occasions)[k]? = some call) {d : Delivery}
    (member : d ∈ call.queue ++ call.during) : d.isDue (k + 1) = true := by
  rcases List.mem_append.1 member with queued | came
  · have reached := (queue_suffix_reached found).subset queued
    rw [List.nil_append, List.mem_append] at reached
    rcases reached with earlier | before
    · obtain ⟨other, taken, reached⟩ := List.mem_flatMap.1 earlier
      obtain ⟨j, bound, rfl⟩ := List.mem_iff_getElem.1 taken
      rw [List.length_take] at bound
      have place : (c.converse [] occasions)[j]? = some ((c.converse [] occasions).take k)[j] := by
        rw [List.getElem_take, List.getElem?_eq_getElem]
      rcases List.mem_append.1 reached with before | during
      · exact Delivery.isDue_mono (law.before j _ place d before) (by omega)
      · exact Delivery.isDue_mono (law.during j _ place d during) (by omega)
    · exact Delivery.isDue_mono (law.before k call found d before) (Nat.le_succ k)
  · exact law.during k call found d came

end IsAnswered

/-! ## The reply that is taken -/

/-- What a request returns for the response that it has decoded. -/
def outcome : Response → Except Failure Response
  | .refusal header => .error (.rejected header.error)
  | response => .ok response

theorem outcome_of_isOk {action : Action} {octets : Octets} {response : Response}
    (decoded : Response.decode action octets = .ok response) (success : response.isOk = true) :
    outcome response = .ok response := by
  cases response with
  | refusal header =>
    obtain ⟨_, _, _, failed⟩ := Response.written_of_decode decoded
    cases success.symm.trans failed
  | _ => rfl

/-- A request that returns what it has decoded has decoded what it has heard. -/
theorem Ends.exists_heard {c : Client} {r : Request} {noticed : Nat} {queue : List Arrival}
    {network : Octets → Except IoError (Wait Arrival)} {x : Exchange}
    (h : Ends c r noticed queue network x)
    (taken : (∃ response, x.result = .ok response) ∨
      ∃ reason, x.result = .error (.rejected reason)) :
    ∃ contents wait octets response, x.sent = some contents ∧ network contents = .ok wait ∧
      wait.heard? (queue.drop noticed) = some (.datagram octets) ∧
      Response.decode r.action (octets.take Wire.limit) = .ok response ∧
      x.result = outcome response ∧
      (response.isOk = true → x.client.session = response.session) := by
  cases h with
  | @rejected contents octets wait header _ brought heard decoded =>
    obtain ⟨_, _, _, failed⟩ := Response.written_of_decode decoded
    refine ⟨contents, wait, octets, .refusal header, rfl, brought, heard, decoded, rfl, ?_⟩
    intro success
    cases success.symm.trans failed
  | @answered contents octets wait response _ brought heard decoded success =>
    exact ⟨contents, wait, octets, response, rfl, brought, heard, decoded,
      (outcome_of_isOk decoded success).symm, fun _ => rfl⟩
  | _ => simp at taken

/-- What a request hears is the first of what it can notice while it waits. -/
theorem Call.exists_cons_of_heard {call : Call} {contents : Octets} {wait : Wait Arrival}
    {arrival : Arrival} (sent : call.exchange.sent = some contents)
    (brought : call.occasion.seen contents = .ok wait)
    (heard : wait.heard? ((call.queue.map Delivery.arrival).drop call.occasion.noticed) =
      some arrival) :
    ∃ d rest, call.unnoticed ++ call.during = d :: rest ∧ d.arrival = arrival := by
  have during := map_arrival_during call
  rw [sent, Option.bind_some, brought] at during
  have first := eq_cons_of_head?_take heard
  rw [← List.map_drop, ← show _ = wait.arrivals from during, ← List.map_append] at first
  obtain ⟨d, rest, all, same, -⟩ := List.map_eq_cons_iff.1 first
  exact ⟨d, rest, all, same⟩

/-- **A reply is taken in its turn.**  In every conversation of a client with a peer that answers
each request at most once, however long its replies are under way and however much of its queue the
client notices, a request that returns a response or a refusal has decoded the first reply of those
that it could notice while it waited: they are what it had not noticed before, and what has reached
the socket since.  The session that it adopts is that reply's.  This reply

* was not noticed when the request was begun;
* answers the request itself or an earlier one;
* answers the request itself unless a reply to an earlier one is among those that could be noticed
  only while the request waited. -/
theorem takes_first_of_converse (server : Address) (patience : Duration) (occasions : List Occasion)
    {k : Nat} {call : Call}
    (answered : IsAnswered ((ofServer server patience).converse [] occasions))
    (found : ((ofServer server patience).converse [] occasions)[k]? = some call)
    (taken : (∃ response, call.exchange.result = .ok response) ∨
      ∃ reason, call.exchange.result = .error (.rejected reason)) :
    ∃ reply rest contents response place,
      call.unnoticed ++ call.during = reply :: rest ∧ reply.arrival = .datagram contents ∧
      Response.decode call.occasion.request.action (contents.take Wire.limit) = .ok response ∧
      call.exchange.result = outcome response ∧
      (response.isOk = true → call.exchange.client.session = response.session) ∧
      reply.answers = some place ∧ reply ∉ call.queue.take call.occasion.noticed ∧ place ≤ k ∧
      ((∀ d ∈ call.unnoticed ++ call.during, ∀ earlier, d.answers = some earlier →
        k ≤ earlier) → place = k) := by
  obtain ⟨made, ends⟩ := ends_of_converse found
  obtain ⟨octets, wait, contents, response, sent, brought, heard, decoded, result, session⟩ :=
    ends.exists_heard taken
  obtain ⟨reply, rest, ahead, arrival⟩ := Call.exists_cons_of_heard sent brought heard
  have waiting : reply ∈ call.unnoticed ++ call.during := ahead ▸ List.mem_cons_self
  have all : call.queue ++ call.during =
      call.queue.take call.occasion.noticed ++ (call.unnoticed ++ call.during) := by
    rw [Call.unnoticed, ← List.append_assoc, List.take_append_drop]
  have member : reply ∈ call.queue ++ call.during := all ▸ List.mem_append_right _ waiting
  obtain ⟨place, answers, early⟩ :=
    Delivery.exists_answers_of_isDue (answered.isDue_of_mem found member) arrival
  have once := answered.nodup_answers found
  rw [all, List.filterMap_append, List.nodup_append] at once
  obtain ⟨-, -, apart⟩ := once
  have new : reply ∉ call.queue.take call.occasion.noticed := fun noticed =>
    apart place (List.mem_filterMap.2 ⟨reply, noticed, answers⟩) place
      (List.mem_filterMap.2 ⟨reply, waiting, answers⟩) rfl
  refine ⟨reply, rest, contents, response, place, ahead, arrival, decoded, result, session, answers,
    new, Nat.le_of_lt_succ early, ?_⟩
  intro own
  have late := own reply waiting place answers
  omega

/-- A reply with a session. -/
def welcome (account id : String) : Arrival :=
  .datagram (Response.login (.ok .login ⟨id⟩) ("Welcome " ++ account)).written

/-- The reply to the first login comes after that was given up, and is noticed before the second is
begun. -/
def staleWelcome : List Occasion :=
  [⟨.ofCredentials "alice" "pw", [], 0, fun _ => .ok ⟨[], 0⟩⟩,
    ⟨.ofCredentials "alice" "pw", [⟨some 0, welcome "alice" "stale"⟩], 1,
      fun _ => .ok ⟨[⟨some 1, welcome "alice" "fresh"⟩], 1⟩⟩]

theorem takes_first_of_converse_of_staleWelcome :
    let calls := (ofServer (.loopback 8888) standardPatience).converse [] staleWelcome
    IsAnswered calls ∧
    ∃ call, calls[1]? = some call ∧
      call.queue.take call.occasion.noticed = [⟨some 0, welcome "alice" "stale"⟩] ∧
      (∃ response, call.exchange.result = .ok response) ∧
      call.exchange.client.session = ⟨"fresh"⟩ ∧
      ∃ reply rest, call.unnoticed ++ call.during = reply :: rest ∧
        reply ∉ call.queue.take call.occasion.noticed ∧ reply.answers = some 1 := by
  intro calls
  have answered : IsAnswered calls := by decide +kernel
  have second : calls[1]?.map (fun call => (call.queue.take call.occasion.noticed,
      call.unnoticed ++ call.during, call.exchange.result, call.exchange.client.session)) =
      some ([⟨some 0, welcome "alice" "stale"⟩], [⟨some 1, welcome "alice" "fresh"⟩],
        .ok (.login (.ok .login ⟨"fresh"⟩) "Welcome alice"), ⟨"fresh"⟩) := by decide +kernel
  obtain ⟨call, found, same⟩ := Option.map_eq_some_iff.1 second
  simp only [Prod.mk.injEq] at same
  obtain ⟨noticed, waiting, result, session⟩ := same
  obtain ⟨reply, rest, _, _, place, first, _, _, _, _, answers, new, _, own⟩ :=
    takes_first_of_converse (.loopback 8888) standardPatience staleWelcome answered found
      (.inl ⟨_, result⟩)
  have turn : place = 1 := by
    apply own
    rw [waiting]
    decide
  rw [turn] at answers
  exact ⟨answered, call, found, noticed, ⟨_, result⟩, session, reply, rest, first, new, answers⟩

/-- The reply to the first login comes only when the second waits, and before the reply to that. -/
def lateWelcome : List Occasion :=
  [⟨.ofCredentials "alice" "pw", [], 0, fun _ => .ok ⟨[], 0⟩⟩,
    ⟨.ofCredentials "bob" "pw", [], 0, fun _ =>
      .ok ⟨[⟨some 0, welcome "alice" "first"⟩, ⟨some 1, welcome "bob" "second"⟩], 1⟩⟩]

/-- **A late reply is taken for that to a newer request.**  Both logins are sent and each is answered
once, but the second takes the reply to the first, and its session, though nothing lay in the queue
when it was begun. -/
theorem takes_late_reply :
    let calls := (ofServer (.loopback 8888) standardPatience).converse [] lateWelcome
    IsAnswered calls ∧ calls.map (·.exchange.sent.isSome) = [true, true] ∧
    calls.map (·.exchange.result) = [.error (.silence standardPatience),
      .ok (.login (.ok .login ⟨"first"⟩) "Welcome alice")] ∧
    ∃ call reply own, calls[1]? = some call ∧ call.queue = [] ∧ call.during = [reply, own] ∧
      reply.answers = some 0 ∧ own.answers = some 1 ∧
      call.exchange.client.session = ⟨"first"⟩ := by
  intro calls
  have answered : IsAnswered calls := by decide +kernel
  have sent : calls.map (·.exchange.sent.isSome) = [true, true] := by decide +kernel
  have results : calls.map (·.exchange.result) = [.error (.silence standardPatience),
      .ok (.login (.ok .login ⟨"first"⟩) "Welcome alice")] := by decide +kernel
  have second : calls[1]?.map (fun call =>
      (call.queue, call.during, call.exchange.client.session)) =
      some ([], [⟨some 0, welcome "alice" "first"⟩, ⟨some 1, welcome "bob" "second"⟩],
        ⟨"first"⟩) := by decide +kernel
  obtain ⟨call, found, same⟩ := Option.map_eq_some_iff.1 second
  simp only [Prod.mk.injEq] at same
  obtain ⟨queue, during, session⟩ := same
  exact ⟨answered, sent, results, call, _, _, found, queue, during, rfl, rfl, session⟩

end DatagramSession.Client
