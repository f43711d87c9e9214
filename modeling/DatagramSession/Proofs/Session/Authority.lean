import DatagramSession.Proofs.Session.Handling
import Mathlib.Data.List.Forall2
import Mathlib.Tactic.Tauto

/-!
# Who may shut down

A clerk handles one errand after another before one table, and between them the owner of the table
saves ids.  Any errand may come at any time: an errand carries the session of its header and another
one that its reply is for, and nothing makes them agree with each other, or its action with its
body.

What a shutdown is answered depends on the history alone: it is granted to the sessions that were
issued to a login, or saved, before it, and to no others.

* `Clerk.mem_ids_serve`, `Clerk.mem_ids_after`: the ids that one call adds, and those of a history.
* `Clerk.grants_exactly_known_sessions`: the law of a history.
-/

namespace DatagramSession.Clerk

/-- What a clerk is asked to do. -/
inductive Call where
  | handle (errand : Errand) (draw : Draw)
  | save (id : SessionId) (now : Instant)
deriving DecidableEq, Repr

/-- What a clerk answers. -/
inductive Answer where
  | handled (result : Except Mismatch Verdict)
  | saved (isNew : Bool)
deriving Repr

/-- The answer to a call, and the table after it. -/
def serve (t : Table) : Call → Answer × Table
  | .handle errand draw =>
    let (result, m) := (Matter.mk errand t).handled draw
    (.handled result, m.table)
  | .save id now =>
    let (isNew, t) := t.save id now
    (.saved isNew, t)

/-- The table after calls. -/
def after (t : Table) (calls : List Call) : Table :=
  calls.foldl (fun t c => (serve t c).2) t

/-- The answers to calls, one after the other. -/
def answers (t : Table) : List Call → List Answer
  | [] => []
  | c :: rest => (serve t c).1 :: answers (serve t c).2 rest

/-- The session that an answer issues: that of a successful login. -/
def Answer.issued : Answer → List SessionId
  | .handled (.ok (.carryOn (.login header _))) => if header.isOk then [header.session] else []
  | _ => []

/-- The id that a call asks to save. -/
def Call.saved : Call → List SessionId
  | .save id _ => [id]
  | .handle .. => []

/-- The sessions that were issued or saved along a history. -/
def known (calls : List Call) : List SessionId :=
  (answers .empty calls).flatMap Answer.issued ++ calls.flatMap Call.saved

/-- A shutdown that was granted. -/
def Answer.isGrant : Answer → Bool
  | .handled (.ok verdict) => verdict.isShutDown
  | _ => false

/-- An errand that is not a login: a shutdown, or one whose body does not belong to its action. -/
def Call.IsIdle : Call → Prop
  | .handle errand _ => errand.action = .shutdown ∨ errand.request.bodyAction ≠ errand.action
  | .save .. => False

/-- The same call, but that an errand may be for another session than before. -/
inductive Call.IsAlike : Call → Call → Prop
  | handle (errand : Errand) (draw : Draw) (session : SessionId) :
    IsAlike (.handle errand draw) (.handle { errand with session := session } draw)
  | save (id : SessionId) (now : Instant) : IsAlike (.save id now) (.save id now)

/-! ## One call -/

section Serve

variable {t : Table} {errand : Errand} {header : RequestHeader}

theorem serve_login {account password : String} (action : errand.action = .login)
    (request : errand.request = .login header account password) (draw : Draw) :
    serve t (.handle errand draw) =
      (.handled (.ok (.carryOn (.login (.ok .login draw.fresh) (Errand.welcome account)))),
        (t.save draw.fresh draw.now).2) := by
  rw [serve, Matter.handled_login (m := ⟨errand, t⟩) action request]
  rfl

theorem serve_shutdown (action : errand.action = .shutdown)
    (request : errand.request = .shutdown header) (draw : Draw) :
    serve t (.handle errand draw) = (.handled (.ok (errand.shutDown header t).verdict), t) := by
  rw [serve, Matter.handled_shutdown (m := ⟨errand, t⟩) action request]

theorem serve_mismatch (disagree : errand.request.bodyAction ≠ errand.action) (draw : Draw) :
    serve t (.handle errand draw) = (.handled (.error ⟨errand.action⟩), t) := by
  rw [serve, Matter.handled_mismatch (m := ⟨errand, t⟩) disagree]

end Serve

/-- Neither of the answers to a shutdown issues a session. -/
theorem issued_shutDown (errand : Errand) (header : RequestHeader) (t : Table) :
    (Answer.handled (.ok (errand.shutDown header t).verdict)).issued = [] := by
  cases known : t.has header.session with
  | true =>
    rw [Errand.verdict_shutDown_of_has errand known]
    rfl
  | false =>
    rw [Errand.verdict_shutDown_of_not_has errand known]
    rfl

theorem mem_ids_save_iff {t : Table} {id x : SessionId} {now : Instant} :
    x ∈ (t.save id now).2.ids ↔ x ∈ t.ids ∨ x.isAbsent = false ∧ x = id := by
  rw [Table.mem_ids_save, Bool.not_eq_true]
  refine or_congr_right ⟨?_, ?_⟩
  · rintro ⟨rfl, present⟩
    exact ⟨present, rfl⟩
  · rintro ⟨present, rfl⟩
    exact ⟨rfl, present⟩

/-- What a call adds to the ids is what it issues or saves, unless that is absent. -/
theorem mem_ids_serve {t : Table} {c : Call} {id : SessionId} :
    id ∈ (serve t c).2.ids ↔
      id ∈ t.ids ∨ id.isAbsent = false ∧ (id ∈ (serve t c).1.issued ∨ id ∈ c.saved) := by
  cases c with
  | save x now =>
    simp only [serve, Answer.issued, Call.saved, mem_ids_save_iff, List.not_mem_nil, false_or,
      List.mem_singleton]
  | handle errand draw =>
    rcases errand.login_or_shutdown_or_mismatch with
      ⟨header, account, password, action, request⟩ | ⟨header, action, request⟩ | disagree
    · rw [serve_login action request]
      simp only [Answer.issued, ResponseHeader.ok, Call.saved, mem_ids_save_iff, List.not_mem_nil,
        or_false, if_true, List.mem_singleton]
    · rw [serve_shutdown action request, issued_shutDown]
      simp [Call.saved]
    · rw [serve_mismatch disagree]
      simp [Call.saved, Answer.issued]

/-- An errand that is no login leaves the table as it was. -/
theorem serve_of_idle {t : Table} {c : Call} (idle : c.IsIdle) : (serve t c).2 = t := by
  cases c with
  | save id now => exact idle.elim
  | handle errand draw =>
    rcases errand.login_or_shutdown_or_mismatch with
      ⟨header, account, password, action, request⟩ | ⟨header, action, request⟩ | disagree
    · rcases idle with shutdown | disagree
      · rw [action] at shutdown
        cases shutdown
      · rw [action, request] at disagree
        exact absurd rfl disagree
    · rw [serve_shutdown action request]
    · rw [serve_mismatch disagree]

/-- The session that an errand is for decides nothing. -/
theorem serve_of_alike {t : Table} {c c' : Call} (alike : c.IsAlike c') :
    (serve t c').2 = (serve t c).2 ∧ (serve t c').1.isGrant = (serve t c).1.isGrant := by
  cases alike with
  | save id now => exact ⟨rfl, rfl⟩
  | handle errand draw session =>
    let other : Errand := { errand with session := session }
    rcases errand.login_or_shutdown_or_mismatch with
      ⟨header, account, password, action, request⟩ | ⟨header, action, request⟩ | disagree
    · rw [serve_login action request, @serve_login t other header account password action request]
      exact ⟨rfl, rfl⟩
    · rw [serve_shutdown action request, @serve_shutdown t other header action request]
      refine ⟨rfl, ?_⟩
      simp only [Answer.isGrant, Errand.shutDown]
      split <;> rfl
    · rw [serve_mismatch disagree, @serve_mismatch t other disagree]
      exact ⟨rfl, rfl⟩

/-! ## Histories -/

theorem mem_ids_after {t : Table} {calls : List Call} {id : SessionId} :
    id ∈ (after t calls).ids ↔
      id ∈ t.ids ∨ id.isAbsent = false ∧
        (id ∈ (answers t calls).flatMap Answer.issued ∨ id ∈ calls.flatMap Call.saved) := by
  induction calls generalizing t with
  | nil => simp [after, answers]
  | cons c rest ih =>
    rw [after, List.foldl_cons, ← after, ih, mem_ids_serve]
    simp only [answers, List.flatMap_cons, List.mem_append]
    tauto

/-- The ids of a table that was empty are the known ones. -/
theorem has_after_iff {calls : List Call} {id : SessionId} :
    (after .empty calls).has id = true ↔ id.isAbsent = false ∧ id ∈ known calls := by
  rw [Table.has_iff_mem_ids, mem_ids_after, known, List.mem_append]
  simp [Table.ids, Table.empty]

theorem getElem?_answers (t : Table) (calls : List Call) (place : Nat) :
    (answers t calls)[place]? =
      calls[place]?.map fun c => (serve (after t (calls.take place)) c).1 := by
  induction calls generalizing t place with
  | nil => rfl
  | cons c rest ih =>
    cases place with
    | zero => rfl
    | succ place => exact ih (serve t c).2 place

theorem after_of_idle {t : Table} {calls : List Call} (idle : ∀ c ∈ calls, c.IsIdle) :
    after t calls = t := by
  induction calls generalizing t with
  | nil => rfl
  | cons c rest ih =>
    rw [after, List.foldl_cons, ← after, serve_of_idle (idle c List.mem_cons_self)]
    exact ih fun c' member => idle c' (List.mem_cons_of_mem _ member)

theorem grants_of_alike {t : Table} {calls calls' : List Call}
    (alike : List.Forall₂ Call.IsAlike calls calls') :
    after t calls' = after t calls ∧
      (answers t calls').map Answer.isGrant = (answers t calls).map Answer.isGrant := by
  induction alike generalizing t with
  | nil => exact ⟨rfl, rfl⟩
  | @cons c c' rest rest' first _ ih =>
    obtain ⟨table, grant⟩ := serve_of_alike (t := t) first
    obtain ⟨tables, grants⟩ := ih (t := (serve t c).2)
    rw [after, after, List.foldl_cons, List.foldl_cons, ← after, ← after, answers, answers, table,
      List.map_cons, List.map_cons, grant, grants]
    exact ⟨tables, rfl⟩

/-- **A shutdown is granted to known sessions alone.**  Along every history before a table that was
empty, a shutdown is granted if the session of its header is not absent and was issued to a login,
or saved, earlier in the history; and else it is refused as an invalid session.  The session that an
errand is for is told in the reply and decides nothing: with any others in their places the same
calls are granted.  Shutdowns, granted or refused, and errands whose body does not belong to their
action, however many, change no later answer. -/
theorem grants_exactly_known_sessions (calls : List Call) :
    (∀ (place : Nat) (errand : Errand) (draw : Draw) (header : RequestHeader),
      calls[place]? = some (.handle errand draw) →
      errand.action = .shutdown → errand.request = .shutdown header →
      (answers .empty calls)[place]? = some (.handled (.ok (
        if header.session.isAbsent = false ∧ header.session ∈ known (calls.take place) then
          .shutDown (.shutdown (.ok .shutdown errand.session))
        else .carryOn (.refusal (.failed .shutdown errand.session "invalid session id")))))) ∧
    (∀ calls', List.Forall₂ Call.IsAlike calls calls' →
      (answers .empty calls').map Answer.isGrant = (answers .empty calls).map Answer.isGrant) ∧
    ∀ idle later, (∀ c ∈ idle, c.IsIdle) →
      answers (after .empty (calls ++ idle)) later = answers (after .empty calls) later := by
  refine ⟨?_, fun calls' alike => (grants_of_alike alike).2, ?_⟩
  · intro place errand draw header made action request
    rw [getElem?_answers, made, Option.map_some, serve_shutdown action request]
    by_cases isKnown : header.session.isAbsent = false ∧ header.session ∈ known (calls.take place)
    · rw [if_pos isKnown, Errand.verdict_shutDown_of_has errand (has_after_iff.2 isKnown)]
    · have unknown := Bool.eq_false_iff.2 (mt has_after_iff.1 isKnown)
      rw [if_neg isKnown, Errand.verdict_shutDown_of_not_has errand unknown]
      rfl
  · intro idle later none
    have same : after .empty (calls ++ idle) = after .empty calls := by
      rw [after, List.foldl_append]
      exact after_of_idle none
    rw [same]

/-- An errand that asks for the shutdown in the name of a session, and wants to be told another. -/
def shutdownOf (known told : SessionId) : Call :=
  .handle ⟨.loopback 9000, .shutdown, .shutdown ⟨.login, known⟩, told⟩ ⟨.absent, 0⟩

/-- The id is unknown until it is issued; it does not help to be told of it. -/
example :
    let login := Errand.ofRequest (.loopback 9001) (.ofCredentials "alice" "pw")
    (answers .empty [shutdownOf ⟨"first"⟩ .absent, .handle login ⟨⟨"first"⟩, 1⟩,
      shutdownOf .absent ⟨"first"⟩, shutdownOf ⟨"first"⟩ .absent]).map Answer.isGrant =
      [false, false, false, true] := by
  decide

end DatagramSession.Clerk
