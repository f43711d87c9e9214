import DatagramSession.Errand

/-!
# Handling an errand in place

`Errand.settle` says what comes of an errand, and where it fails it says nothing of what is left.
Here an errand is handled step after step, on the errand and the table themselves: a failure undoes
nothing, so what it leaves is what the steps before it have left.  Both come to the same, and so it
can be said what a handling changes, and what it leaves alone.

* `Matter.handled_eq_settle`: handling in place is settling, and a failure leaves all as it was.
* `Table.Saved`: what a save may change in a table.
* `Matter.handling_changes_only_its_due`: what is left after any handling.
-/

namespace DatagramSession

/-! ## Saves -/

/-- A table before and after a save: no entry but that of the id has changed, and the id has been
saved now, for the first time if it was not there.  The absent id is not saved. -/
structure Table.Saved (t t' : Table) (id : SessionId) (now : Instant) : Prop where
  others : ∀ x, x ≠ id → t'.get? x = t.get? x
  absent : id.isAbsent = true → t' = t
  created : id.isAbsent = false → t.get? id = none → t'.get? id = some ⟨now, now⟩
  refreshed : id.isAbsent = false → ∀ entry, t.get? id = some entry →
    t'.get? id = some { entry with lastSaved := now }
  has : id.isAbsent = false → t'.has id = true

theorem Table.saved_save (t : Table) (id : SessionId) (now : Instant) :
    t.Saved (t.save id now).2 id now where
  others x other := by
    rw [get?_save, if_pos (.inr other)]
  absent absent := by
    rw [save, if_pos absent]
  created present missing := by
    rw [get?_save, if_neg (by simp [present]), missing]
    rfl
  refreshed present entry found := by
    rw [get?_save, if_neg (by simp [present]), found]
    rfl
  has present := by
    rw [Table.has, get?_save, if_neg (by simp [present])]
    rfl

/-- An errand is a login, a shutdown, or neither. -/
theorem Errand.login_or_shutdown_or_mismatch (errand : Errand) :
    (∃ header account password, errand.action = .login ∧
      errand.request = .login header account password) ∨
    (∃ header, errand.action = .shutdown ∧ errand.request = .shutdown header) ∨
    errand.request.bodyAction ≠ errand.action := by
  cases request : errand.request with
  | login header account password =>
    cases action : errand.action with
    | login => exact .inl ⟨header, account, password, rfl, rfl⟩
    | shutdown => exact .inr (.inr nofun)
  | shutdown header =>
    cases action : errand.action with
    | login => exact .inr (.inr nofun)
    | shutdown => exact .inr (.inl ⟨header, rfl, rfl⟩)

/-! ## Steps on a matter -/

/-- An errand in hand, and the table before which it is handled. -/
structure Matter where
  errand : Errand
  table : Table
deriving DecidableEq, Repr

namespace Matter

/-- Steps on a matter; a failure keeps what was done before it. -/
abbrev Steps (α : Type) := ExceptT Mismatch (StateM Matter) α

/-- The errand is issued a session. -/
def issue (id : SessionId) : Steps Unit :=
  modify fun m => { m with errand := { m.errand with session := id } }

/-- The table saves the session of the errand. -/
def save (now : Instant) : Steps Bool :=
  modifyGet fun m =>
    let (stored, table) := m.table.save m.errand.session now
    (stored, { m with table := table })

/-- The reply is made for the session that was issued, and then the session is saved. -/
def logIn (account : String) (draw : Draw) : Steps Verdict := do
  issue draw.fresh
  let session := (← get).errand.session
  let verdict := .carryOn (.login (.ok .login session) (Errand.welcome account))
  let _ ← save draw.now
  return verdict

/-- The table is asked for the session of the header; the reply is for the session of the errand. -/
def shutDown (header : RequestHeader) : Steps Verdict := do
  let known := (← get).table.has header.session
  let session := (← get).errand.session
  return if known then .shutDown (.shutdown (.ok .shutdown session))
    else .carryOn (.refusal (.failed .shutdown session Errand.invalidSession))

def handle (draw : Draw) : Steps Verdict := do
  match (← get).errand.action, (← get).errand.request with
  | .login, .login _ account _ => logIn account draw
  | .shutdown, .shutdown header => shutDown header
  | action, _ => throw ⟨action⟩

/-- What a handling comes to, and what it leaves. -/
def handled (m : Matter) (draw : Draw) : Except Mismatch Verdict × Matter :=
  (handle draw).run.run m

/-- Handling in place comes to what settling says, and where that fails nothing was done. -/
theorem handled_eq_settle (m : Matter) (draw : Draw) :
    m.handled draw =
      match m.errand.settle draw m.table with
      | .ok settled => (.ok settled.verdict, ⟨settled.errand, settled.table⟩)
      | .error mismatch => (.error mismatch, m) := by
  obtain ⟨⟨sender, action, request, session⟩, table⟩ := m
  cases action with
  | login =>
    cases request with
    | login header account password => rfl
    | shutdown header => rfl
  | shutdown =>
    cases request with
    | login header account password => rfl
    | shutdown header => rfl

section Handled

variable {m : Matter} {header : RequestHeader}

theorem handled_login {account password : String} (action : m.errand.action = .login)
    (request : m.errand.request = .login header account password) (draw : Draw) :
    m.handled draw =
      (.ok (m.errand.logIn account draw m.table).verdict,
        ⟨(m.errand.logIn account draw m.table).errand,
          (m.errand.logIn account draw m.table).table⟩) := by
  rw [handled_eq_settle, Errand.settle_login action request]

theorem handled_shutdown (action : m.errand.action = .shutdown)
    (request : m.errand.request = .shutdown header) (draw : Draw) :
    m.handled draw = (.ok (m.errand.shutDown header m.table).verdict, m) := by
  rw [handled_eq_settle, Errand.settle_shutdown action request]
  rfl

/-- A body of the other action is refused before anything is done. -/
theorem handled_mismatch (disagree : m.errand.request.bodyAction ≠ m.errand.action) (draw : Draw) :
    m.handled draw = (.error ⟨m.errand.action⟩, m) := by
  rw [handled_eq_settle]
  cases settling : m.errand.settle draw m.table with
  | ok settled => exact absurd (Errand.exists_settle_eq_ok_iff.1 ⟨settled, settling⟩) disagree
  | error mismatch =>
    unfold Errand.settle at settling
    split at settling
    · cases settling
    · cases settling
    · cases settling
      rfl

/-- A reply is for the action of the errand. -/
theorem action_of_handled {draw : Draw} {verdict : Verdict}
    (handled : (m.handled draw).1 = .ok verdict) : verdict.response.action = m.errand.action := by
  rw [handled_eq_settle] at handled
  cases settling : m.errand.settle draw m.table with
  | error mismatch =>
    rw [settling] at handled
    cases handled
  | ok settled =>
    rw [settling] at handled
    cases handled
    rcases Errand.settle_eq_ok_iff.1 settling with
      ⟨header, account, password, action, -, rfl⟩ | ⟨header, action, -, rfl⟩
    · exact action.symm
    · rw [action]
      cases known : m.table.has header.session with
      | true =>
        rw [Errand.verdict_shutDown_of_has m.errand known]
        rfl
      | false =>
        rw [Errand.verdict_shutDown_of_not_has m.errand known]
        rfl

end Handled

/-- **A handling changes only what is its due.**  It comes to what settling the errand comes to.  It
fails exactly if the body does not belong to the action of the errand, with that action, and then
the errand and the table are as they were.  A shutdown leaves both as they were.  A login changes of
the errand the session alone, which is the one that was drawn, and of the table the entry of that
session alone; its reply welcomes the account under that session.  Each reply is for the action of
the errand. -/
theorem handling_changes_only_its_due (m : Matter) (draw : Draw) :
    (m.errand.settle draw m.table =
      (m.handled draw).1.map fun verdict =>
        ⟨verdict, (m.handled draw).2.errand, (m.handled draw).2.table⟩) ∧
    (m.errand.request.bodyAction ≠ m.errand.action →
      m.handled draw = (.error ⟨m.errand.action⟩, m)) ∧
    (m.errand.request.bodyAction = m.errand.action →
      ∃ verdict, (m.handled draw).1 = .ok verdict ∧
        verdict.response.action = m.errand.action) ∧
    (m.errand.action = .shutdown → (m.handled draw).2 = m) ∧
    ∀ header account password, m.errand.action = .login →
      m.errand.request = .login header account password →
      (m.handled draw).1 =
        .ok (.carryOn (.login (.ok .login draw.fresh) ("Welcome " ++ account))) ∧
      (m.handled draw).2.errand = { m.errand with session := draw.fresh } ∧
      m.table.Saved (m.handled draw).2.table draw.fresh draw.now := by
  refine ⟨?_, fun disagree => handled_mismatch disagree draw, fun agree => ?_, fun action => ?_, ?_⟩
  · rw [handled_eq_settle]
    cases m.errand.settle draw m.table with
    | ok settled => rfl
    | error mismatch => rfl
  · obtain ⟨settled, settling⟩ := Errand.exists_settle_eq_ok_iff.2 agree
    have handled : (m.handled draw).1 = .ok settled.verdict := by
      rw [handled_eq_settle, settling]
    exact ⟨settled.verdict, handled, action_of_handled handled⟩
  · rcases m.errand.login_or_shutdown_or_mismatch with
      ⟨header, account, password, login, -⟩ | ⟨header, -, request⟩ | disagree
    · rw [action] at login
      cases login
    · rw [handled_shutdown action request]
    · rw [handled_mismatch disagree]
  · intro header account password action request
    rw [handled_login action request]
    exact ⟨rfl, rfl, m.table.saved_save draw.fresh draw.now⟩

end Matter

end DatagramSession
