import DatagramSession.Proofs.Server.ReplySize
import DatagramSession.Proofs.System.Link

/-!
# The sessions of turns

What a turn has to come to depends on the turns before it only through the sessions that logins have
been given: whether a client has one, and which ones are taken.

* `Turn.IsDue`: what a turn has to come to.
* `Booked`: the table and the clients know the sessions that have been given.
* `Booked.snoc`: one more turn is booked.
* `Booked.isSound`: a request that fits is sound as its client sends it.
-/

namespace DatagramSession

open Server (IsSound)

/-- What a turn has to come to, after the turns before it: a login is welcomed with a session that
nobody has been given; a shutdown is granted to a client that has logged in, and refused to any
other, for whom nothing changes. -/
def Turn.IsDue (t : Turn) (earlier : List Turn) : Prop :=
  match t.request with
  | .login _ account _ => ∃ id,
    t.result? = some (.ok (.login (.ok .login id) ("Welcome " ++ account))) ∧
    id ∉ issuedIn earlier ∧ t.clientAfter?.map (·.session) = some id
  | .shutdown _ =>
    match lastLogin earlier t.caller with
    | some id =>
      t.result? = some (.ok (.shutdown (.ok .shutdown id))) ∧ .stopping ≤ t.after.server.stage
    | none =>
      t.result? = some (.error (.rejected "invalid session id")) ∧
      t.after.server.desk.table = t.before.server.desk.table ∧ t.clientAfter? = t.client? ∧
      t.after.server.stage = .listening

/-! ## What has been issued -/

theorem issuedIn_snoc (turns : List Turn) (t : Turn) :
    issuedIn (turns ++ [t]) = issuedIn turns ++ t.issued?.toList := by
  unfold issuedIn
  rw [List.filterMap_append]
  cases issued : t.issued? <;> simp [issued]

/-- A turn of another client changes nothing for a client. -/
theorem lastLogin_snoc (turns : List Turn) (t : Turn) (i : Nat) :
    lastLogin (turns ++ [t]) i =
      if t.caller = i then t.issued?.or (lastLogin turns i) else lastLogin turns i := by
  unfold lastLogin
  split
  · next own =>
    have kept : [t].filter (·.caller = i) = [t] := by simp [own]
    rw [List.filter_append, kept, issuedIn_snoc, List.getLast?_append]
    cases t.issued? <;> rfl
  · next other =>
    have dropped : [t].filter (·.caller = i) = [] := by simp [other]
    rw [List.filter_append, dropped, List.append_nil]

theorem mem_issuedIn_of_lastLogin {turns : List Turn} {i : Nat} {id : SessionId}
    (last : lastLogin turns i = some id) : id ∈ issuedIn turns := by
  rcases List.mem_filterMap.1 (List.mem_of_getLast? last) with ⟨t, turn, issued⟩
  exact List.mem_filterMap.2 ⟨t, (List.mem_filter.1 turn).1, issued⟩

/-- What has been issued is in the table, whose ids have 36 octets, and each client holds what it
has been given last. -/
structure Booked (turns : List Turn) (y : System) : Prop where
  sized : ∀ id ∈ y.server.desk.table.ids, id.text.utf8ByteSize = 36
  issued : ∀ id ∈ issuedIn turns, id ∈ y.server.desk.table.ids
  sessions : ∀ (i : Nat) (c : Caller), y.callers[i]? = some c →
    c.client.session = (lastLogin turns i).getD .absent

namespace Booked

variable {turns : List Turn} {y y' : System}

theorem congr (booked : Booked turns y) (callers : y'.callers = y.callers)
    (table : y'.server.desk.table = y.server.desk.table) : Booked turns y' := by
  refine ⟨?_, ?_, ?_⟩
  · rw [table]
    exact booked.sized
  · rw [table]
    exact booked.issued
  · rw [callers]
    exact booked.sessions

/-- A client has logged in exactly if the table has its session. -/
theorem has_session_eq (booked : Booked turns y) {i : Nat} {c : Caller}
    (found : y.callers[i]? = some c) :
    y.server.desk.table.has c.client.session = (lastLogin turns i).isSome := by
  rw [booked.sessions i c found]
  cases last : lastLogin turns i with
  | some id =>
    exact Table.has_iff_mem_ids.2 (booked.issued id (mem_issuedIn_of_lastLogin last))
  | none =>
    have unknown : SessionId.absent ∉ y.server.desk.table.ids := by
      intro known
      cases booked.sized _ known
    simpa using mt Table.has_iff_mem_ids.1 unknown

/-- One more turn is booked. -/
theorem snoc (booked : Booked turns y) {t : Turn} {c : Caller}
    (callers : y'.callers = y.callers.set t.caller c)
    (ids : ∀ id, id ∈ y'.server.desk.table.ids ↔
      id ∈ y.server.desk.table.ids ∨ id ∈ t.issued?)
    (sized : ∀ id ∈ t.issued?, id.text.utf8ByteSize = 36)
    (session : c.client.session = (t.issued?.or (lastLogin turns t.caller)).getD .absent) :
    Booked (turns ++ [t]) y' := by
  refine ⟨fun id known => ?_, fun id issued => ?_, fun i other found => ?_⟩
  · rcases (ids id).1 known with old | new
    · exact booked.sized id old
    · exact sized id new
  · rw [issuedIn_snoc] at issued
    refine (ids id).2 ?_
    rcases List.mem_append.1 issued with old | new
    · exact .inl (booked.issued id old)
    · exact .inr (Option.mem_toList.1 new)
  · rw [callers, List.getElem?_set] at found
    rw [lastLogin_snoc]
    split at found
    · next own =>
      split at found
      · cases found
        rw [if_pos own, session, own]
      · cases found
    · next apart =>
      rw [if_neg apart]
      exact booked.sessions i other found

/-- A turn that issues nothing and leaves table and session alone. -/
theorem snoc_of_nothing (booked : Booked turns y) {t : Turn} {c c' : Caller}
    (nothing : t.issued? = none) (found : y.callers[t.caller]? = some c)
    (callers : y'.callers = y.callers.set t.caller c')
    (table : y'.server.desk.table = y.server.desk.table)
    (session : c'.client.session = c.client.session) : Booked (turns ++ [t]) y' := by
  refine booked.snoc callers (fun id => ?_) ?_ ?_
  · rw [table, nothing]
    simp
  · rw [nothing]
    nofun
  · rw [nothing, session]
    exact booked.sessions _ c found

/-- A session has at most 36 octets. -/
theorem session_le (booked : Booked turns y) {i : Nat} {c : Caller}
    (found : y.callers[i]? = some c) : c.client.session.text.utf8ByteSize ≤ 36 := by
  rw [booked.sessions i c found]
  cases last : lastLogin turns i with
  | none => exact Nat.zero_le _
  | some id =>
    exact Nat.le_of_eq (booked.sized id (booked.issued id (mem_issuedIn_of_lastLogin last)))

/-- A request that fits is sound as it is sent. -/
theorem isSound (booked : Booked turns y) {i : Nat} {c : Caller} {r : Request}
    (found : y.callers[i]? = some c) (fit : r.IsFit c.client.session) :
    IsSound (c.client.stamp r) y.server.desk.table := by
  have short := booked.session_le found
  have sized := booked.sized
  unfold Client.stamp
  cases r with
  | login header account password =>
    rcases fit with ⟨rfl, size, reply⟩
    refine ⟨rfl, ?_, reply, sized⟩
    refine (Wire.sealed_eq _).trans (if_pos ?_)
    exact (Request.length_written_login _ _ _).trans_le size
  | shutdown header =>
    cases fit
    refine ⟨rfl, ?_, ?_, sized⟩
    · refine (Wire.sealed_eq _).trans (if_pos ?_)
      refine (Request.length_written_shutdown _).trans_le ?_
      change 12 + c.client.session.text.utf8ByteSize ≤ 61440
      omega
    · change (if _ then 57 else 39 + c.client.session.text.utf8ByteSize) ≤ 61440
      split
      · decide
      · exact Nat.le_trans (Nat.add_le_add_left short 39) (by decide)

end Booked

end DatagramSession
