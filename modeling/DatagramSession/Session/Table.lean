import DatagramSession.SessionId

/-!
# The session table

A table remembers session ids with the times of their first and last save.  It never forgets one,
and the absent id is never stored.  Time is an argument of a save; nothing here reads a clock.
-/

namespace DatagramSession

/-- A reading of a clock. -/
abbrev Instant := Nat

structure Entry where
  created : Instant
  lastSaved : Instant
deriving DecidableEq, Repr

structure Table where
  /-- The ids with their entries, in the order of their first save. -/
  entries : List (SessionId × Entry)
deriving DecidableEq, Repr

namespace Table

def empty : Table := ⟨[]⟩

def get? (t : Table) (id : SessionId) : Option Entry :=
  t.entries.lookup id

def has (t : Table) (id : SessionId) : Bool := (t.get? id).isSome

def size (t : Table) : Nat := t.entries.length

def isEmpty (t : Table) : Bool := t.entries.isEmpty

/-- The ids of a table. -/
def ids (t : Table) : List SessionId := t.entries.map (·.1)

/-- The entry of an id under a new last save. -/
def refreshed (id : SessionId) (now : Instant) (e : SessionId × Entry) : SessionId × Entry :=
  if e.1 = id then (e.1, { e.2 with lastSaved := now }) else e

/-- A save, and whether it stored an id that was not there. -/
def save (t : Table) (id : SessionId) (now : Instant) : Bool × Table :=
  if id.isAbsent then (false, t)
  else if t.has id then (false, ⟨t.entries.map (refreshed id now)⟩)
  else (true, ⟨t.entries ++ [(id, ⟨now, now⟩)]⟩)

/-- Saves one after the other, each at its own instant, and how many of them stored an id. -/
def saveAll (t : Table) (saves : List (SessionId × Instant)) : Nat × Table :=
  saves.foldl
    (fun (count, t) (id, now) =>
      let (stored, t) := t.save id now
      (count + stored.toNat, t))
    (0, t)

/-! ## The ids of a table -/

theorem lookup_isSome_iff {entries : List (SessionId × Entry)} {id : SessionId} :
    (entries.lookup id).isSome ↔ id ∈ entries.map (·.1) := by
  induction entries with
  | nil => simp
  | cons e rest ih =>
    obtain ⟨x, entry⟩ := e
    rw [List.lookup_cons]
    by_cases h : id = x
    · simp [h]
    · have hb : (id == x) = false := by simpa using h
      simp [hb, h, ih]

/-- A table has the ids of its entries. -/
theorem has_iff_mem_ids {t : Table} {id : SessionId} : t.has id ↔ id ∈ t.ids :=
  lookup_isSome_iff

/-- A new last save changes no id. -/
theorem map_refreshed_fst (id : SessionId) (now : Instant) (entries : List (SessionId × Entry)) :
    (entries.map (refreshed id now)).map (·.1) = entries.map (·.1) := by
  rw [List.map_map]
  refine List.map_congr_left fun e _ => ?_
  simp only [Function.comp, refreshed]
  split <;> rfl

/-- A save adds an id at the end, unless it is absent or already there. -/
theorem ids_save (t : Table) (id : SessionId) (now : Instant) :
    (t.save id now).2.ids = if id.isAbsent ∨ id ∈ t.ids then t.ids else t.ids ++ [id] := by
  unfold save
  by_cases ha : id.isAbsent
  · simp [ha]
  · by_cases hh : t.has id
    · simp only [ha, hh, has_iff_mem_ids.1 hh, or_true, if_true, Bool.false_eq_true, if_false]
      exact map_refreshed_fst id now t.entries
    · have hm : id ∉ t.ids := fun h => hh (has_iff_mem_ids.2 h)
      rw [if_neg ha, if_neg hh, if_neg (not_or.2 ⟨ha, hm⟩)]
      simp [ids]

/-- A save stores an id exactly if it is not absent and not there. -/
theorem save_eq_true_iff {t : Table} {id : SessionId} {now : Instant} :
    (t.save id now).1 = true ↔ ¬ id.isAbsent ∧ id ∉ t.ids := by
  unfold save
  rw [← has_iff_mem_ids]
  by_cases ha : id.isAbsent <;> by_cases hh : t.has id <;> simp [ha, hh]

theorem mem_ids_save {t : Table} {id x : SessionId} {now : Instant} :
    x ∈ (t.save id now).2.ids ↔ x ∈ t.ids ∨ x = id ∧ ¬ id.isAbsent := by
  rw [ids_save]
  split <;> grind

theorem nodup_ids_save {t : Table} (id : SessionId) (now : Instant) (h : t.ids.Nodup) :
    (t.save id now).2.ids.Nodup := by
  rw [ids_save]
  split
  · exact h
  · next hn =>
    rw [List.nodup_append]
    exact ⟨h, by simp, by grind⟩

/-! ## The entries of a table -/

/-- A new last save leaves everything but the last save of its id. -/
theorem lookup_map_refreshed (id x : SessionId) (now : Instant)
    (entries : List (SessionId × Entry)) :
    (entries.map (refreshed id now)).lookup x =
      (entries.lookup x).map fun e => if x = id then { e with lastSaved := now } else e := by
  induction entries with
  | nil => rfl
  | cons e rest ih =>
    obtain ⟨y, entry⟩ := e
    have key : (refreshed id now (y, entry)).1 = y := by
      unfold refreshed
      split <;> rfl
    rw [List.map_cons, ← Prod.eta (refreshed id now (y, entry)), List.lookup_cons,
      List.lookup_cons, key]
    cases same : x == y with
    | false => exact ih
    | true =>
      obtain rfl : x = y := eq_of_beq same
      unfold refreshed
      dsimp only
      rw [Option.map_some]
      split <;> rfl

/-- A save gives its id a new last save, and an id that was not there also its first one.  It
touches no other id. -/
theorem get?_save (t : Table) (id x : SessionId) (now : Instant) :
    (t.save id now).2.get? x =
      if id.isAbsent ∨ x ≠ id then t.get? x
      else some ⟨((t.get? id).map (·.created)).getD now, now⟩ := by
  unfold save
  by_cases absent : id.isAbsent
  · rw [if_pos absent, if_pos (.inl absent)]
  rw [if_neg absent]
  by_cases known : t.has id
  · rw [if_pos known, get?, lookup_map_refreshed]
    by_cases other : x ≠ id
    · rw [if_pos (.inr other)]
      simp only [if_neg other, get?, Option.map_id']
    · obtain rfl : x = id := Decidable.not_not.1 other
      obtain ⟨entry, found⟩ := Option.isSome_iff_exists.1 known
      have there : t.entries.lookup x = some entry := found
      rw [there, found, if_neg (not_or.2 ⟨absent, other⟩), Option.map_some, if_pos rfl]
      rfl
  · have missing : t.get? id = none := by simpa [has] using known
    rw [if_neg known, get?, List.lookup_append]
    by_cases other : x ≠ id
    · have key : (x == id) = false := by simpa using other
      rw [if_pos (.inr other), List.lookup_cons, key]
      exact Option.or_none
    · obtain rfl : x = id := Decidable.not_not.1 other
      have none : t.entries.lookup x = none := missing
      rw [if_neg (not_or.2 ⟨absent, other⟩), none, missing, List.lookup_cons, beq_self_eq_true]
      rfl

end Table

end DatagramSession
