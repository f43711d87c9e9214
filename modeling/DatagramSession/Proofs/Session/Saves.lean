import DatagramSession.Proofs.Server.History
import DatagramSession.Session.Registry
import Mathlib.Data.Finset.Card

/-!
# What the tables remember

Tables are shared: a registry has any number of them, each behind any number of handles, and any
number of threads call them through the handles.  Each call is one step, so what the threads do is
a list of moves in some order.

A table is compared with the list of its saves: the ids that were saved through any handle to it,
and when.  The list tells what every call answers, and an entry is the first and the last time at
which its id was saved.

* `Table.Remembers`: a table and its saves; `Table.Remembers.save`: what one more save does.
* `Registry.SavesLaw.of_run`: every table of a registry after every run.
* `Registry.tables_remember_saves`: the whole law.
-/

namespace DatagramSession

/-! ## A table and its saves -/

/-- The entry of an id that was saved at these times: the first and the last of them. -/
def Entry.ofTimes : List Instant → Option Entry
  | [] => none
  | first :: later => some ⟨first, later.getLastD first⟩

/-- The times at which an id was saved. -/
def timesOf (id : SessionId) (saves : List (SessionId × Instant)) : List Instant :=
  (saves.filter (·.1 = id)).map (·.2)

theorem Entry.ofTimes_snoc (times : List Instant) (now : Instant) :
    ofTimes (times ++ [now]) = some ⟨((ofTimes times).map (·.created)).getD now, now⟩ := by
  cases times with
  | nil => rfl
  | cons first later => simp [ofTimes]

theorem Entry.isSome_ofTimes_iff {times : List Instant} : (ofTimes times).isSome ↔ times ≠ [] := by
  cases times with
  | nil => simp [ofTimes]
  | cons first later => simp [ofTimes]

/-- The first save of an entry is not after its last, if the clock does not go back. -/
theorem Entry.created_le_of_ofTimes {times : List Instant} {e : Entry}
    (entry : ofTimes times = some e) (steady : times.Pairwise (· ≤ ·)) :
    e.created ≤ e.lastSaved := by
  cases times with
  | nil => cases entry
  | cons first later =>
    cases entry
    have earliest := (List.pairwise_cons.1 steady).1
    rcases List.mem_cons.1 List.getLastD_mem_cons with same | member
    · exact Nat.le_of_eq same.symm
    · exact earliest _ member

/-- Later saves leave the first time alone, and the last one does not go back if the clock does
not. -/
theorem Entry.exists_ofTimes_append {times : List Instant} {e : Entry}
    (entry : ofTimes times = some e) (more : List Instant) :
    ∃ e', ofTimes (times ++ more) = some e' ∧ e'.created = e.created ∧
      ((times ++ more).Pairwise (· ≤ ·) → e.lastSaved ≤ e'.lastSaved) := by
  cases times with
  | nil => cases entry
  | cons first later =>
    cases entry
    refine ⟨_, rfl, rfl, fun steady => ?_⟩
    change later.getLastD first ≤ (later ++ more).getLastD first
    induction more using List.reverseRecOn with
    | nil => rw [List.append_nil]
    | append_singleton earlier last _ =>
      have latest : ∀ time ∈ first :: later, time ≤ last := by
        intro time member
        refine (List.pairwise_append.1 steady).2.2 time member last ?_
        exact List.mem_append_right _ (List.mem_singleton.2 rfl)
      have ends : (later ++ (earlier ++ [last])).getLastD first = last := by
        rw [← List.append_assoc, List.getLastD_concat]
      rw [ends]
      exact latest _ List.getLastD_mem_cons

theorem timesOf_append (id : SessionId) (first rest : List (SessionId × Instant)) :
    timesOf id (first ++ rest) = timesOf id first ++ timesOf id rest := by
  simp [timesOf]

theorem timesOf_ne_nil_iff {id : SessionId} {saves : List (SessionId × Instant)} :
    timesOf id saves ≠ [] ↔ id ∈ saves.map (·.1) := by
  simp [timesOf, List.filter_eq_nil_iff]

/-- What is asked of a table. -/
inductive Table.Call where
  | save (id : SessionId) (now : Instant)
  | has (id : SessionId)
  | get (id : SessionId)
  | size
  | isEmpty
deriving DecidableEq, Repr

/-- What a call answers. -/
inductive Table.Answer where
  | flag (b : Bool)
  | entry (e : Option Entry)
  | count (n : Nat)
deriving DecidableEq, Repr

/-- The answer of a table that has seen these saves, and no others. -/
def Table.Answer.ofSaves (saves : List (SessionId × Instant)) : Table.Call → Table.Answer
  | .save id _ => .flag (!id.isAbsent && id ∉ saves.map (·.1))
  | .has id => .flag (id ∈ saves.map (·.1))
  | .get id => .entry (Entry.ofTimes (timesOf id saves))
  | .size => .count (saves.map (·.1)).toFinset.card
  | .isEmpty => .flag saves.isEmpty

/-- What a table answers to a call. -/
def Table.answer (t : Table) : Table.Call → Table.Answer
  | .save id now => .flag (t.save id now).1
  | .has id => .flag (t.has id)
  | .get id => .entry (t.get? id)
  | .size => .count t.size
  | .isEmpty => .flag t.isEmpty

/-- The table has the ids of the saves, one entry for each, and the entries have their times; and
its ids stand in the order in which they were stored. -/
structure Table.Remembers (t : Table) (saves : List (SessionId × Instant))
    (stored : List SessionId) : Prop where
  ids : t.ids = stored
  once : t.ids.Nodup
  get : ∀ id, t.get? id = Entry.ofTimes (timesOf id saves)

namespace Table.Remembers

variable {t : Table} {saves : List (SessionId × Instant)} {stored : List SessionId}

theorem empty : Table.empty.Remembers [] [] :=
  ⟨rfl, List.nodup_nil, fun _ => rfl⟩

theorem mem_ids_iff (remembers : t.Remembers saves stored) {id : SessionId} :
    id ∈ t.ids ↔ id ∈ saves.map (·.1) := by
  rw [← has_iff_mem_ids, has, remembers.get, Entry.isSome_ofTimes_iff, timesOf_ne_nil_iff]

/-- One more save. -/
theorem save (remembers : t.Remembers saves stored) (id : SessionId) (now : Instant) :
    (t.save id now).2.Remembers (saves ++ if id.isAbsent then [] else [(id, now)])
      (stored ++ if (t.save id now).1 then [id] else []) := by
  refine ⟨?_, nodup_ids_save id now remembers.once, fun x => ?_⟩
  · rw [ids_save, ← remembers.ids]
    by_cases new : (t.save id now).1 = true
    · have unknown := save_eq_true_iff.1 new
      rw [if_pos new, if_neg (not_or.2 unknown)]
    · have known := mt save_eq_true_iff.2 new
      rw [if_neg new, if_pos (by tauto), List.append_nil]
  · rw [get?_save, timesOf_append]
    by_cases absent : id.isAbsent
    · rw [if_pos (.inl absent), if_pos absent, remembers.get]
      simp [timesOf]
    · by_cases other : x ≠ id
      · rw [if_pos (.inr other), if_neg absent, remembers.get]
        simp [timesOf, Ne.symm other]
      · obtain rfl : x = id := Decidable.not_not.1 other
        have added : timesOf x [(x, now)] = [now] := by simp [timesOf]
        rw [if_neg (not_or.2 ⟨absent, other⟩), if_neg absent, added, Entry.ofTimes_snoc,
          remembers.get]

/-- The saves tell what the table answers. -/
theorem answer_eq (remembers : t.Remembers saves stored) (c : Table.Call) :
    t.answer c = .ofSaves saves c := by
  cases c with
  | save id now =>
    refine congrArg Answer.flag (Bool.eq_iff_iff.2 ?_)
    rw [save_eq_true_iff, remembers.mem_ids_iff]
    simp
  | has id =>
    refine congrArg Answer.flag (Bool.eq_iff_iff.2 ?_)
    rw [has_iff_mem_ids, remembers.mem_ids_iff, decide_eq_true_iff]
  | get id => exact congrArg Answer.entry (remembers.get id)
  | size =>
    have same : t.ids.toFinset = (saves.map (·.1)).toFinset := by
      ext id
      rw [List.mem_toFinset, List.mem_toFinset, remembers.mem_ids_iff]
    have size : t.size = t.ids.length := (List.length_map _).symm
    rw [answer, Answer.ofSaves, size, ← List.toFinset_card_of_nodup remembers.once, same]
  | isEmpty =>
    refine congrArg Answer.flag (Bool.eq_iff_iff.2 ?_)
    have none : t.entries = [] ↔ saves = [] := by
      rw [← List.map_eq_nil_iff (f := (·.1)), ← List.map_eq_nil_iff (l := saves) (f := (·.1)),
        List.eq_nil_iff_forall_not_mem, List.eq_nil_iff_forall_not_mem]
      exact forall_congr' fun id => not_congr remembers.mem_ids_iff
    rw [isEmpty, List.isEmpty_iff, List.isEmpty_iff, none]

end Table.Remembers

/-! ## Calls through handles -/

namespace Registry

/-- What is done with the handles of a registry. -/
inductive Move where
  /-- A new table, with a handle to it. -/
  | create
  | clone (handle : Nat)
  | call (handle : Nat) (c : Table.Call)
deriving DecidableEq, Repr

/-- What a call through a handle answers. -/
def answer (r : Registry) (handle : Nat) : Table.Call → Table.Answer
  | .save id now => .flag (r.save handle id now).1
  | c => (r.table handle).answer c

/-- The registry after a call. -/
def after (r : Registry) (handle : Nat) : Table.Call → Registry
  | .save id now => (r.save handle id now).2
  | _ => r

/-- The registry after a move, or none when there is no such handle. -/
def step (r : Registry) : Move → Option Registry
  | .create => some r.create
  | .clone handle => if handle < r.handles.length then some (r.clone handle) else none
  | .call handle c => if handle < r.handles.length then some (r.after handle c) else none

/-- The registry after moves of any number of threads, in this order. -/
def run (r : Registry) (moves : List Move) : Option Registry := moves.foldlM step r

/-- The saves that a move makes in a table; the absent id is never stored. -/
def seeSave (place : Nat) (r : Registry) : Move → Registry → List (SessionId × Instant)
  | .call handle (.save id now), _ =>
    if r.handles[handle]? = some place ∧ ¬ id.isAbsent then [(id, now)] else []
  | _, _ => []

/-- The ids that a move is told to have stored in a table. -/
def seeStored (place : Nat) (r : Registry) : Move → Registry → List SessionId
  | .call handle (.save id now), _ =>
    if r.handles[handle]? = some place ∧ r.answer handle (.save id now) = .flag true then [id] else []
  | _, _ => []

/-- The saves in a table along a run. -/
def saves (r : Registry) (place : Nat) (moves : List Move) : List (SessionId × Instant) :=
  notedAlong step (seeSave place) r moves

/-- The ids that saves in a table were told to have stored along a run. -/
def stored (r : Registry) (place : Nat) (moves : List Move) : List SessionId :=
  notedAlong step (seeStored place) r moves

/-- The clock readings of the saves. -/
def instants (moves : List Move) : List Instant :=
  moves.filterMap fun
    | .call _ (.save _ now) => some now
    | _ => none

/-- The table at a place; there is nothing in a table that is not there. -/
def tableAt (r : Registry) (place : Nat) : Table := (r.tables[place]?).getD .empty

/-! ## One move -/

section Step

variable {r r' : Registry} {handle place : Nat}

theorem table_eq_tableAt (named : r.handles[handle]? = some place) :
    r.table handle = r.tableAt place := by
  rw [table, named]
  rfl

theorem tableAt_create (r : Registry) (place : Nat) : r.create.tableAt place = r.tableAt place := by
  unfold tableAt create
  rcases Nat.lt_trichotomy place r.tables.length with old | new | beyond
  · rw [List.getElem?_append_left old]
  · rw [new, List.getElem?_concat_length, List.getElem?_eq_none (Nat.le_refl _)]
    rfl
  · have outside : (r.tables ++ [Table.empty]).length ≤ place := by
      rw [List.length_append]
      exact beyond
    rw [List.getElem?_eq_none outside, List.getElem?_eq_none (Nat.le_of_lt beyond)]

/-- A save through a handle changes the table that the handle names, and no other. -/
theorem tableAt_save (named : r.handles[handle]? = some place) (there : place < r.tables.length)
    (id : SessionId) (now : Instant) (other : Nat) :
    (r.save handle id now).2.tableAt other =
      if other = place then ((r.tableAt place).save id now).2 else r.tableAt other := by
  have put : (r.save handle id now).2.tables =
      r.tables.set place ((r.tableAt place).save id now).2 := by
    simp only [save, Registry.put, named, table_eq_tableAt named]
  rw [tableAt, put, List.getElem?_set]
  by_cases same : other = place
  · rw [if_pos same.symm, if_pos there, if_pos same]
    rfl
  · rw [if_neg (Ne.symm same), if_neg same]
    rfl

theorem handles_save (r : Registry) (handle : Nat) (id : SessionId) (now : Instant) :
    (r.save handle id now).2.handles = r.handles := by
  simp only [save, Registry.put]
  split <;> rfl

/-- One move through the handles. -/
inductive Step (r : Registry) : Move → Registry → Prop
  | create : Step r .create r.create
  | clone {handle place : Nat} :
    r.handles[handle]? = some place →
    Step r (.clone handle) { r with handles := r.handles ++ [place] }
  | call {handle place : Nat} (c : Table.Call) :
    r.handles[handle]? = some place → Step r (.call handle c) (r.after handle c)

/-- A possible move is made through handles that are there. -/
theorem Step.of_step {m : Move} (moved : r.step m = some r') : Step r m r' := by
  cases m with
  | create =>
    cases moved
    exact .create
  | clone handle =>
    simp only [Registry.step] at moved
    split at moved
    · next there =>
      cases moved
      have named := List.getElem?_eq_getElem there
      rw [Registry.clone, named]
      exact .clone named
    · cases moved
  | call handle c =>
    simp only [Registry.step] at moved
    split at moved
    · next there =>
      cases moved
      exact .call c (List.getElem?_eq_getElem there)
    · cases moved

theorem handles_after (r : Registry) (handle : Nat) (c : Table.Call) :
    (r.after handle c).handles = r.handles := by
  cases c with
  | save id now => exact handles_save r handle id now
  | _ => rfl

/-- A handle names one table for ever. -/
theorem handles_prefix_of_step {m : Move} (h : Step r m r') : r.handles <+: r'.handles := by
  cases h with
  | create => exact List.prefix_append _ _
  | clone => exact List.prefix_append _ _
  | @call handle place c named => rw [handles_after]

theorem length_tables_save (r : Registry) (handle : Nat) (id : SessionId) (now : Instant) :
    (r.save handle id now).2.tables.length = r.tables.length := by
  simp only [save, Registry.put]
  split
  · exact List.length_set
  · rfl

/-- Every handle names a table that is there. -/
def IsSound (r : Registry) : Prop := ∀ place ∈ r.handles, place < r.tables.length

theorem IsSound.of_step {m : Move} (sound : r.IsSound) (h : Step r m r') : r'.IsSound := by
  cases h with
  | create =>
    intro place member
    rw [create, List.length_append]
    rcases List.mem_append.1 member with old | new
    · exact Nat.lt_succ_of_lt (sound place old)
    · rw [List.mem_singleton.1 new]
      exact Nat.lt_succ_self _
  | @clone handle place named =>
    intro other member
    rcases List.mem_append.1 member with old | new
    · exact sound other old
    · rw [List.mem_singleton.1 new]
      exact sound place (List.mem_of_getElem? named)
  | @call handle place c named =>
    cases c with
    | save id now =>
      intro other member
      rw [after, handles_save] at member
      rw [after, length_tables_save]
      exact sound other member
    | _ => exact sound

/-- A move is a save in the table, or the table knows nothing of it. -/
theorem seen_of_step {m : Move} (h : Step r m r') (sound : r.IsSound) (place : Nat) :
    (r'.tableAt place = r.tableAt place ∧ seeSave place r m r' = [] ∧
      seeStored place r m r' = []) ∨
    ∃ id now, r'.tableAt place = ((r.tableAt place).save id now).2 ∧
      seeSave place r m r' = (if id.isAbsent then [] else [(id, now)]) ∧
      seeStored place r m r' = if ((r.tableAt place).save id now).1 then [id] else [] := by
  cases h with
  | create => exact .inl ⟨tableAt_create r place, rfl, rfl⟩
  | clone => exact .inl ⟨rfl, rfl, rfl⟩
  | @call handle named c found =>
    cases c with
    | save id now =>
      have there : named < r.tables.length := sound named (List.mem_of_getElem? found)
      have saved := tableAt_save found there id now place
      by_cases same : place = named
      · subst same
        right
        refine ⟨id, now, by rw [after, saved, if_pos rfl], ?_, ?_⟩
        · by_cases absent : id.isAbsent <;> simp [seeSave, found, absent]
        · simp [seeStored, found, answer, save, table_eq_tableAt found]
      · left
        refine ⟨by rw [after, saved, if_neg same], ?_, ?_⟩
        · simp [seeSave, found, Ne.symm same]
        · simp [seeStored, found, Ne.symm same]
    | _ => exact .inl ⟨rfl, rfl, rfl⟩

end Step

/-! ## A whole run -/

/-- Every table remembers its saves. -/
structure SavesLaw (moves : List Move) (r : Registry) : Prop where
  sound : r.IsSound
  remembers : ∀ place,
    (r.tableAt place).Remembers (single.saves place moves) (single.stored place moves)

theorem SavesLaw.of_step {moves : List Move} {m : Move} {mid after : Registry}
    (law : SavesLaw moves mid) (before : single.run moves = some mid)
    (moved : mid.step m = some after) : SavesLaw (moves ++ [m]) after := by
  have one := Step.of_step moved
  refine ⟨law.sound.of_step one, fun place => ?_⟩
  have remembers := law.remembers place
  rw [saves, stored, notedAlong_snoc _ before moved, notedAlong_snoc _ before moved]
  rcases seen_of_step one law.sound place with ⟨table, save, stored⟩ | ⟨id, now, table, save, stored⟩
  · rw [table, save, stored, List.append_nil, List.append_nil]
    exact remembers
  · rw [table, save, stored]
    exact remembers.save id now

theorem SavesLaw.of_run {moves : List Move} {r : Registry} (run : single.run moves = some r) :
    SavesLaw moves r := by
  refine foldlM_induction ?_ ?_ run
  · refine ⟨fun place member => ?_, fun place => ?_⟩
    · rw [List.mem_singleton.1 member]
      exact Nat.zero_lt_one
    · cases place with
      | zero => exact .empty
      | succ place => exact .empty
  · intro moves m mid after before moved law
    exact law.of_step before moved

theorem answer_eq_table_answer (r : Registry) (handle : Nat) (c : Table.Call) :
    r.answer handle c = (r.table handle).answer c := by
  cases c <;> rfl

theorem mem_seeSave_iff {r r' : Registry} {m : Move} {place : Nat} {id : SessionId}
    {now : Instant} :
    (id, now) ∈ seeSave place r m r' ↔
      ¬ id.isAbsent ∧ ∃ handle, r.handles[handle]? = some place ∧
        m = .call handle (.save id now) := by
  constructor
  · intro member
    unfold seeSave at member
    split at member
    · next handle saved instant =>
      split at member
      · next stores =>
        cases List.mem_singleton.1 member
        exact ⟨stores.2, handle, stores.1, rfl⟩
      · cases member
    · cases member
  · rintro ⟨present, handle, named, rfl⟩
    rw [seeSave, if_pos ⟨named, present⟩]
    exact List.mem_singleton.2 rfl

theorem handle_lt_of_step {r r' : Registry} {handle : Nat} {c : Table.Call}
    (h : Step r (.call handle c) r') : handle < r.handles.length := by
  cases h with
  | call c named => exact (List.getElem?_eq_some_iff.1 named).1

/-- A handle that was used is there. -/
theorem handle_lt_of_run {r r' : Registry} {moves : List Move} (run : r.run moves = some r')
    {handle : Nat} {c : Table.Call} (member : .call handle c ∈ moves) :
    handle < r'.handles.length := by
  refine foldlM_induction (motive := fun moves r' =>
    .call handle c ∈ moves → handle < r'.handles.length) nofun ?_ run member
  rintro moves m mid after - moved used member
  have one := Step.of_step moved
  refine Nat.lt_of_lt_of_le ?_ (handles_prefix_of_step one).length_le
  rcases List.mem_append.1 member with old | new
  · exact used old
  · rw [← List.mem_singleton.1 new] at one
    exact handle_lt_of_step one

/-- A handle that was used names the same table after one more move. -/
theorem named_of_snoc {r mid after : Registry} {moves : List Move} {m : Move}
    (before : r.run moves = some mid) (moved : mid.step m = some after) {handle : Nat}
    {c : Table.Call} (member : .call handle c ∈ moves ++ [m]) :
    after.handles[handle]? = mid.handles[handle]? := by
  have one := Step.of_step moved
  obtain ⟨more, handles⟩ := handles_prefix_of_step one
  rw [← handles]
  apply List.getElem?_append_left
  rcases List.mem_append.1 member with old | new
  · exact handle_lt_of_run before old
  · rw [← List.mem_singleton.1 new] at one
    exact handle_lt_of_step one

/-- The saves in a table are those through the handles that name it; a handle that was used names
the same table ever after. -/
theorem mem_saves_iff {r r' : Registry} {moves : List Move} (run : r.run moves = some r')
    {place : Nat} {id : SessionId} {now : Instant} :
    (id, now) ∈ r.saves place moves ↔
      ¬ id.isAbsent ∧ ∃ handle, r'.handles[handle]? = some place ∧
        .call handle (.save id now) ∈ moves := by
  refine foldlM_induction (motive := fun moves r' => (id, now) ∈ r.saves place moves ↔
    ¬ id.isAbsent ∧ ∃ handle, r'.handles[handle]? = some place ∧
      .call handle (.save id now) ∈ moves) ?_ ?_ run
  · simp [saves, notedAlong]
  · intro moves m mid after before moved law
    rw [saves, notedAlong_snoc _ before moved, List.mem_append, mem_seeSave_iff, ← saves, law,
      ← and_or_left]
    refine and_congr_right fun _ => ⟨fun saved => ?_, fun saved => ?_⟩
    · rcases saved with ⟨handle, named, old⟩ | ⟨handle, named, rfl⟩
      · have member := List.mem_append_left [m] old
        exact ⟨handle, (named_of_snoc before moved member).trans named, member⟩
      · have member : Move.call handle (.save id now) ∈ moves ++ [.call handle (.save id now)] :=
          List.mem_append_right moves (List.mem_singleton.2 rfl)
        exact ⟨handle, (named_of_snoc before moved member).trans named, member⟩
    · obtain ⟨handle, named, member⟩ := saved
      rw [named_of_snoc before moved member] at named
      rcases List.mem_append.1 member with old | new
      · exact .inl ⟨handle, named, old⟩
      · exact .inr ⟨handle, named, (List.mem_singleton.1 new).symm⟩

/-! ## The clock -/

/-- The clock is read for every save of a table, and for others. -/
theorem map_saves_sublist (r : Registry) (place : Nat) (moves : List Move) :
    ((r.saves place moves).map (·.2)).Sublist (instants moves) := by
  induction moves generalizing r with
  | nil => exact List.nil_sublist _
  | cons m rest ih =>
    have split : instants (m :: rest) = instants [m] ++ instants rest := by
      rw [instants, ← List.singleton_append, List.filterMap_append]
      rfl
    rw [saves, notedAlong, split]
    cases r.step m with
    | none => exact List.nil_sublist _
    | some r' =>
      dsimp only
      rw [List.map_append]
      refine List.Sublist.append ?_ (ih r')
      unfold seeSave
      split
      · next handle id now =>
        split
        · exact List.Sublist.refl _
        · exact List.nil_sublist _
      · exact List.nil_sublist _

/-- The times of an id in a table do not go back if the clock does not. -/
theorem pairwise_timesOf {r : Registry} {moves : List Move}
    (steady : (instants moves).Pairwise (· ≤ ·)) (place : Nat) (id : SessionId) :
    (timesOf id (r.saves place moves)).Pairwise (· ≤ ·) :=
  steady.sublist ((List.filter_sublist.map _).trans (map_saves_sublist r place moves))

/-! ## Threads -/

/-- The moves are those of the threads, in an order in which each thread keeps its own. -/
inductive Interleaves : List (List Move) → List Move → Prop
  | done {threads : List (List Move)} : (∀ thread ∈ threads, thread = []) → Interleaves threads []
  | next (before after : List (List Move)) {m : Move} {rest moves : List Move} :
    Interleaves (before ++ rest :: after) moves →
    Interleaves (before ++ (m :: rest) :: after) (m :: moves)

theorem Interleaves.mem_iff {threads : List (List Move)} {moves : List Move}
    (h : Interleaves threads moves) {m : Move} : m ∈ moves ↔ ∃ thread ∈ threads, m ∈ thread := by
  induction h with
  | done finished =>
    refine ⟨nofun, ?_⟩
    rintro ⟨thread, member, made⟩
    rw [finished thread member] at made
    exact made
  | next before after _ ih =>
    simp only [List.mem_cons, ih, List.mem_append, or_and_right, exists_or, exists_eq_left]
    rw [or_left_comm, or_assoc]

/-! ## Two runs, one after the other -/

section Continued

variable {r r' : Registry} {moves more : List Move}

theorem run_append (run : single.run moves = some r) (further : r.run more = some r') :
    single.run (moves ++ more) = some r' := by
  rw [Registry.run, List.foldlM_append]
  exact Option.bind_eq_some_iff.2 ⟨r, run, further⟩

theorem ids_of_run (run : single.run moves = some r) (further : r.run more = some r')
    (place : Nat) : (r'.tableAt place).ids = (r.tableAt place).ids ++ r.stored place more := by
  have before := ((SavesLaw.of_run run).remembers place).ids
  have after := ((SavesLaw.of_run (run_append run further)).remembers place).ids
  rw [after, before]
  exact notedAlong_append (seeStored place) run more

/-- What a run is told to have stored in a table is what it saves there and was not there. -/
theorem mem_stored_iff (run : single.run moves = some r) (further : r.run more = some r')
    {place : Nat} {id : SessionId} :
    id ∈ r.stored place more ↔
      id ∈ (r.saves place more).map (·.1) ∧ id ∉ (r.tableAt place).ids := by
  have before := (SavesLaw.of_run run).remembers place
  have after := (SavesLaw.of_run (run_append run further)).remembers place
  have split := ids_of_run run further place
  have together : id ∈ (r'.tableAt place).ids ↔
      id ∈ (r.tableAt place).ids ∨ id ∈ (r.saves place more).map (·.1) := by
    rw [after.mem_ids_iff, before.mem_ids_iff, saves, notedAlong_append (seeSave place) run,
      List.map_append, List.mem_append]
    exact Iff.rfl
  have once := after.once
  rw [split] at together once
  rw [List.mem_append] at together
  constructor
  · intro told
    have new : id ∉ (r.tableAt place).ids := fun old => List.disjoint_of_nodup_append once old told
    exact ⟨(together.1 (.inr told)).resolve_left new, new⟩
  · rintro ⟨saved, new⟩
    exact (together.2 (.inr saved)).resolve_left new

/-- An entry stays, with its first save.  Its last save does not go back if the clock does not. -/
theorem exists_get?_of_run (run : single.run moves = some r) (further : r.run more = some r')
    {place : Nat} {id : SessionId} {entry : Entry}
    (known : (r.tableAt place).get? id = some entry) :
    ∃ entry', (r'.tableAt place).get? id = some entry' ∧ entry'.created = entry.created ∧
      ((instants (moves ++ more)).Pairwise (· ≤ ·) →
        entry.created ≤ entry.lastSaved ∧ entry.lastSaved ≤ entry'.lastSaved) := by
  have before := (SavesLaw.of_run run).remembers place
  have after := (SavesLaw.of_run (run_append run further)).remembers place
  rw [before.get] at known
  obtain ⟨entry', later, created, order⟩ :=
    Entry.exists_ofTimes_append known (timesOf id (r.saves place more))
  have times : timesOf id (single.saves place (moves ++ more)) =
      timesOf id (single.saves place moves) ++ timesOf id (r.saves place more) := by
    rw [saves, notedAlong_append (seeSave place) run, timesOf_append]
    rfl
  refine ⟨entry', ?_, created, fun steady => ?_⟩
  · rw [after.get, times]
    exact later
  · have ordered := pairwise_timesOf (r := single) steady place id
    rw [times] at ordered
    exact ⟨Entry.created_le_of_ofTimes known (List.pairwise_append.1 ordered).1, order ordered⟩

end Continued

/-! ## The law of the tables -/

/-- **The tables remember their saves.**  Whatever any number of threads have done through the
handles of a registry, in whatever order:

* each call answers what the saves of its table tell: a save stores an id that is not absent and was
  not saved before, the ids are those that were saved, and the entry of an id has the times of its
  first and its last save;
* the saves of a table are those through the handles that name it, so it knows nothing of the other
  tables, and each of its ids was once told to have been stored;
* whatever is done further, nothing is removed, an id is told to have been stored in all once, when
  it is new, and with a clock that does not go back no entry does. -/
theorem tables_remember_saves {moves : List Move} {r : Registry}
    (run : single.run moves = some r) :
    (∀ handle place, r.handles[handle]? = some place → ∀ c,
      r.answer handle c = .ofSaves (single.saves place moves) c) ∧
    (∀ place,
      (∀ id now, (id, now) ∈ single.saves place moves ↔ ¬ id.isAbsent ∧
        ∃ handle, r.handles[handle]? = some place ∧ .call handle (.save id now) ∈ moves) ∧
      (∀ id, id ∈ (r.tableAt place).ids ↔ id ∈ (single.saves place moves).map (·.1)) ∧
      (r.tableAt place).ids = single.stored place moves ∧ (single.stored place moves).Nodup) ∧
    ∀ more r', r.run more = some r' → ∀ place,
      (r'.tableAt place).ids = (r.tableAt place).ids ++ r.stored place more ∧
      (∀ threads, Interleaves threads more → ∀ id, id ∈ r.stored place more ↔
        (¬ id.isAbsent ∧ ∃ thread ∈ threads, ∃ handle now, r'.handles[handle]? = some place ∧
          .call handle (.save id now) ∈ thread) ∧ id ∉ (r.tableAt place).ids) ∧
      ∀ id entry, (r.tableAt place).get? id = some entry →
        ∃ entry', (r'.tableAt place).get? id = some entry' ∧ entry'.created = entry.created ∧
          ((instants (moves ++ more)).Pairwise (· ≤ ·) →
            entry.created ≤ entry.lastSaved ∧ entry.lastSaved ≤ entry'.lastSaved) := by
  have law := SavesLaw.of_run run
  refine ⟨fun handle place named c => ?_, fun place => ⟨fun id now => mem_saves_iff run, fun id =>
    (law.remembers place).mem_ids_iff, (law.remembers place).ids, ?_⟩, fun more r' further place =>
    ⟨?_, ?_, ?_⟩⟩
  · rw [answer_eq_table_answer, table_eq_tableAt named]
    exact (law.remembers place).answer_eq c
  · rw [← (law.remembers place).ids]
    exact (law.remembers place).once
  · exact ids_of_run run further place
  · intro threads order id
    rw [mem_stored_iff run further]
    refine and_congr_left fun _ => ?_
    simp only [List.mem_map, Prod.exists, exists_and_right, exists_eq_right]
    constructor
    · rintro ⟨now, saved⟩
      obtain ⟨present, handle, named, made⟩ := (mem_saves_iff further).1 saved
      obtain ⟨thread, member, made⟩ := order.mem_iff.1 made
      exact ⟨present, thread, member, handle, now, named, made⟩
    · rintro ⟨present, thread, member, handle, now, named, made⟩
      have made := order.mem_iff.2 ⟨thread, member, made⟩
      exact ⟨now, (mem_saves_iff further).2 ⟨present, handle, named, made⟩⟩
  · exact fun id entry known => exists_get?_of_run run further known

/-- Two tables, one of them with two handles. -/
def twoTables : List Move :=
  [.create, .clone 0, .call 0 (.save ⟨"first"⟩ 3), .call 2 (.save ⟨"first"⟩ 5),
    .call 1 (.save ⟨"other"⟩ 6), .call 2 (.save .absent 7)]

/-- Moves of two threads that save one new id each in the same table. -/
def raced : List Move :=
  [.call 0 (.save ⟨"first"⟩ 8), .call 2 (.save ⟨"second"⟩ 9), .call 0 (.save ⟨"second"⟩ 10)]

theorem tables_remember_saves_of_raced :
    ∃ r r', single.run twoTables = some r ∧ r.run raced = some r' ∧
      r.answer 2 (.get ⟨"first"⟩) = .entry (some ⟨3, 5⟩) ∧ r.answer 2 .size = .count 1 ∧
      (r.tableAt 0).ids = [⟨"first"⟩] ∧
      (r'.tableAt 0).ids = [⟨"first"⟩] ++ [⟨"second"⟩] ∧
      (∃ thread ∈ [[Move.call 0 (.save ⟨"first"⟩ 8), .call 0 (.save ⟨"second"⟩ 10)],
          [.call 2 (.save ⟨"second"⟩ 9)]], ∃ handle now, r'.handles[handle]? = some 0 ∧
        .call handle (.save ⟨"second"⟩ now) ∈ thread) ∧
      ∃ entry', (r'.tableAt 0).get? ⟨"first"⟩ = some entry' ∧ entry'.created = 3 ∧
        5 ≤ entry'.lastSaved := by
  obtain ⟨r, run⟩ : ∃ r, single.run twoTables = some r := ⟨_, rfl⟩
  obtain ⟨r', further⟩ : ∃ r', r.run raced = some r' := by
    cases run
    exact ⟨_, rfl⟩
  obtain ⟨answers, tables, later⟩ := tables_remember_saves run
  obtain ⟨ids, told, entries⟩ := later raced r' further 0
  have named : r.handles[2]? = some 0 := by
    cases run
    decide
  have saves : single.saves 0 twoTables = [(⟨"first"⟩, 3), (⟨"first"⟩, 5)] := by decide
  have stored : r.stored 0 raced = [⟨"second"⟩] := by
    cases run
    decide
  have known : (r.tableAt 0).ids = [⟨"first"⟩] := (tables 0).2.2.1.trans (by decide)
  have order : Interleaves [[.call 0 (.save ⟨"first"⟩ 8), .call 0 (.save ⟨"second"⟩ 10)],
      [.call 2 (.save ⟨"second"⟩ 9)]] raced :=
    .next [] _ (.next [_] _ (.next [] _ (.done (by simp))))
  rw [known, stored] at ids
  have new := (told _ order ⟨"second"⟩).1 (by rw [stored]; exact List.mem_singleton.2 rfl)
  have kept := entries ⟨"first"⟩ ⟨3, 5⟩ (by cases run; decide)
  obtain ⟨entry', found, created, steady⟩ := kept
  refine ⟨r, r', run, further, ?_, ?_, known, ids, new.1.2, entry', found, created,
    (steady (by decide)).2⟩
  · rw [answers 2 0 named, saves]
    decide
  · rw [answers 2 0 named, saves]
    decide

end Registry

end DatagramSession
