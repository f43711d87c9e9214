import DatagramSession.Proofs.Server.History

/-!
# A server under supervision

The stage of a server is shared by more than its parts: every owner has a handle through which it
stops the server and waits for its end, and a supervisor waits for reader and writer and sets the
last stage whatever the stage is then.  A `Supervised` server is a running server with all of these,
and its moves are as small as the accesses to what they share:

* a stop first moves the stage and says whether it did, and only later cancels the parts, while
  everybody else goes on;
* the supervisor sees first the end of the reader and then that of the writer, and stops the server
  itself when the reader ended by a fault;
* a part that stops the server because the socket has failed ends with the same move, since it does
  nothing any more that another party could see;
* an owner that joins the server looks at the stage, and waits for another one as long as it has not
  seen the last; it would also return if nobody were left who could set the stage.

`Supervised.exists_run_of_run` says that this covers the runs of a server as `Server.step` has them.
-/

namespace DatagramSession.Server

/-- What a supervisor waits for. -/
inductive Supervision where
  | reader
  | writer
  | nothing
deriving DecidableEq, Repr

/-- What is being done with a handle. -/
inductive Handle where
  | idle
  /-- Its owner joins the server, and is about to look at the stage. -/
  | looking
  /-- Its owner joins the server, and waits for another stage than the one it has seen. -/
  | waiting (seen : Stage)
  | released
deriving DecidableEq, Repr

/-- What an owner does with its handle. -/
inductive Handle.Move where
  | clone
  | release
  | join
  | look
  /-- The stage has changed since the owner has seen it. -/
  | wake
  /-- Nobody is left who could set the stage, and the join returns. -/
  | orphan
  /-- The join is given up. -/
  | leave
deriving DecidableEq, Repr

/-- A running server with its supervisor and the handles of its owners. -/
structure Supervised where
  server : Server
  /-- The stops that have moved the stage and have yet to cancel the parts. -/
  pending : Nat
  /-- The reader has ended by a fault. -/
  hasFaulted : Bool
  supervision : Supervision
  handles : List Handle
  /-- What the stops so far have answered, oldest first. -/
  answers : List Bool
  /-- The stages in which joins have returned, oldest first. -/
  returns : List Stage
deriving DecidableEq, Repr

/-- The answers of the stops that a move of the server makes. -/
def stopAnswers (s : Server) : Move → List Bool
  | .stop | .failRead | .failWrite => [s.lifecycle.stop.1]
  | .write =>
    match s.writing with
    | .busy _ true => [s.lifecycle.stop.1]
    | _ => []
  | _ => []

/-- Stops that answer so take one life to another: none of them finds a server to stop, or the only
one does. -/
inductive Stops (l : Lifecycle) : List Bool → Lifecycle → Prop
  | late {answers : List Bool} : true ∉ answers → Stops l answers l
  | first : l.stage < .stopping → Stops l [true] ⟨.stopping, true⟩

theorem Stops.of_stop (l : Lifecycle) : Stops l [l.stop.1] l.stopped := by
  by_cases early : l.stage < .stopping
  · simp only [Lifecycle.stopped, Lifecycle.stop, if_pos early]
    exact .first early
  · simp only [Lifecycle.stopped, Lifecycle.stop, if_neg early]
    exact .late (by simp)

/-- Apart from its last stage, a server's life changes by stops alone. -/
theorem Stops.of_step {s s' : Server} {m : Move} (h : Step s m s') (living : m ≠ .retire) :
    Stops s.lifecycle (s.stopAnswers m) s'.lifecycle := by
  cases h with
  | stop => exact .of_stop _
  | failRead => exact .of_stop _
  | failWrite => exact .of_stop _
  | @write datagram closes busy =>
    cases closes with
    | false =>
      simp only [stopAnswers, busy]
      exact .late List.not_mem_nil
    | true =>
      simp only [stopAnswers, busy]
      exact .of_stop _
  | retire => contradiction
  | _ => exact .late List.not_mem_nil

/-- The move reads from the socket or writes to it. -/
def Move.usesSocket : Move → Bool
  | .read | .failRead | .write | .failWrite => true
  | _ => false

/-- The reader is gone, and the permit that it held for a task comes back. -/
def abortReading (s : Server) : Server :=
  match s.reading with
  | .admitted _ =>
    { s with reading := .ended, desk := { s.desk with permits := s.desk.permits + 1 } }
  | _ => { s with reading := .ended }

section abortReading

variable (s : Server)

@[simp] theorem lifecycle_abortReading : s.abortReading.lifecycle = s.lifecycle := by
  unfold abortReading
  split <;> rfl

@[simp] theorem reading_abortReading : s.abortReading.reading = .ended := by
  unfold abortReading
  split <;> rfl

@[simp] theorem writing_abortReading : s.abortReading.writing = s.writing := by
  unfold abortReading
  split <;> rfl

@[simp] theorem written_abortReading : s.abortReading.written = s.written := by
  unfold abortReading
  split <;> rfl

/-- Of the desk, only the permits are touched. -/
theorem desk_abortReading :
    s.abortReading.desk = { s.desk with permits := s.abortReading.desk.permits } := by
  unfold abortReading
  split <;> rfl

end abortReading

namespace Supervised

/-- A possible move of a supervised server. -/
inductive Move where
  /-- A move of a part or of the surroundings.  The supervisor and the joins have their own moves. -/
  | part (m : Server.Move)
  /-- A stop that has moved the stage cancels the parts. -/
  | cancel
  | breakReader
  | breakWriter
  | supervise
  | handle (place : Nat) (m : Handle.Move)
deriving DecidableEq, Repr

/-- A server that has just begun to listen, with one handle. -/
def ofServer (s : Server) : Supervised where
  server := s
  pending := 0
  hasFaulted := false
  supervision := .reader
  handles := [.idle]
  answers := []
  returns := []

def stage (v : Supervised) : Stage := v.server.stage

def isCancelled (v : Supervised) : Bool := v.server.lifecycle.isCancelled

/-- The server goes on to `s`, after stops that have answered so.  Whatever they have moved, they
have not cancelled anything yet. -/
def proceed (v : Supervised) (s : Server) (answers : List Bool) : Supervised :=
  { v with
    server := { s with lifecycle := { s.lifecycle with isCancelled := v.isCancelled } }
    pending := v.pending + answers.count true
    answers := v.answers ++ answers }

section proceed

variable (v : Supervised) (s : Server) (answers : List Bool)

@[simp] theorem stage_proceed : (v.proceed s answers).stage = s.stage := rfl
@[simp] theorem isCancelled_proceed : (v.proceed s answers).isCancelled = v.isCancelled := rfl
@[simp] theorem supervision_proceed : (v.proceed s answers).supervision = v.supervision := rfl

@[simp] theorem pending_proceed :
    (v.proceed s answers).pending = v.pending + answers.count true := rfl

@[simp] theorem answers_proceed : (v.proceed s answers).answers = v.answers ++ answers := rfl

end proceed

def cancel (v : Supervised) : Supervised :=
  { v with
    server := { v.server with lifecycle := { v.server.lifecycle with isCancelled := true } }
    pending := v.pending - 1 }

/-- The supervisor sees the end of the reader; a fault makes it stop the server. -/
def seeReader (v : Supervised) : Supervised :=
  let v := if v.hasFaulted then v.proceed v.server.stop [v.server.lifecycle.stop.1] else v
  { v with supervision := .writer }

/-- Of the server, only its life is touched. -/
theorem server_seeReader (v : Supervised) :
    v.seeReader.server = { v.server with lifecycle := v.seeReader.server.lifecycle } := by
  unfold seeReader
  split <;> rfl

/-- The supervisor sees the end of the writer, and sets the last stage. -/
def seeWriter (v : Supervised) : Supervised :=
  { v with
    server := { v.server with lifecycle := { v.server.lifecycle with stage := .stopped } }
    supervision := .nothing }

def supervise (v : Supervised) : Option Supervised :=
  match v.supervision with
  | .reader => if v.server.reading = .ended then some v.seeReader else none
  | .writer => if v.server.writing = .ended then some v.seeWriter else none
  | .nothing => none

/-- Somebody is left who can set the stage: a part, the supervisor, or the owner of a handle. -/
def isShared (v : Supervised) : Bool :=
  v.server.reading ≠ .ended || v.server.writing ≠ .ended || v.supervision ≠ .nothing ||
    v.handles.any (· ≠ .released)

/-- The owner of a handle could set the stage. -/
theorem isShared_of_handle {v : Supervised} {place : Nat} {h : Handle}
    (found : v.handles[place]? = some h) (held : h ≠ .released) : v.isShared = true := by
  have member : h ∈ v.handles := List.mem_of_getElem? found
  simp only [isShared, Bool.or_eq_true, List.any_eq_true, decide_eq_true_eq]
  exact .inr ⟨h, member, held⟩

def put (v : Supervised) (place : Nat) (h : Handle) : Supervised :=
  { v with handles := v.handles.set place h }

/-- The join on a handle returns in the stage of the server. -/
def returnFrom (v : Supervised) (place : Nat) : Supervised :=
  { v.put place .idle with returns := v.returns ++ [v.stage] }

/-- A move of the owner of the handle `h`. -/
def handle (v : Supervised) (place : Nat) (h : Handle) : Handle.Move → Option Supervised
  | .clone => if h = .released then none else some { v with handles := v.handles ++ [.idle] }
  | .release => if h = .idle then some (v.put place .released) else none
  | .join => if h = .idle then some (v.put place .looking) else none
  | .look =>
    if h = .looking then
      some (if v.stage = .stopped then v.returnFrom place else v.put place (.waiting v.stage))
    else none
  | .wake =>
    match h with
    | .waiting seen => if v.stage = seen then none else some (v.put place .looking)
    | _ => none
  | .orphan =>
    match h with
    | .waiting _ => if v.isShared then none else some (v.returnFrom place)
    | _ => none
  | .leave =>
    match h with
    | .looking | .waiting _ => some (v.put place .idle)
    | _ => none

/-- The supervised server after a move, or none when the move is not possible. -/
def step (v : Supervised) : Move → Option Supervised
  | .part .retire | .part .join => none
  | .part m => (v.server.step m).map fun s => v.proceed s (v.server.stopAnswers m)
  | .cancel => if 0 < v.pending then some v.cancel else none
  | .breakReader =>
    if v.server.reading = .ended then none
    else some { v with server := v.server.abortReading, hasFaulted := true }
  | .breakWriter =>
    if v.server.writing = .ended then none else some { v with server := v.server.endWriting }
  | .supervise => v.supervise
  | .handle place m => do
    let h ← v.handles[place]?
    v.handle place h m

/-- The supervised server after a run of moves, or none when one of them is not possible. -/
def run (v : Supervised) (moves : List Move) : Option Supervised := moves.foldlM step v

/-! ## Moves as rules -/

/-- One move of a supervised server. -/
inductive Step (v : Supervised) : Move → Supervised → Prop
  | part {m : Server.Move} {s : Server} :
    m ≠ .retire → v.server.step m = some s →
    Step v (.part m) (v.proceed s (v.server.stopAnswers m))
  | cancel : 0 < v.pending → Step v .cancel v.cancel
  | breakReader :
    v.server.reading ≠ .ended →
    Step v .breakReader { v with server := v.server.abortReading, hasFaulted := true }
  | breakWriter :
    v.server.writing ≠ .ended → Step v .breakWriter { v with server := v.server.endWriting }
  | seeReader :
    v.supervision = .reader → v.server.reading = .ended → Step v .supervise v.seeReader
  | seeWriter :
    v.supervision = .writer → v.server.writing = .ended → Step v .supervise v.seeWriter
  | handle {place : Nat} {m : Handle.Move} (handles : List Handle) :
    Step v (.handle place m) { v with handles := handles }
  /-- A join returns when it has seen the last stage, or when nobody can set the stage any more. -/
  | returns {place : Nat} {h : Handle} {m : Handle.Move} :
    v.handles[place]? = some h → h ≠ .released → v.stage = .stopped ∨ v.isShared = false →
    Step v (.handle place m) (v.returnFrom place)

theorem Step.of_part {v v' : Supervised} {m : Server.Move} (h : v.step (.part m) = some v') :
    Step v (.part m) v' := by
  unfold step at h
  split at h
  · cases h
  · cases h
  · next other _ _ same =>
    cases same
    obtain ⟨s, moved, rfl⟩ := Option.map_eq_some_iff.1 h
    refine .part ?_ moved
    rintro rfl
    contradiction
  all_goals contradiction

theorem Step.of_supervise {v v' : Supervised} (h : v.supervise = some v') :
    Step v .supervise v' := by
  unfold supervise at h
  split at h
  · next supervision =>
    split at h
    · next ended => cases h; exact .seeReader supervision ended
    · cases h
  · next supervision =>
    split at h
    · next ended => cases h; exact .seeWriter supervision ended
    · cases h
  · cases h

theorem Step.of_handle {v v' : Supervised} {place : Nat} {h : Handle} {m : Handle.Move}
    (found : v.handles[place]? = some h) (moved : v.handle place h m = some v') :
    Step v (.handle place m) v' := by
  cases m with
  | clone =>
    simp only [Supervised.handle] at moved
    split at moved
    · cases moved
    · cases moved; exact .handle _
  | release =>
    simp only [Supervised.handle] at moved
    split at moved
    · cases moved; exact .handle _
    · cases moved
  | join =>
    simp only [Supervised.handle] at moved
    split at moved
    · cases moved; exact .handle _
    · cases moved
  | look =>
    simp only [Supervised.handle] at moved
    split at moved
    · next looking =>
      subst looking
      cases moved
      split
      · next stopped => exact .returns found (by decide) (.inl stopped)
      · exact .handle _
    · cases moved
  | wake =>
    simp only [Supervised.handle] at moved
    split at moved
    · split at moved
      · cases moved
      · cases moved; exact .handle _
    · cases moved
  | orphan =>
    simp only [Supervised.handle] at moved
    split at moved
    · split at moved
      · cases moved
      · next alone =>
        cases moved
        exact .returns found (by simp) (.inr (by simpa using alone))
    · cases moved
  | leave =>
    simp only [Supervised.handle] at moved
    split at moved
    · cases moved; exact .handle _
    · cases moved; exact .handle _
    · cases moved

/-- A possible move is an instance of a rule. -/
theorem Step.of_step {v v' : Supervised} {m : Move} (h : v.step m = some v') : Step v m v' := by
  cases m with
  | part m => exact .of_part h
  | cancel =>
    simp only [step] at h
    split at h
    · next pending => cases h; exact .cancel pending
    · cases h
  | breakReader =>
    simp only [step] at h
    split at h
    · cases h
    · next live => cases h; exact .breakReader live
  | breakWriter =>
    simp only [step] at h
    split at h
    · cases h
    · next live => cases h; exact .breakWriter live
  | supervise => exact .of_supervise h
  | handle place m =>
    obtain ⟨h, found, moved⟩ := Option.bind_eq_some_iff.1 h
    exact .of_handle found moved

/-- **Induction along a run.**  What holds of a supervised server and is kept by each possible move
holds after every run. -/
theorem run_induction {v v' : Supervised} {motive : List Move → Supervised → Prop}
    {moves : List Move} (nil : motive [] v)
    (snoc : ∀ {moves : List Move} {m : Move} {mid after : Supervised}, Step mid m after →
      motive moves mid → motive (moves ++ [m]) after)
    (run : v.run moves = some v') : motive moves v' :=
  foldlM_induction nil (fun _ moved => snoc (.of_step moved)) run

/-! ## What is seen along a run -/

/-- What an observer of the parts sees of a move. -/
def seen {α : Type} (see : Server → Server.Move → Server → List α) (v : Supervised) :
    Move → Supervised → List α
  | .part m, v' => see v.server m v'.server
  | _, _ => []

/-- What an observer of the parts writes down along a run. -/
def noted {α : Type} (v : Supervised) (see : Server → Server.Move → Server → List α)
    (moves : List Move) : List α :=
  notedAlong step (seen see) v moves

/-- One more move adds what is seen of it. -/
theorem noted_snoc {α : Type} (see : Server → Server.Move → Server → List α)
    {v mid after : Supervised} {moves : List Move} {m : Move} (run : v.run moves = some mid)
    (moved : mid.step m = some after) :
    v.noted see (moves ++ [m]) = v.noted see moves ++ mid.seen see m after :=
  notedAlong_snoc (seen see) run moved

/-! ## Runs of a server -/

theorem run_append (v : Supervised) (first rest : List Move) :
    v.run (first ++ rest) = (v.run first).bind fun mid => mid.run rest :=
  List.foldlM_append

theorem run_cons (v : Supervised) (m : Move) (rest : List Move) :
    v.run (m :: rest) = (v.step m).bind fun mid => mid.run rest :=
  List.foldlM_cons

theorem step_part {v : Supervised} {m : Server.Move} (living : m ≠ .retire) (acting : m ≠ .join) :
    v.step (.part m) = (v.server.step m).map fun s => v.proceed s (v.server.stopAnswers m) := by
  cases m with
  | retire => contradiction
  | join => contradiction
  | _ => rfl

/-- A supervised server that is where a server is: every stop has come to its end, and the supervisor
has yet to see anything of a server that has not stopped. -/
structure Mirrors (v : Supervised) (s : Server) : Prop where
  server : v.server = s
  pending : v.pending = 0
  hasFaulted : v.hasFaulted = false
  supervision : s.stage ≠ .stopped → v.supervision = .reader

/-- A move of a part, and the cancelling after it if it has stopped the server. -/
theorem Mirrors.exists_run_of_part {v : Supervised} {s s' : Server} {m : Server.Move}
    (mirrors : v.Mirrors s) (living : m ≠ .retire) (acting : m ≠ .join) (moved : s.step m = some s') :
    ∃ more v', v.run more = some v' ∧ v'.Mirrors s' := by
  obtain ⟨rfl, pending, sound, waits⟩ := mirrors
  have first : v.step (.part m) = some (v.proceed s' (v.server.stopAnswers m)) := by
    rw [step_part living acting, moved, Option.map_some]
  have stops := Stops.of_step (.of_step moved) living
  generalize v.server.stopAnswers m = answers at first stops
  generalize changed : s'.lifecycle = life at stops
  cases stops with
  | late none =>
    refine ⟨[.part m], _, by rw [run_cons, first]; rfl, ?_⟩
    refine ⟨?_, ?_, sound, ?_⟩
    · rw [proceed, isCancelled, changed, ← changed]
    · rw [proceed, pending, List.count_eq_zero_of_not_mem none]
    · rw [Server.stage, changed]
      exact waits
  | first early =>
    refine ⟨[.part m, .cancel], (v.proceed s' [true]).cancel, ?_, ?_⟩
    · rw [run_cons, first, Option.bind_some, run_cons, step, proceed, pending]
      rfl
    · refine ⟨?_, ?_, sound, fun _ => waits ?_⟩
      · rw [cancel, proceed, changed, ← changed]
      · simp [cancel, proceed, pending]
      · intro stopped
        rw [← Server.stage, stopped] at early
        exact absurd early (by decide)

/-- The last stage, for which the supervisor sees the end of both loops. -/
theorem Mirrors.exists_run_of_retire {v : Supervised} {s s' : Server} (mirrors : v.Mirrors s)
    (retired : Server.Step s .retire s') : ∃ more v', v.run more = some v' ∧ v'.Mirrors s' := by
  obtain ⟨rfl, pending, sound, waits⟩ := mirrors
  cases retired with
  | retire readerEnded writerEnded running =>
    refine ⟨[.supervise, .supervise], v.seeReader.seeWriter, ?_, ?_⟩
    · simp [run, List.foldlM, step, supervise, waits running, readerEnded, seeReader, sound,
        writerEnded]
    · refine ⟨?_, ?_, ?_, fun running => absurd rfl running⟩ <;>
        simp [seeReader, seeWriter, sound, pending]

/-- **Nothing of a server is lost under supervision.**  A run of a server is matched by a run of the
supervised server, with the same server at its end. -/
theorem exists_run_of_run {s s' : Server} {moves : List Server.Move}
    (run : s.run moves = some s') :
    ∃ moves' v, (ofServer s).run moves' = some v ∧ v.server = s' := by
  suffices mirrors : ∃ moves' v, (ofServer s).run moves' = some v ∧ v.Mirrors s' by
    obtain ⟨moves', v, before, mirrors⟩ := mirrors
    exact ⟨moves', v, before, mirrors.server⟩
  refine Server.run_induction
    (motive := fun _ s' => ∃ moves' v, (ofServer s).run moves' = some v ∧ v.Mirrors s') ?_ ?_ run
  · exact ⟨[], ofServer s, rfl, rfl, rfl, rfl, fun _ => rfl⟩
  · rintro - m mid after - moved ⟨moves', v, before, mirrors⟩
    have more : ∃ more v', v.run more = some v' ∧ v'.Mirrors after := by
      by_cases retired : m = .retire
      · subst retired
        exact mirrors.exists_run_of_retire (.of_step moved)
      by_cases joined : m = .join
      · subst joined
        cases Server.Step.of_step moved
        exact ⟨[], v, rfl, mirrors⟩
      exact mirrors.exists_run_of_part retired joined moved
    obtain ⟨more, v', further, mirrors⟩ := more
    exact ⟨moves' ++ more, v', by rw [run_append, before]; exact further, mirrors⟩

/-! ## What supervision cannot tell -/

/-- A change of servers that a supervisor and the owners of handles cannot tell: life and writer are
left alone, and so is the end of the reader. -/
structure Unseen (f : Server → Server) : Prop where
  lifecycle : ∀ s, (f s).lifecycle = s.lifecycle
  writing : ∀ s, (f s).writing = s.writing
  ended : ∀ s, (f s).reading = .ended ↔ s.reading = .ended
  relive : ∀ s life, f { s with lifecycle := life } = { f s with lifecycle := life }
  abort : ∀ s, f s.abortReading = (f s).abortReading
  endWriting : ∀ s, f s.endWriting = (f s).endWriting

/-- The supervised server with its server changed. -/
def alter (f : Server → Server) (v : Supervised) : Supervised := { v with server := f v.server }

namespace Unseen

variable {f : Server → Server}

/-- What is done to the life of a server is done to the life of the changed one. -/
theorem relived (unseen : Unseen f) (s : Server) (change : Lifecycle → Lifecycle) :
    { f s with lifecycle := change (f s).lifecycle } =
      f { s with lifecycle := change s.lifecycle } := by
  rw [unseen.lifecycle]
  exact (unseen.relive s _).symm

theorem proceed (unseen : Unseen f) (v : Supervised) (s : Server) (answers : List Bool) :
    (alter f v).proceed (f s) answers = alter f (v.proceed s answers) := by
  simp only [alter, Supervised.proceed, isCancelled, unseen.lifecycle, ← unseen.relive s]

theorem seeReader (unseen : Unseen f) (v : Supervised) :
    (alter f v).seeReader = alter f v.seeReader := by
  have stop : (f v.server).stop = f v.server.stop :=
    unseen.relived v.server Lifecycle.stopped
  have stopped : (alter f v).proceed (f v.server).stop [(f v.server).lifecycle.stop.1] =
      alter f (v.proceed v.server.stop [v.server.lifecycle.stop.1]) := by
    rw [stop, unseen.lifecycle, unseen.proceed]
  have same : (alter f v).hasFaulted = v.hasFaulted := rfl
  have server : (alter f v).server = f v.server := rfl
  simp only [Supervised.seeReader, same, server, stopped]
  split <;> rfl

theorem supervise (unseen : Unseen f) (v : Supervised) :
    (alter f v).supervise = v.supervise.map (alter f) := by
  have supervision : (alter f v).supervision = v.supervision := rfl
  have server : (alter f v).server = f v.server := rfl
  have last : (alter f v).seeWriter = alter f v.seeWriter :=
    congrArg (fun s => { v with server := s, supervision := .nothing })
      (unseen.relived v.server fun life => { life with stage := .stopped })
  simp only [Supervised.supervise, supervision, server, unseen.writing, unseen.ended,
    unseen.seeReader, last]
  cases v.supervision with
  | reader => dsimp only; rw [apply_ite (Option.map (alter f))]; rfl
  | writer => dsimp only; rw [apply_ite (Option.map (alter f))]; rfl
  | nothing => rfl

theorem handle (unseen : Unseen f) (v : Supervised) (place : Nat) (h : Handle) (m : Handle.Move) :
    (alter f v).handle place h m = (v.handle place h m).map (alter f) := by
  have stage : (alter f v).stage = v.stage := congrArg Lifecycle.stage (unseen.lifecycle v.server)
  have shared : (alter f v).isShared = v.isShared := by
    have reading : decide ((f v.server).reading ≠ .ended) = decide (v.server.reading ≠ .ended) :=
      decide_eq_decide.2 (not_congr (unseen.ended v.server))
    have server : (alter f v).server = f v.server := rfl
    rw [isShared, isShared, server, reading, unseen.writing]
    rfl
  have returned : (alter f v).returnFrom place = alter f (v.returnFrom place) := by
    rw [returnFrom, stage]
    rfl
  cases m with
  | clone | release | join =>
    simp only [Supervised.handle]
    rw [apply_ite (Option.map (alter f))]
    rfl
  | look =>
    simp only [Supervised.handle, stage, returned]
    rw [apply_ite (Option.map (alter f)), Option.map_some, apply_ite (alter f)]
    rfl
  | wake =>
    cases h with
    | waiting seen =>
      simp only [Supervised.handle, stage]
      rw [apply_ite (Option.map (alter f))]
      rfl
    | _ => rfl
  | orphan =>
    cases h with
    | waiting seen =>
      simp only [Supervised.handle, shared, returned]
      rw [apply_ite (Option.map (alter f))]
      rfl
    | _ => rfl
  | leave => cases h <;> rfl

theorem part (unseen : Unseen f) {v : Supervised} {m m' : Server.Move}
    (living : m ≠ .retire) (acting : m ≠ .join) (living' : m' ≠ .retire) (acting' : m' ≠ .join)
    (step : (f v.server).step m' = (v.server.step m).map f)
    (answers : (f v.server).stopAnswers m' = v.server.stopAnswers m) :
    (alter f v).step (.part m') = (v.step (.part m)).map (alter f) := by
  have server : (alter f v).server = f v.server := rfl
  rw [step_part living acting, step_part living' acting', server, step, answers, Option.map_map,
    Option.map_map]
  exact congrArg (v.server.step m).map (funext fun s => unseen.proceed v s _)

/-- A move that is not one of a part does the same to both. -/
theorem step (unseen : Unseen f) {v : Supervised} {m : Move} (apart : ∀ a, m ≠ .part a) :
    (alter f v).step m = (v.step m).map (alter f) := by
  have server : (alter f v).server = f v.server := rfl
  cases m with
  | part a => exact absurd rfl (apart a)
  | cancel =>
    have cancel : (alter f v).cancel = alter f v.cancel :=
      congrArg (fun s => { v with server := s, pending := v.pending - 1 })
        (unseen.relived v.server fun life => { life with isCancelled := true })
    simp only [Supervised.step, cancel]
    rw [apply_ite (Option.map (alter f))]
    rfl
  | breakReader =>
    simp only [Supervised.step, server, ← unseen.abort, unseen.ended]
    rw [apply_ite (Option.map (alter f))]
    rfl
  | breakWriter =>
    simp only [Supervised.step, server, ← unseen.endWriting, unseen.writing]
    rw [apply_ite (Option.map (alter f))]
    rfl
  | supervise => exact unseen.supervise v
  | handle place m =>
    have handles : (alter f v).handles = v.handles := rfl
    simp only [Supervised.step, handles]
    cases v.handles[place]? with
    | none => rfl
    | some h => exact unseen.handle v place h m

end Unseen

end Supervised

end DatagramSession.Server
