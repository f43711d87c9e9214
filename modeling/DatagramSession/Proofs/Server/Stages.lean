import DatagramSession.Proofs.Server.Oversight
import DatagramSession.Proofs.Server.Stop

/-!
# The stages of a supervised server

Only a stop looks at the stage before it sets it; the supervisor sets the last stage whatever the
stage is.  That no stage is skipped or set again is a fact about all parties at once: the supervisor
is past the end of the reader only when the server does not listen any more, because a reader ends
of itself only when it is cancelled or has stopped the server, and a reader that has faulted makes
the supervisor stop it.

* `StageLaw`: who may have done what in which stage.
* `StageLaw.of_step`, `StageLaw.of_run`: one move, and a whole run.
* `StageLaw.retire_of_seeWriter`: the supervisor's last move is that of `Server.step`.
* `StageLaw.rests_of_run`: nothing goes through the socket of a server that has stopped.
* `stages_in_order`: what owners and clients can rely on.
-/

namespace DatagramSession.Server

theorem Stage.eq_listening_of_lt {a : Stage} (begun : a ≠ .created) (early : a < .stopping) :
    a = .listening := by
  cases a with
  | created => exact absurd rfl begun
  | listening => rfl
  | stopping => exact absurd early (by decide)
  | stopped => exact absurd early (by decide)

theorem Stage.eq_stopping {a : Stage} (begun : a ≠ .created) (left : a ≠ .listening)
    (running : a ≠ .stopped) : a = .stopping := by
  cases a with
  | created => exact absurd rfl begun
  | listening => exact absurd rfl left
  | stopping => rfl
  | stopped => exact absurd rfl running

/-! ## Reader and writer -/

/-- A reader ends of itself only when it is cancelled or has stopped the server. -/
theorem reading_ended_of_step {s s' : Server} {m : Move} (h : Step s m s')
    (ended : s'.reading = .ended) :
    s.reading = .ended ∨ s.lifecycle.isCancelled = true ∨ s'.stage ≠ .listening := by
  cases h with
  | failRead => exact .inr (.inr (stage_stopped_ne_listening _))
  | quit _ cancelled => exact .inr (.inl cancelled)
  | read => cases ended
  | accept => cases ended
  | start => cases ended
  | _ => exact .inl ended

/-- A reader that has ended takes no further move. -/
theorem reading_eq_ended_of_step {s s' : Server} {m : Move} (h : Step s m s')
    (ended : s.reading = .ended) : s'.reading = .ended := by
  cases h with
  | failRead => rfl
  | quit => rfl
  | read ready => cases ended.symm.trans ready
  | accept admitting => cases ended.symm.trans admitting
  | start admitted => cases ended.symm.trans admitted
  | _ => exact ended

/-- A writer that has ended takes no further move. -/
theorem writing_eq_ended_of_step {s s' : Server} {m : Move} (h : Step s m s')
    (ended : s.writing = .ended) : s'.writing = .ended := by
  cases h with
  | failWrite => rfl
  | finish => rfl
  | take ready => cases ended.symm.trans ready
  | skip ready => cases ended.symm.trans ready
  | write busy => cases ended.symm.trans busy
  | _ => exact ended

/-- Nobody can queue a reply any more. -/
theorem senders_eq_zero_iff {s : Server} :
    s.senders = 0 ↔ s.reading = .ended ∧ s.desk.tasks = [] ∧ s.spare = 0 := by
  rw [senders]
  by_cases ended : s.reading = .ended
  · simp [ended]
  · simp [ended]

/-- Without reader and writer the socket is at rest: datagrams may still reach it. -/
theorem socket_rests_of_step {s s' : Server} {m : Move} (h : Step s m s')
    (readerEnded : s.reading = .ended) (writerEnded : s.writing = .ended) :
    s'.written = s.written ∧ s.inbox <+: s'.inbox ∧ m.usesSocket = false := by
  cases h with
  | arrive datagram => exact ⟨rfl, List.prefix_append _ _, rfl⟩
  | read ready => cases readerEnded.symm.trans ready
  | drop ready => cases readerEnded.symm.trans ready
  | failRead ready => cases readerEnded.symm.trans ready
  | write busy => cases writerEnded.symm.trans busy
  | failWrite busy => cases writerEnded.symm.trans busy
  | _ => exact ⟨rfl, List.prefix_rfl, rfl⟩

namespace Supervised

/-- A run that reads nothing from the socket and writes nothing to it. -/
structure LeavesSocket (v : Supervised) (moves : List Move) (v' : Supervised) : Prop where
  written : v'.server.written = v.server.written
  inbox : v.server.inbox <+: v'.server.inbox
  unused : ∀ m, .part m ∈ moves → m.usesSocket = false

theorem LeavesSocket.refl (v : Supervised) : LeavesSocket v [] v := ⟨rfl, List.prefix_rfl, nofun⟩

theorem LeavesSocket.append {v mid v' : Supervised} {moves more : List Move}
    (first : LeavesSocket v moves mid) (rest : LeavesSocket mid more v') :
    LeavesSocket v (moves ++ more) v' where
  written := rest.written.trans first.written
  inbox := first.inbox.trans rest.inbox
  unused m used := (List.mem_append.1 used).elim (first.unused m) (rest.unused m)

/-! ## Who may have done what -/

/-- In which stage a supervised server is tells who may have done what. -/
structure StageLaw (v : Supervised) : Prop where
  begun : v.stage ≠ .created
  cancelled : v.isCancelled = true → v.stage ≠ .listening
  pending : 0 < v.pending → v.stage ≠ .listening
  /-- A reader that has ended and did not fault has left a server that is stopping. -/
  readerEnded : v.server.reading = .ended → v.hasFaulted = true ∨ v.stage ≠ .listening
  readerSeen : v.supervision ≠ .reader → v.server.reading = .ended ∧ v.stage ≠ .listening
  writerSeen : v.supervision = .nothing → v.server.writing = .ended
  stopped : v.stage = .stopped ↔ v.supervision = .nothing
  answers : v.answers.count true = if v.stage = .listening then 0 else 1
  returns : ∀ stage ∈ v.returns, stage = .stopped

namespace StageLaw

variable {v v' : Supervised}

theorem of_spawnWith {spare : Nat} {settings : Settings} {s : Server}
    (spawned : spawnWith spare settings = some s) : StageLaw (ofServer s) := by
  rw [eq_opened_of_spawnWith spawned]
  constructor <;> simp [ofServer, opened, stage, Server.stage, isCancelled, Lifecycle.created]

/-- Stops keep the stage, or one of them ends the listening. -/
theorem stage_of_stops (law : StageLaw v) {answers : List Bool} {l : Lifecycle}
    (stops : Stops v.server.lifecycle answers l) :
    l.stage = v.stage ∧ answers.count true = 0 ∨
      v.stage = .listening ∧ l.stage = .stopping ∧ answers.count true = 1 := by
  cases stops with
  | late none => exact .inl ⟨rfl, List.count_eq_zero_of_not_mem none⟩
  | first early => exact .inr ⟨Stage.eq_listening_of_lt law.begun early, rfl, rfl⟩

/-- The supervisor waits for the reader as long as the server listens. -/
theorem supervision_of_listening (law : StageLaw v) (listening : v.stage = .listening) :
    v.supervision = .reader := by
  by_contra seen
  exact (law.readerSeen seen).2 listening

/-- The server goes on by stops alone, its reader does not end for nothing, and what has ended stays
so. -/
theorem proceed (law : StageLaw v) {s : Server} {answers : List Bool}
    (stops : Stops v.server.lifecycle answers s.lifecycle)
    (reader : s.reading = .ended →
      v.server.reading = .ended ∨ v.isCancelled = true ∨ s.stage ≠ .listening)
    (readerStays : v.server.reading = .ended → s.reading = .ended)
    (writerStays : v.server.writing = .ended → s.writing = .ended) :
    StageLaw (v.proceed s answers) := by
  have outcome := law.stage_of_stops stops
  have left : v.stage ≠ .listening → s.stage ≠ .listening := by
    rcases outcome with ⟨same, -⟩ | ⟨listening, -, -⟩
    · rw [Server.stage, same]
      exact id
    · exact fun left => absurd listening left
  have readerEnded : s.reading = .ended → v.hasFaulted = true ∨ s.stage ≠ .listening := by
    intro ended
    rcases reader ended with was | cancelled | gone
    · exact (law.readerEnded was).imp_right left
    · exact .inr (left (law.cancelled cancelled))
    · exact .inr gone
  rcases outcome with ⟨same, none⟩ | ⟨listening, stopping, one⟩
  · replace same : s.stage = v.stage := same
    constructor
    · simpa [same] using law.begun
    · rw [isCancelled_proceed, stage_proceed, same]
      exact law.cancelled
    · simpa [same, none] using law.pending
    · exact readerEnded
    · exact fun seen => ⟨readerStays (law.readerSeen seen).1, left (law.readerSeen seen).2⟩
    · exact fun seen => writerStays (law.writerSeen seen)
    · simpa [same] using law.stopped
    · rw [answers_proceed, stage_proceed, same, List.count_append, none]
      exact law.answers
    · exact law.returns
  · replace stopping : s.stage = .stopping := stopping
    have waits := law.supervision_of_listening listening
    have unanswered := law.answers
    rw [if_pos listening] at unanswered
    constructor
    · simp [stopping]
    · simp [stopping]
    · simp [stopping]
    · exact readerEnded
    · exact fun seen => absurd waits seen
    · exact fun seen => writerStays (law.writerSeen seen)
    · simp [stopping, waits]
    · simp [stopping, unanswered, one]
    · exact law.returns

/-- A reader that faults leaves the lifecycle alone. -/
theorem breakReader (law : StageLaw v) :
    StageLaw { v with server := v.server.abortReading, hasFaulted := true } := by
  have here : ({ v with server := v.server.abortReading, hasFaulted := true } : Supervised).stage =
      v.stage := by simp [stage, Server.stage]
  constructor
  · rw [here]; exact law.begun
  · rw [here]; simpa [isCancelled] using law.cancelled
  · rw [here]; exact law.pending
  · exact fun _ => .inl rfl
  · rw [here]; exact fun seen => ⟨reading_abortReading _, (law.readerSeen seen).2⟩
  · simpa using law.writerSeen
  · rw [here]; exact law.stopped
  · rw [here]; exact law.answers
  · exact law.returns

/-- The supervisor goes on to the writer of a server that does not listen any more. -/
theorem waitForWriter (law : StageLaw v) (waits : v.supervision = .reader)
    (ended : v.server.reading = .ended) (left : v.stage ≠ .listening) :
    StageLaw { v with supervision := .writer } where
  begun := law.begun
  cancelled := law.cancelled
  pending := law.pending
  readerEnded := law.readerEnded
  readerSeen _ := ⟨ended, left⟩
  writerSeen seen := by cases seen
  stopped := by
    refine ⟨fun stopped => ?_, fun nothing => (by cases nothing)⟩
    rw [law.stopped.1 stopped] at waits
    cases waits
  answers := law.answers
  returns := law.returns

theorem seeReader (law : StageLaw v) (waits : v.supervision = .reader)
    (ended : v.server.reading = .ended) : StageLaw v.seeReader := by
  unfold Supervised.seeReader
  by_cases faulted : v.hasFaulted
  · rw [if_pos faulted]
    have stopped : StageLaw (v.proceed v.server.stop [v.server.lifecycle.stop.1]) :=
      law.proceed (.of_stop _) (fun ended => .inl ended) id id
    exact stopped.waitForWriter waits ended (stage_stopped_ne_listening _)
  · rw [if_neg faulted]
    exact law.waitForWriter waits ended ((law.readerEnded ended).resolve_left faulted)

theorem seeWriter (law : StageLaw v) (waits : v.supervision = .writer)
    (ended : v.server.writing = .ended) : StageLaw v.seeWriter := by
  have seen : v.supervision ≠ .reader := by simp [waits]
  obtain ⟨readerEnded, left⟩ := law.readerSeen seen
  have last : v.seeWriter.stage = .stopped := rfl
  have stopped : v.seeWriter.stage ≠ .listening := by simp [last]
  have one := law.answers
  rw [if_neg left] at one
  exact
    { begun := by simp [last]
      cancelled := fun _ => stopped
      pending := fun _ => stopped
      readerEnded := fun _ => .inr stopped
      readerSeen := fun _ => ⟨readerEnded, stopped⟩
      writerSeen := fun _ => ended
      stopped := ⟨fun _ => rfl, fun _ => rfl⟩
      answers := by rw [if_neg stopped]; exact one
      returns := law.returns }

/-- One move keeps the law. -/
theorem of_step {m : Move} (law : StageLaw v) (h : Step v m v') : StageLaw v' := by
  cases h with
  | part living moved =>
    have step := Server.Step.of_step moved
    exact law.proceed (.of_step step living) (reading_ended_of_step step)
      (reading_eq_ended_of_step step) (writing_eq_ended_of_step step)
  | cancel pending =>
    have left := law.pending pending
    exact { law with
      cancelled := fun _ => left
      pending := fun _ => left }
  | breakReader => exact law.breakReader
  | breakWriter => exact { law with writerSeen := fun _ => rfl }
  | seeReader waits ended => exact law.seeReader waits ended
  | seeWriter waits ended => exact law.seeWriter waits ended
  | handle handles => exact { law with }
  | returns found held last =>
    have stopped : v.stage = .stopped := last.resolve_right (by simp [isShared_of_handle found held])
    exact { law with
      returns := by
        intro stage returned
        rcases List.mem_append.1 returned with before | now
        · exact law.returns stage before
        · rw [List.mem_singleton.1 now]
          exact stopped }

theorem of_run {spare : Nat} {settings : Settings} {s : Server} {moves : List Move}
    (spawned : spawnWith spare settings = some s) (run : (ofServer s).run moves = some v) :
    StageLaw v :=
  run_induction (motive := fun _ => StageLaw) (of_spawnWith spawned) (fun h law => law.of_step h) run

/-! ## From stage to stage -/

/-- One move keeps the stage or takes it to the next one. -/
theorem stage_of_step {m : Move} (law : StageLaw v) (h : Step v m v') :
    v'.stage = v.stage ∨ v.stage = .listening ∧ v'.stage = .stopping ∨
      v.stage = .stopping ∧ v'.stage = .stopped := by
  have stops {answers : List Bool} {l : Lifecycle} (stops : Stops v.server.lifecycle answers l) :
      l.stage = v.stage ∨ v.stage = .listening ∧ l.stage = .stopping :=
    (law.stage_of_stops stops).imp And.left fun ⟨listening, stopping, _⟩ => ⟨listening, stopping⟩
  cases h with
  | part living moved =>
    exact (stops (.of_step (.of_step moved) living)).imp_right .inl
  | seeReader =>
    unfold Supervised.seeReader
    split
    · exact (stops (.of_stop _)).imp_right .inl
    · exact .inl rfl
  | seeWriter waits =>
    have left : v.stage ≠ .listening := (law.readerSeen (by simp [waits])).2
    have running : v.stage ≠ .stopped := mt law.stopped.1 (by simp [waits])
    exact .inr (.inr ⟨Stage.eq_stopping law.begun left running, rfl⟩)
  | breakReader => exact .inl (by simp [stage, Server.stage])
  | _ => exact .inl rfl

/-- When the server has stopped, reader and writer have ended. -/
theorem ended_of_stopped (law : StageLaw v) (stopped : v.stage = .stopped) :
    v.server.reading = .ended ∧ v.server.writing = .ended := by
  have nothing := law.stopped.1 stopped
  exact ⟨(law.readerSeen (by simp [nothing])).1, law.writerSeen nothing⟩

/-- When the supervisor has seen both ends it retires the server: the two are the last to end, and the
server has not stopped before. -/
theorem retire_of_seeWriter (law : StageLaw v) (waits : v.supervision = .writer)
    (ended : v.server.writing = .ended) : v.server.step .retire = some v.seeWriter.server := by
  have readerEnded := (law.readerSeen (by simp [waits])).1
  have running : v.stage ≠ .stopped := mt law.stopped.1 (by simp [waits])
  exact if_pos ⟨readerEnded, ended, running⟩

/-- One move of a server that has stopped leaves stage and socket alone. -/
theorem rests_of_step {m : Move} (law : StageLaw v) (stopped : v.stage = .stopped)
    (h : Step v m v') : v'.stage = .stopped ∧ LeavesSocket v [m] v' := by
  obtain ⟨readerEnded, writerEnded⟩ := law.ended_of_stopped stopped
  have nothing := law.stopped.1 stopped
  have last : v'.stage = .stopped := by
    rcases law.stage_of_step h with same | ⟨listening, -⟩ | ⟨-, last⟩
    · exact same.trans stopped
    · cases listening.symm.trans stopped
    · exact last
  refine ⟨last, ?_⟩
  cases h with
  | part living moved =>
    obtain ⟨written, inbox, unused⟩ :=
      socket_rests_of_step (.of_step moved) readerEnded writerEnded
    exact ⟨written, inbox, fun p used => (by cases List.mem_singleton.1 used; exact unused)⟩
  | breakReader live => exact absurd readerEnded live
  | seeReader waits => cases nothing.symm.trans waits
  | _ => exact ⟨rfl, List.prefix_rfl, fun p used => nomatch List.mem_singleton.1 used⟩

/-- From then on every run does. -/
theorem rests_of_run {moves : List Move} (law : StageLaw v) (stopped : v.stage = .stopped)
    (run : v.run moves = some v') : v'.stage = .stopped ∧ LeavesSocket v moves v' := by
  suffices later : StageLaw v' ∧ v'.stage = .stopped ∧ LeavesSocket v moves v' from later.2
  refine run_induction
    (motive := fun moves v' => StageLaw v' ∧ v'.stage = .stopped ∧ LeavesSocket v moves v')
    ⟨law, stopped, .refl v⟩ ?_ run
  rintro moves m mid after step ⟨law, stopped, before⟩
  obtain ⟨stopped, now⟩ := law.rests_of_step stopped step
  exact ⟨law.of_step step, stopped, before.append now⟩

end StageLaw

/-! ## The stages in order -/

/-- **The stages come in order.**  After every run of a spawned server under supervision:

* the server listens, is stopping or has stopped, and a move keeps the stage or takes it to the next
  one;
* at most one stop has answered that it began the stopping, and one has if and only if the server
  does not listen any more;
* the parts are cancelled only when the server is stopping or has stopped;
* when it has stopped, reader and writer have ended, it stays stopped, and whatever happens nothing
  is read from the socket or written to it;
* every join that has returned did so when the server had stopped. -/
theorem stages_in_order {spare : Nat} {settings : Settings} {s : Server} {v : Supervised}
    {moves : List Move} (spawned : spawnWith spare settings = some s)
    (run : (ofServer s).run moves = some v) :
    ((v.stage = .listening ∨ v.stage = .stopping ∨ v.stage = .stopped) ∧
      ∀ m v', v.step m = some v' →
        v'.stage = v.stage ∨ v.stage = .listening ∧ v'.stage = .stopping ∨
          v.stage = .stopping ∧ v'.stage = .stopped) ∧
    (v.answers.count true ≤ 1 ∧ (true ∈ v.answers ↔ v.stage ≠ .listening)) ∧
    (v.isCancelled = true → v.stage = .stopping ∨ v.stage = .stopped) ∧
    (v.stage = .stopped → v.server.reading = .ended ∧ v.server.writing = .ended ∧
      ∀ more later, v.run more = some later →
        later.stage = .stopped ∧ LeavesSocket v more later) ∧
    ∀ stage ∈ v.returns, stage = .stopped := by
  have law := StageLaw.of_run spawned run
  have late : v.stage ≠ .listening → v.stage = .stopping ∨ v.stage = .stopped := fun left =>
    or_iff_not_imp_right.2 (Stage.eq_stopping law.begun left)
  have answers : v.answers.count true ≤ 1 ∧ (true ∈ v.answers ↔ v.stage ≠ .listening) := by
    rw [← List.count_pos_iff, law.answers]
    split
    · next listening => simp [listening]
    · next left => simp [left]
  refine ⟨⟨or_iff_not_imp_left.2 late, fun m v' moved => law.stage_of_step (.of_step moved)⟩, answers,
    fun cancelled => late (law.cancelled cancelled), fun stopped => ?_, law.returns⟩
  obtain ⟨readerEnded, writerEnded⟩ := law.ended_of_stopped stopped
  exact ⟨readerEnded, writerEnded, fun more later further => law.rests_of_run stopped further⟩

/-- Two owners stop a server while one of them joins it. -/
def twoStops : List Move :=
  [.handle 0 .clone, .handle 1 .join, .handle 1 .look, .part .stop, .part .stop,
    .handle 1 .wake, .handle 1 .look, .cancel, .part .quit, .part .finish, .supervise, .supervise,
    .handle 1 .wake, .handle 1 .look]

theorem stages_in_order_of_twoStops :
    spawnWith 0 {} = some (opened 0 {}) ∧
    ∃ v, (ofServer (opened 0 {})).run twoStops = some v ∧
      v.stage = .stopped ∧ v.answers = [true, false] ∧ v.returns = [.stopped] ∧
      v.answers.count true ≤ 1 ∧
      ∀ more later, v.run more = some later →
        later.stage = .stopped ∧ LeavesSocket v more later := by
  have spawned : spawnWith 0 {} = some (opened 0 {}) := by decide
  have seen : ((ofServer (opened 0 {})).run twoStops).map
      (fun v => (v.stage, v.answers, v.returns)) =
      some (.stopped, [true, false], [.stopped]) := by decide +kernel
  obtain ⟨v, run, same⟩ := Option.map_eq_some_iff.1 seen
  simp only [Prod.mk.injEq] at same
  obtain ⟨stopped, answers, returns⟩ := same
  obtain ⟨_, ⟨once, _⟩, _, rest, _⟩ := stages_in_order spawned run
  exact ⟨spawned, v, run, stopped, answers, returns, once, (rest stopped).2.2⟩

end Supervised

end DatagramSession.Server
