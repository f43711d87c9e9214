import DatagramSession.Proofs.Server.Oversight

/-!
# Noise

Anybody can send a datagram that is no request.  The reader takes it from the socket and drops it
before it looks for a permit, so a server goes through the same states, but for what lies in its
inbox, as if the datagram had never come.

A run is compared with one that is cleared of noise.  Two kinds of moves are left out of it: the
arrival of noise, and a reading that drops noise.  Every other move does the same to a server and to
the server without the noise in its inbox.

* `step_cleared`, `Supervised.step_cleared`: a move that is not left out.
* `Supervised.exists_cleared_run`: what is left of a run is a run.
* `Supervised.exists_noisy_run`: noise can be put back wherever it came from.
* `Supervised.noise_is_without_effect`: both together.
-/

namespace DatagramSession

/-- The part of the datagram that a reader has room for begins with a request. -/
def Datagram.isRequest (d : Datagram) : Bool :=
  (Request.decode (d.contents.take Wire.limit)).isOk

namespace Server

/-! ## One move -/

/-- The server without the noise in its inbox. -/
def cleared (s : Server) : Server := { s with inbox := s.inbox.filter Datagram.isRequest }

/-- The move brings noise to the socket, or takes noise from it. -/
def ignores (s : Server) : Move → Bool
  | .arrive datagram => !datagram.isRequest
  | .read => s.inbox.head?.any (!·.isRequest)
  | _ => false

/-- Noise arrives, and nothing else happens. -/
theorem cleared_arrive {datagram : Datagram} (noise : datagram.isRequest = false) (s : Server) :
    ({ s with inbox := s.inbox ++ [datagram] } : Server).cleared = s.cleared := by
  simp [cleared, noise]

/-- A ready reader drops noise, and goes on with the rest. -/
theorem read_eq_of_noise {s : Server} {datagram : Datagram} {rest : List Datagram}
    (ready : s.reading = .ready) (inbox : s.inbox = datagram :: rest)
    (noise : datagram.isRequest = false) : s.read = some { s with inbox := rest } := by
  unfold read
  rw [ready, inbox]
  cases decoded : Request.decode (datagram.contents.take Wire.limit) with
  | ok request => simp [Datagram.isRequest, decoded, Except.isOk, Except.toBool] at noise
  | error failure => simp only [decoded]

/-- The reader takes a datagram only when it is ready. -/
theorem exists_inbox_of_read {s s' : Server} (read : s.read = some s') :
    s.reading = .ready ∧ ∃ datagram rest, s.inbox = datagram :: rest := by
  cases Step.of_step (m := .read) read with
  | @read datagram rest request ready inbox decoded => exact ⟨ready, datagram, rest, inbox⟩
  | @drop datagram rest failure ready inbox rejected => exact ⟨ready, datagram, rest, inbox⟩

/-- Of a move that is ignored, only the inbox knows. -/
theorem cleared_eq_of_ignores {s s' : Server} {m : Move} (ignored : s.ignores m = true)
    (moved : s.step m = some s') : s'.cleared = s.cleared ∧ { s' with inbox := s.inbox } = s := by
  cases m with
  | arrive datagram =>
    cases moved
    have noise : datagram.isRequest = false := by simpa [ignores] using ignored
    exact ⟨cleared_arrive noise s, rfl⟩
  | read =>
    cases Step.of_step moved with
    | @read datagram rest request ready inbox decoded =>
      simp [ignores, inbox, Datagram.isRequest, decoded, Except.isOk, Except.toBool] at ignored
    | @drop datagram rest failure ready inbox rejected =>
      have noise : datagram.isRequest = false := by simpa [ignores, inbox] using ignored
      refine ⟨?_, rfl⟩
      simp [cleared, inbox, noise]
  | _ => cases ignored

/-- A request that the reader takes is the first in the inbox, with noise or without. -/
theorem read_cleared {s : Server} (heeded : s.ignores .read = false) :
    s.cleared.read = s.read.map cleared := by
  unfold read
  cases reading : s.reading with
  | ready =>
    cases inbox : s.inbox with
    | nil => simp [cleared, reading, inbox]
    | cons datagram rest =>
      have request : datagram.isRequest = true := by simpa [ignores, inbox] using heeded
      have kept : s.cleared.inbox = datagram :: rest.filter Datagram.isRequest := by
        simp [cleared, inbox, request]
      have same : s.cleared.reading = .ready := reading
      simp only [kept, same]
      cases Request.decode (datagram.contents.take Wire.limit) <;> rfl
  | _ => simp [cleared, reading]

/-- Any other move does the same to the server without noise. -/
theorem step_cleared {s : Server} {m : Move} (heeded : s.ignores m = false) :
    s.cleared.step m = (s.step m).map cleared := by
  cases m with
  | arrive datagram =>
    have request : datagram.isRequest = true := by simpa [ignores] using heeded
    simp [step, cleared, request]
  | read => exact read_cleared heeded
  | stop => rfl
  | save => rfl
  | push reply =>
    simp only [step, push]
    rw [apply_ite (Option.map cleared), Option.map_map]
    rfl
  | letGo => by_cases owned : 0 < s.spare <;> simp [step, letGo, cleared, owned]
  | join => by_cases stopped : s.stage = .stopped <;> simp_all [step, join, stage, cleared]
  | failRead => cases reading : s.reading <;> simp [step, failRead, cleared, reading]
  | accept =>
    cases reading : s.reading with
    | admitting errand =>
      by_cases free : 0 < s.desk.permits <;> simp [step, accept, cleared, reading, free]
    | _ => simp [step, accept, cleared, reading]
  | start => cases reading : s.reading <;> simp [step, start, cleared, reading]
  | quit =>
    by_cases cancelled : s.lifecycle.isCancelled = true <;> cases reading : s.reading <;>
      simp [step, quit, cleared, reading, cancelled]
  | task m =>
    simp only [step, Option.map_map]
    rfl
  | take =>
    cases writing : s.writing with
    | ready => cases taken : s.desk.outbox.take? <;> simp [step, take, cleared, writing, taken]
    | _ => simp [step, take, cleared, writing]
  | write => cases writing : s.writing <;> simp [step, write, cleared, writing]
  | failWrite => cases writing : s.writing <;> simp [step, failWrite, endWriting, cleared, writing]
  | finish =>
    have senders : s.cleared.senders = s.senders := rfl
    by_cases alone : s.senders = 0 <;> cases writing : s.writing <;>
      cases queue : s.desk.outbox.queue <;>
      simp_all [step, finish, endWriting, cleared]
  | retire =>
    simp only [step, retire]
    rw [apply_ite (Option.map cleared)]
    rfl

namespace Supervised

/-- The supervised server without the noise in its inbox. -/
def cleared (v : Supervised) : Supervised := { v with server := v.server.cleared }

def ignores (v : Supervised) : Move → Bool
  | .part m => v.server.ignores m
  | _ => false

/-- All of a supervised server but its inbox. -/
def face (v : Supervised) : Supervised := { v with server := { v.server with inbox := [] } }

/-- A server that has asked nobody to stop goes on as it is. -/
theorem proceed_nil {v : Supervised} {s : Server} (same : s.lifecycle = v.server.lifecycle) :
    v.proceed s [] = { v with server := s } := by
  simp [proceed, isCancelled, ← same]

/-- Of a move that is ignored, only the inbox knows. -/
theorem cleared_eq_of_ignores {v v' : Supervised} {m : Move} (ignored : v.ignores m = true)
    (moved : v.step m = some v') : v'.cleared = v.cleared ∧ v'.face = v.face := by
  cases m with
  | part m =>
    have answers : v.server.stopAnswers m = [] := by
      cases m with
      | arrive => rfl
      | read => rfl
      | _ => cases ignored
    cases Step.of_step moved with
    | @part m s living step =>
      rcases Server.cleared_eq_of_ignores ignored step with ⟨cleared, same⟩
      have life : s.lifecycle = v.server.lifecycle := by
        rw [← same]
      have rest : ({ s with inbox := [] } : Server) = { v.server with inbox := [] } :=
        congrArg (fun s => { s with inbox := [] }) same
      rw [answers, proceed_nil life]
      exact ⟨congrArg (fun s => { v with server := s }) cleared,
        congrArg (fun s => { v with server := s }) rest⟩
  | _ => cases ignored

theorem stopAnswers_cleared (s : Server) (m : Server.Move) :
    s.cleared.stopAnswers m = s.stopAnswers m := by
  cases m <;> rfl

theorem unseen_cleared : Unseen Server.cleared where
  lifecycle _ := rfl
  writing _ := rfl
  ended _ := Iff.rfl
  relive _ _ := rfl
  abort s := by cases reading : s.reading <;> simp [Server.abortReading, Server.cleared, reading]
  endWriting _ := rfl

/-- Any other move does the same to the supervised server without noise. -/
theorem step_cleared {v : Supervised} {m : Move} (heeded : v.ignores m = false) :
    v.cleared.step m = (v.step m).map cleared := by
  cases m with
  | part m =>
    by_cases retiring : m = .retire
    · rw [retiring]
      rfl
    by_cases joining : m = .join
    · rw [joining]
      rfl
    exact unseen_cleared.part retiring joining retiring joining (Server.step_cleared heeded)
      (stopAnswers_cleared v.server m)
  | _ => exact unseen_cleared.step (fun _ same => nomatch same)

/-! ## A whole run -/

/-- The datagrams that reach the socket in a run. -/
def arrivals (moves : List Move) : List Datagram :=
  moves.filterMap fun
    | .part (.arrive datagram) => some datagram
    | _ => none

/-- The moves of a run other than arrivals and readings: what the tasks draw, and what owners do, is
among them. -/
def others (moves : List Move) : List Move :=
  moves.filter fun
    | .part (.arrive _) | .part .read => false
    | _ => true

/-- The state that a move leads to, if it changes anything but the inbox. -/
def change (v : Supervised) (_ : Move) (v' : Supervised) : List Supervised :=
  if v'.face = v.face then [] else [v'.face]

/-- The states of a run, all but their inboxes, and each as long as it lasts written down once. -/
def history (v : Supervised) (moves : List Move) : List Supervised :=
  notedAlong step change v moves

theorem history_cons {v mid : Supervised} {m : Move} (moved : v.step m = some mid)
    (rest : List Move) : v.history (m :: rest) = v.change m mid ++ mid.history rest := by
  simp only [history, notedAlong, moved]

theorem arrivals_append (first rest : List Move) :
    arrivals (first ++ rest) = arrivals first ++ arrivals rest :=
  List.filterMap_append

theorem others_append (first rest : List Move) :
    others (first ++ rest) = others first ++ others rest :=
  List.filter_append first rest

/-- Moves that are all ignored. -/
inductive Idles : Supervised → List Move → Supervised → Prop
  | nil (v : Supervised) : Idles v [] v
  | cons {v mid v' : Supervised} {m : Move} {rest : List Move} :
    v.ignores m = true → v.step m = some mid → Idles mid rest v' → Idles v (m :: rest) v'

namespace Idles

variable {v v' : Supervised} {idle : List Move}

theorem cleared (h : Idles v idle v') : v'.cleared = v.cleared := by
  induction h with
  | nil => rfl
  | cons ignored moved _ ih => exact ih.trans (cleared_eq_of_ignores ignored moved).1

theorem others (h : Idles v idle v') : Supervised.others idle = [] := by
  induction h with
  | nil => rfl
  | @cons v mid v' m rest ignored moved _ ih =>
    rcases m with m | _ | _ | _ | _ | _
    · cases m with
      | arrive => exact ih
      | read => exact ih
      | _ => cases ignored
    all_goals cases ignored

/-- A run goes on after ignored moves as if they had not been made. -/
theorem run_append (h : Idles v idle v') (more : List Move) :
    v.run (idle ++ more) = v'.run more ∧ v.history (idle ++ more) = v'.history more := by
  induction h with
  | nil => exact ⟨rfl, rfl⟩
  | @cons v mid v' m rest ignored moved _ ih =>
    have unseen : v.change m mid = [] := if_pos (cleared_eq_of_ignores ignored moved).2
    rw [List.cons_append, run_cons, moved, history_cons moved, unseen]
    exact ih

/-- Any noise may arrive. -/
theorem exists_of_arrivals (v : Supervised) {noise : List Datagram}
    (isNoise : ∀ d ∈ noise, ¬ d.isRequest = true) :
    ∃ idle v', Idles v idle v' ∧ arrivals idle = noise ∧
      v'.server.inbox = v.server.inbox ++ noise := by
  induction noise generalizing v with
  | nil => exact ⟨[], v, .nil v, rfl, (List.append_nil _).symm⟩
  | cons d rest ih =>
    rcases List.forall_mem_cons.1 isNoise with ⟨first, later⟩
    let s : Server := { v.server with inbox := v.server.inbox ++ [d] }
    have moved : v.step (.part (.arrive d)) = some (v.proceed s []) := rfl
    rcases ih (v.proceed s []) later with ⟨idle, v', idles, arrived, inbox⟩
    refine ⟨.part (.arrive d) :: idle, v', .cons ?_ moved idles, congrArg (d :: ·) arrived, ?_⟩
    · simpa [ignores, Server.ignores] using first
    · rw [inbox]
      simp [proceed, s]

/-- A ready reader may drop the noise that lies before the first request. -/
theorem exists_of_noise {v : Supervised} {noise rest : List Datagram}
    (ready : v.server.reading = .ready) (inbox : v.server.inbox = noise ++ rest)
    (isNoise : ∀ d ∈ noise, ¬ d.isRequest = true) :
    ∃ idle v', Idles v idle v' ∧ arrivals idle = [] ∧ v'.server.inbox = rest := by
  induction noise generalizing v with
  | nil => exact ⟨[], v, .nil v, rfl, inbox⟩
  | cons d later ih =>
    rcases List.forall_mem_cons.1 isNoise with ⟨first, others⟩
    have isFirst : d.isRequest = false := by simpa using first
    let s : Server := { v.server with inbox := later ++ rest }
    have read : v.server.read = some s := read_eq_of_noise ready inbox isFirst
    have moved : v.step (.part .read) = some (v.proceed s []) := by
      simp only [step, Server.step, read, Option.map_some]
      rfl
    rcases ih (v := v.proceed s []) ready rfl others with ⟨idle, v', idles, arrived, left⟩
    refine ⟨.part .read :: idle, v', .cons ?_ moved idles, arrived, left⟩
    simp [ignores, Server.ignores, inbox, isFirst]

end Idles

/-- What is left of a run when it is cleared of noise is a run, with the same history. -/
theorem exists_cleared_run {v w : Supervised} {moves : List Move} (run : v.run moves = some w) :
    ∃ moves', v.cleared.run moves' = some w.cleared ∧
      arrivals moves' = (arrivals moves).filter Datagram.isRequest ∧
      others moves' = others moves ∧ v.cleared.history moves' = v.history moves := by
  induction moves generalizing v with
  | nil =>
    cases run
    exact ⟨[], rfl, rfl, rfl, rfl⟩
  | cons m rest ih =>
    rw [run_cons] at run
    rcases Option.bind_eq_some_iff.1 run with ⟨mid, moved, further⟩
    rcases ih further with ⟨moves', run', arrived, same, seen⟩
    cases ignored : v.ignores m with
    | true =>
      have idle : Idles v [m] mid := .cons ignored moved (.nil mid)
      have unseen : v.history (m :: rest) = mid.history rest := (idle.run_append rest).2
      refine ⟨moves', ?_, ?_, ?_, ?_⟩
      · rw [← idle.cleared]
        exact run'
      · have none : (arrivals [m]).filter Datagram.isRequest = [] := by
          cases m with
          | part m =>
            cases m with
            | arrive d => simpa [arrivals, ignores, Server.ignores] using ignored
            | _ => rfl
          | _ => rfl
        rw [← List.singleton_append, arrivals_append, List.filter_append, none, arrived]
        rfl
      · rw [← List.singleton_append, others_append, idle.others, same]
        rfl
      · rw [unseen, ← idle.cleared]
        exact seen
    | false =>
      have moved' : v.cleared.step m = some mid.cleared := by
        rw [step_cleared ignored, moved, Option.map_some]
      refine ⟨m :: moves', ?_, ?_, ?_, ?_⟩
      · rw [run_cons, moved']
        exact run'
      · have kept : (arrivals [m]).filter Datagram.isRequest = arrivals [m] := by
          cases m with
          | part m =>
            cases m with
            | arrive d =>
              have request : d.isRequest = true := by
                simpa [ignores, Server.ignores] using ignored
              simp [arrivals, request]
            | _ => rfl
          | _ => rfl
        rw [← List.singleton_append, ← List.singleton_append (l := rest), arrivals_append,
          arrivals_append, List.filter_append, kept, arrived]
      · rw [← List.singleton_append, ← List.singleton_append (l := rest), others_append,
          others_append, same]
      · have change : v.cleared.change m mid.cleared = v.change m mid := rfl
        rw [history_cons moved', history_cons moved, seen, change]

/-- Noise that came before a move, or that lies before the request which it reads, goes first. -/
theorem Idles.exists_before {v mid' : Supervised} {m : Move} {rest : List Move}
    {arrived : List Datagram} (moved : v.cleared.step m = some mid')
    (kept : arrivals (m :: rest) = arrived.filter Datagram.isRequest) :
    ∃ idle u later, Idles v idle u ∧ u.ignores m = false ∧
      arrivals idle ++ (arrivals [m] ++ later) = arrived ∧
      arrivals rest = later.filter Datagram.isRequest := by
  rcases m with m | _ | _ | _ | _ | _
  · cases m with
    | arrive d =>
      rcases List.filter_eq_cons_iff.1 kept.symm with
        ⟨noise, later, rfl, isNoise, request, left⟩
      rcases exists_of_arrivals v isNoise with ⟨idle, u, idles, arrived, -⟩
      refine ⟨idle, u, later, idles, ?_, ?_, left.symm⟩
      · simpa [ignores, Server.ignores] using request
      · rw [arrived]
        rfl
    | read =>
      rcases Option.map_eq_some_iff.1 moved with ⟨s, read, -⟩
      rcases exists_inbox_of_read read with ⟨ready, d, later, inbox⟩
      rcases List.filter_eq_cons_iff.1 inbox with ⟨noise, left, whole, isNoise, request, -⟩
      rcases exists_of_noise (v := v) ready whole isNoise with ⟨idle, u, idles, none, there⟩
      refine ⟨idle, u, arrived, idles, ?_, ?_, kept⟩
      · simpa [ignores, Server.ignores, there] using request
      · rw [none]
        rfl
    | _ => exact ⟨[], v, arrived, .nil v, rfl, rfl, kept⟩
  all_goals exact ⟨[], v, arrived, .nil v, rfl, rfl, kept⟩

/-- Noise can be put back into a run, in any order in which it came between the requests. -/
theorem exists_noisy_run {v w' : Supervised} {moves' : List Move} {arrived : List Datagram}
    (run' : v.cleared.run moves' = some w')
    (kept : arrivals moves' = arrived.filter Datagram.isRequest) :
    ∃ moves w, v.run moves = some w ∧ w.cleared = w' ∧ arrivals moves = arrived ∧
      others moves = others moves' ∧ v.history moves = v.cleared.history moves' := by
  induction moves' generalizing v arrived with
  | nil =>
    cases run'
    have isNoise : ∀ d ∈ arrived, ¬ d.isRequest = true := List.filter_eq_nil_iff.1 kept.symm
    rcases Idles.exists_of_arrivals v isNoise with ⟨idle, u, idles, came, -⟩
    have goes := idles.run_append []
    rw [List.append_nil] at goes
    exact ⟨idle, u, goes.1, idles.cleared, came, idles.others, goes.2⟩
  | cons m rest ih =>
    rw [run_cons] at run'
    rcases Option.bind_eq_some_iff.1 run' with ⟨mid', moved', further'⟩
    rcases Idles.exists_before moved' kept with ⟨idle, u, later, idles, heeded, came, left⟩
    have there : u.cleared.step m = some mid' := by
      rw [idles.cleared]
      exact moved'
    rw [step_cleared heeded] at there
    rcases Option.map_eq_some_iff.1 there with ⟨mid, moved, rfl⟩
    rcases ih further' left with ⟨moves, w, run, same, arrived', others', seen⟩
    refine ⟨idle ++ m :: moves, w, ?_, same, ?_, ?_, ?_⟩
    · rw [(idles.run_append _).1, run_cons, moved]
      exact run
    · rw [arrivals_append, ← List.singleton_append, arrivals_append, arrived', came]
    · rw [others_append, idles.others, ← List.singleton_append, others_append, others',
        ← List.singleton_append (l := rest), others_append]
      rfl
    · have change : u.cleared.change m mid.cleared = u.change m mid := rfl
      rw [(idles.run_append _).2, history_cons moved, seen, history_cons moved', ← idles.cleared,
        change]

/-- **Datagrams that are no requests are without effect.**  Take any datagrams that come to a
server, and those of them that are requests.  A run in which the former come and a run in which the
latter come can always be found for each other, so that they make the same moves apart from arrivals
and readings, with the same ids drawn, go through the same states but for what lies in the inbox,
and lead to the same state.  Such a state has in it the table, the permits, the slots, the stage,
and all that has been written. -/
theorem noise_is_without_effect {settings : Settings} {spare : Nat} {s : Server}
    (spawned : spawnWith spare settings = some s) (arrived : List Datagram) :
    (∀ moves w, (ofServer s).run moves = some w → arrivals moves = arrived →
      ∃ moves' w', (ofServer s).run moves' = some w' ∧
        arrivals moves' = arrived.filter Datagram.isRequest ∧ others moves' = others moves ∧
        (ofServer s).history moves' = (ofServer s).history moves ∧ w'.face = w.face) ∧
    ∀ moves' w', (ofServer s).run moves' = some w' →
      arrivals moves' = arrived.filter Datagram.isRequest →
      ∃ moves w, (ofServer s).run moves = some w ∧ arrivals moves = arrived ∧
        others moves = others moves' ∧
        (ofServer s).history moves = (ofServer s).history moves' ∧ w.face = w'.face := by
  have clear : (ofServer s).cleared = ofServer s := by
    rw [eq_opened_of_spawnWith spawned]
    rfl
  constructor
  · intro moves w run came
    rcases exists_cleared_run run with ⟨moves', run', came', others', seen⟩
    rw [clear] at run' seen
    rw [came] at came'
    exact ⟨moves', w.cleared, run', came', others', seen, rfl⟩
  · intro moves' w' run' came'
    rw [← clear] at run'
    rcases exists_noisy_run run' came' with ⟨moves, w, run, rfl, came, others', seen⟩
    rw [clear] at seen
    exact ⟨moves, w, run, came, others', seen, rfl⟩

/-- Two bytes, a login, and the login with its last byte cut off.  The former are dropped before the
login is read, the latter while its task is live. -/
def scanned : List Move :=
  let login := (Request.ofCredentials "alice" "pw").written
  let peer : Address := .loopback 9000
  [.part (.arrive ⟨peer, [0xDE, 0xAD]⟩), .part (.arrive ⟨peer, login⟩), .part .read,
    .part .read, .part (.arrive ⟨peer, login.dropLast⟩), .part .accept, .part .start,
    .part .read, .part (.task (.serve 0 ⟨⟨"first"⟩, 1⟩)), .part .take, .part .write]

theorem noise_is_without_effect_of_scanned :
    let s := opened 0 {}
    let login : Datagram := ⟨.loopback 9000, (Request.ofCredentials "alice" "pw").written⟩
    let welcome : Response := .login (.ok .login ⟨"first"⟩) "Welcome alice"
    spawnWith 0 {} = some s ∧ (arrivals scanned).length = 3 ∧
    (arrivals scanned).filter Datagram.isRequest = [login] ∧
    (∃ w, (ofServer s).run scanned = some w) ∧
    ∃ moves' w', (ofServer s).run moves' = some w' ∧ arrivals moves' = [login] ∧
      others moves' = [.part .accept, .part .start, .part (.task (.serve 0 ⟨⟨"first"⟩, 1⟩)),
        .part .take, .part .write] ∧
      w'.server.written = [⟨.loopback 9000, welcome.written⟩] := by
  intro s login welcome
  have spawned : spawnWith 0 {} = some s := by decide
  have requests : (arrivals scanned).filter Datagram.isRequest = [login] := by decide +kernel
  have seen : ((ofServer s).run scanned).map (·.server.written) =
      some [⟨.loopback 9000, welcome.written⟩] := by decide +kernel
  rcases Option.map_eq_some_iff.1 seen with ⟨w, run, written⟩
  rcases (noise_is_without_effect spawned (arrivals scanned)).1 scanned w run rfl with
    ⟨moves', w', run', came, others', -, same⟩
  have written' : w'.face.server.written = w.face.server.written := by
    rw [same]
  exact ⟨spawned, rfl, requests, ⟨w, run⟩, moves', w', run', came.trans requests, others',
    written'.trans written⟩

end Supervised

end Server

end DatagramSession
