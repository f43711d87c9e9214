import DatagramSession.Proofs.Server.Issue
import DatagramSession.Proofs.Server.Noise
import DatagramSession.Proofs.Wire.Request
import Mathlib.Data.List.Forall2

/-!
# Secrets of a login

A login brings a password along, and the id of whatever session its sender held before.  Both are
read, and carried to the desk with the errand; but the desk asks for neither.

A server is compared with itself under a veil: every login that it has, on the wire, in the reader's
hands or on the desk, has lost its password and its old session.  What the server does under the
veil is what it does without, so two servers that differ in secrets alone look the same under it.

* `Errand.settle_veiled`: the one place where a login is answered.
* `Server.step_veiled`, `Supervised.step_veiled`: one move.
* `Supervised.run_veiled`: a whole run.
* `Supervised.secrets_have_no_influence`: two sequences of datagrams that differ in secrets alone.
-/

namespace DatagramSession

open Server

/-! ## The veil -/

/-- A login without its secrets.  A shutdown has none. -/
def Request.veiled : Request → Request
  | .login header account _ => .login { header with session := .absent } account ""
  | .shutdown header => .shutdown header

/-- A login on the wire without its secrets.  Any other datagram is left as it is. -/
def Datagram.veiled (d : Datagram) : Datagram :=
  match Request.decode (d.contents.take Wire.limit) with
  | .ok (.login header account password) =>
    ⟨d.peer, (Request.login header account password).veiled.written⟩
  | _ => d

namespace Errand

def veiled (e : Errand) : Errand :=
  match e.request with
  | .login .. => { e with request := e.request.veiled, session := .absent }
  | .shutdown _ => e

@[simp] theorem sender_veiled (e : Errand) : e.veiled.sender = e.sender := by
  unfold veiled
  split <;> rfl

theorem veiled_ofRequest (peer : Address) (r : Request) :
    (ofRequest peer r).veiled = ofRequest peer r.veiled := by
  cases r <;> rfl

/-- A login is answered without its secrets. -/
theorem settle_veiled (e : Errand) (draw : Draw) (table : Table) :
    (e.veiled.settle draw table).map (fun settled => (settled.verdict, settled.table)) =
      (e.settle draw table).map fun settled => (settled.verdict, settled.table) := by
  obtain ⟨sender, action, request, session⟩ := e
  cases request <;> cases action <;> rfl

end Errand

@[simp] theorem Datagram.peer_veiled (d : Datagram) : d.veiled.peer = d.peer := by
  unfold veiled
  split <;> rfl

/-- What is read under the veil is what was read, under the veil. -/
theorem Datagram.decode_veiled (d : Datagram) :
    Request.decode (d.veiled.contents.take Wire.limit) =
      (Request.decode (d.contents.take Wire.limit)).map Request.veiled := by
  cases decoded : Request.decode (d.contents.take Wire.limit) with
  | error failure => simp only [Datagram.veiled, decoded, Except.map]
  | ok r =>
    cases r with
    | shutdown header => simp only [Datagram.veiled, decoded, Except.map, Request.veiled]
    | login header account password =>
      obtain ⟨countable, body, isPrefix⟩ := Request.decode_eq_ok_iff.1 decoded
      have short : (Request.login header account password).veiled.written.length ≤ Wire.limit := by
        have fits := Nat.le_trans isPrefix.length_le (List.length_take_le _ _)
        simp only [Request.veiled, Request.written, RequestHeader.written, List.length_append,
          Wire.length_text, Wire.length_utf8] at fits ⊢
        have noText : "".utf8ByteSize = 0 := rfl
        have noSession : SessionId.absent.text.utf8ByteSize = 0 := rfl
        omega
      have bare : Wire.IsCountable "" := by decide
      simp only [Datagram.veiled, decoded, Except.map]
      rw [List.take_of_length_le short]
      exact Request.decode_written ⟨bare, countable.2.1, bare⟩ body

namespace Server

/-! ## The desk -/

def Task.veiled (t : Task) : Task := { t with errand := t.errand.veiled }

namespace Desk

def veiled (d : Desk) : Desk := { d with tasks := d.tasks.map Task.veiled }

theorem errand?_veiled (d : Desk) (ticket : Ticket) :
    d.veiled.errand? ticket = (d.errand? ticket).map Errand.veiled := by
  simp only [errand?, veiled, List.find?_map, Option.map_map]
  rfl

theorem start_veiled (d : Desk) (errand : Errand) :
    d.veiled.start errand.veiled = (d.start errand).veiled := by
  simp only [start, veiled, List.map_append]
  rfl

theorem finish_veiled (d : Desk) (ticket : Ticket) :
    d.veiled.finish ticket = (d.finish ticket).veiled := by
  simp only [finish, veiled, List.filter_map]
  rfl

theorem giveUp_veiled (d : Desk) (ticket : Ticket) :
    d.veiled.giveUp ticket = (d.giveUp ticket).veiled :=
  finish_veiled { d with outbox := d.outbox.leave ticket } ticket

theorem serve_veiled (d : Desk) (ticket : Ticket) (errand : Errand) (draw : Draw) :
    d.veiled.serve ticket errand.veiled draw = (d.serve ticket errand draw).veiled := by
  have same := errand.settle_veiled draw d.table
  have table : d.veiled.table = d.table := rfl
  unfold serve
  rw [table]
  cases settling : errand.settle draw d.table with
  | error mismatch =>
    cases veiling : errand.veiled.settle draw d.table with
    | error mismatch' => exact d.giveUp_veiled ticket
    | ok settled' => simp [settling, veiling, Except.map] at same
  | ok settled =>
    cases veiling : errand.veiled.settle draw d.table with
    | error mismatch' => simp [settling, veiling, Except.map] at same
    | ok settled' =>
      simp only [settling, veiling, Except.map, Except.ok.injEq, Prod.mk.injEq] at same
      simp only [same.1, same.2, Errand.sender_veiled]
      exact finish_veiled { d with
        table := settled.table
        outbox := d.outbox.put ticket (.ofVerdict errand.sender settled.verdict) } ticket

/-- A task does the same under the veil. -/
theorem step_veiled (d : Desk) (isCancelled : Bool) (m : Task.Move) :
    d.veiled.step isCancelled m = (d.step isCancelled m).map veiled := by
  have outbox : d.veiled.outbox = d.outbox := rfl
  cases m with
  | wait ticket =>
    simp only [step, errand?_veiled, Option.isSome_map, outbox]
    rw [apply_ite (Option.map veiled)]
    rfl
  | serve ticket draw =>
    simp only [step, errand?_veiled, outbox]
    cases d.errand? ticket with
    | none => rfl
    | some errand =>
      simp only [Option.map_some, serve_veiled]
      rw [apply_ite (Option.map veiled)]
      rfl
  | abandon ticket | refuse ticket | expire ticket =>
    simp only [step, errand?_veiled, Option.isSome_map, outbox, giveUp_veiled]
    rw [apply_ite (Option.map veiled)]
    rfl

end Desk

/-! ## The server -/

def Reading.veiled : Reading → Reading
  | .admitting errand => .admitting errand.veiled
  | .admitted errand => .admitted errand.veiled
  | reading => reading

theorem Reading.veiled_eq_ended_iff {reading : Reading} :
    reading.veiled = .ended ↔ reading = .ended := by
  cases reading <;> simp [veiled]

/-- The server without the secrets of the logins that it has. -/
def veiled (s : Server) : Server :=
  { s with
    desk := s.desk.veiled
    reading := s.reading.veiled
    inbox := s.inbox.map Datagram.veiled }

def Move.veiled : Move → Move
  | .arrive datagram => .arrive datagram.veiled
  | m => m

theorem senders_veiled (s : Server) : s.veiled.senders = s.senders := by
  simp only [senders, veiled, Desk.veiled, Reading.veiled_eq_ended_iff, List.length_map]

theorem read_veiled (s : Server) : s.veiled.read = s.read.map veiled := by
  unfold read
  cases reading : s.reading with
  | ready =>
    cases inbox : s.inbox with
    | nil => simp [veiled, reading, inbox, Reading.veiled]
    | cons datagram rest =>
      have ready : s.veiled.reading = .ready := congrArg Reading.veiled reading
      have first : s.veiled.inbox = datagram.veiled :: rest.map Datagram.veiled :=
        congrArg (List.map Datagram.veiled) inbox
      simp only [ready, first, datagram.decode_veiled]
      cases Request.decode (datagram.contents.take Wire.limit) with
      | error failure => rfl
      | ok r =>
        simp only [Except.map, datagram.peer_veiled, ← Errand.veiled_ofRequest]
        rfl
  | _ => simp [veiled, reading, Reading.veiled]

/-- A move does the same under the veil. -/
theorem step_veiled (s : Server) (m : Move) :
    s.veiled.step m.veiled = (s.step m).map veiled := by
  cases m with
  | arrive datagram => simp [step, Move.veiled, veiled]
  | stop => rfl
  | save => rfl
  | push reply =>
    simp only [step, Move.veiled, push]
    rw [apply_ite (Option.map veiled), Option.map_map]
    rfl
  | letGo => by_cases owned : 0 < s.spare <;> simp [step, Move.veiled, letGo, veiled, owned]
  | join => by_cases stopped : s.stage = .stopped <;> simp_all [step, Move.veiled, join, stage, veiled]
  | read => exact s.read_veiled
  | failRead =>
    cases reading : s.reading <;>
      simp [step, Move.veiled, failRead, veiled, reading, Reading.veiled]
  | accept =>
    cases reading : s.reading with
    | admitting errand =>
      by_cases free : 0 < s.desk.permits <;>
        simp [step, Move.veiled, accept, veiled, reading, Reading.veiled, free, Desk.veiled]
    | _ => simp [step, Move.veiled, accept, veiled, reading, Reading.veiled]
  | start =>
    cases reading : s.reading <;>
      simp [step, Move.veiled, start, veiled, reading, Reading.veiled, Desk.start_veiled]
  | quit =>
    by_cases cancelled : s.lifecycle.isCancelled = true <;> cases reading : s.reading <;>
      simp [step, Move.veiled, quit, veiled, reading, Reading.veiled, cancelled]
  | task m =>
    have desk : s.veiled.desk = s.desk.veiled := rfl
    have lifecycle : s.veiled.lifecycle = s.lifecycle := rfl
    simp only [step, Move.veiled, desk, lifecycle, Desk.step_veiled, Option.map_map]
    rfl
  | take =>
    cases writing : s.writing with
    | ready =>
      cases taken : s.desk.outbox.take? <;>
        simp [step, Move.veiled, take, veiled, writing, taken, Desk.veiled]
    | _ => simp [step, Move.veiled, take, veiled, writing]
  | write => cases writing : s.writing <;> simp [step, Move.veiled, write, veiled, writing]
  | failWrite =>
    cases writing : s.writing <;>
      simp [step, Move.veiled, failWrite, endWriting, veiled, writing, Desk.veiled]
  | finish =>
    have senders := s.senders_veiled
    by_cases alone : s.senders = 0 <;> cases writing : s.writing <;>
      cases queue : s.desk.outbox.queue <;>
      simp_all [step, Move.veiled, finish, endWriting, veiled, Desk.veiled]
  | retire =>
    have ended : s.veiled.reading = .ended ↔ s.reading = .ended := Reading.veiled_eq_ended_iff
    simp only [step, Move.veiled, retire, ended]
    rw [apply_ite (Option.map veiled)]
    rfl

theorem stopAnswers_veiled (s : Server) (m : Move) :
    s.veiled.stopAnswers m.veiled = s.stopAnswers m := by
  cases m <;> rfl

namespace Supervised

/-- The supervised server without the secrets of the logins that it has. -/
def veiled (v : Supervised) : Supervised := { v with server := v.server.veiled }

def Move.veiled : Move → Move
  | .part m => .part m.veiled
  | m => m

theorem unseen_veiled : Unseen Server.veiled where
  lifecycle _ := rfl
  writing _ := rfl
  ended _ := Reading.veiled_eq_ended_iff
  relive _ _ := rfl
  abort s := by
    cases reading : s.reading <;>
      simp [abortReading, Server.veiled, Reading.veiled, Desk.veiled, reading]
  endWriting _ := rfl

/-- A move does the same under the veil. -/
theorem step_veiled (v : Supervised) (m : Move) :
    v.veiled.step m.veiled = (v.step m).map veiled := by
  cases m with
  | part m =>
    cases m with
    | retire => rfl
    | join => rfl
    | _ =>
      exact unseen_veiled.part nofun nofun nofun nofun (v.server.step_veiled _)
        (v.server.stopAnswers_veiled _)
  | _ => exact unseen_veiled.step (fun _ same => nomatch same)

/-! ## A whole run -/

theorem run_veiled (v : Supervised) (moves : List Move) :
    v.veiled.run (moves.map Move.veiled) = (v.run moves).map veiled := by
  induction moves generalizing v with
  | nil => rfl
  | cons m rest ih =>
    rw [List.map_cons, run_cons, run_cons, step_veiled]
    cases v.step m with
    | none => rfl
    | some mid => exact ih mid

/-- What can be seen of a supervised server from outside: its table, all that it has written, its
life, and what stops and joins have returned. -/
structure View where
  table : Table
  written : List Datagram
  lifecycle : Lifecycle
  answers : List Bool
  returns : List Stage
deriving DecidableEq, Repr

def view (v : Supervised) : View :=
  ⟨v.server.desk.table, v.server.written, v.server.lifecycle, v.answers, v.returns⟩

/-- What can be seen after each move of a run. -/
def views (v : Supervised) (moves : List Move) : List View :=
  notedAlong step (fun _ _ v' => [v'.view]) v moves

theorem views_cons {v mid : Supervised} {m : Move} (moved : v.step m = some mid)
    (rest : List Move) : v.views (m :: rest) = mid.view :: mid.views rest := by
  simp only [views, notedAlong, moved, List.singleton_append]

/-- The veil covers nothing that can be seen from outside. -/
theorem views_veiled (v : Supervised) (moves : List Move) :
    v.veiled.views (moves.map Move.veiled) = v.views moves := by
  induction moves generalizing v with
  | nil => rfl
  | cons m rest ih =>
    have same := v.step_veiled m
    rw [List.map_cons]
    cases moved : v.step m with
    | none =>
      rw [moved] at same
      simp only [views, notedAlong, moved, same, Option.map_none]
    | some mid =>
      rw [moved, Option.map_some] at same
      rw [views_cons moved, views_cons same, ih]
      rfl

/-! ## Two runs -/

end Supervised

end Server

/-- The datagrams are the same, but for the password, the old session and whatever lies behind them,
if both begin with a login. -/
def Datagram.IsAlike (d d' : Datagram) : Prop :=
  d.peer = d'.peer ∧
    (d.contents = d'.contents ∨
      ∃ header header' account password password',
        Request.decode (d.contents.take Wire.limit) = .ok (.login header account password) ∧
        Request.decode (d'.contents.take Wire.limit) = .ok (.login header' account password'))

theorem Datagram.IsAlike.symm {d d' : Datagram} (alike : d.IsAlike d') : d'.IsAlike d := by
  obtain ⟨peer, same | ⟨header, header', account, password, password', first, second⟩⟩ := alike
  · exact ⟨peer.symm, .inl same.symm⟩
  · exact ⟨peer.symm, .inr ⟨header', header, account, password', password, second, first⟩⟩

/-- Such datagrams are the same under the veil. -/
theorem Datagram.IsAlike.veiled_eq {d d' : Datagram} (alike : d.IsAlike d') :
    d.veiled = d'.veiled := by
  obtain ⟨peer, contents⟩ := d
  obtain ⟨peer', contents'⟩ := d'
  obtain ⟨rfl, rfl | ⟨header, header', account, password, password', first, second⟩⟩ := alike
  · rfl
  · have action : header.action = header'.action :=
      (Request.decode_eq_ok_iff.1 first).2.1.symm.trans (Request.decode_eq_ok_iff.1 second).2.1
    simp only [veiled, first, second, Request.veiled, action]

namespace Server

namespace Supervised

/-- The moves are the same, but for the secrets of logins that arrive. -/
inductive Move.IsAlike : Move → Move → Prop
  | arrive {d d' : Datagram} :
    d.IsAlike d' → IsAlike (.part (.arrive d)) (.part (.arrive d'))
  | other {m : Move} : (∀ d, m ≠ .part (.arrive d)) → IsAlike m m

theorem Move.IsAlike.veiled_eq {m m' : Move} (alike : m.IsAlike m') : m.veiled = m'.veiled := by
  cases alike with
  | arrive alike => exact congrArg (fun d => Move.part (.arrive d)) alike.veiled_eq
  | other => rfl

theorem map_veiled_eq {moves moves' : List Move} (alike : List.Forall₂ Move.IsAlike moves moves') :
    moves.map Move.veiled = moves'.map Move.veiled := by
  induction alike with
  | nil => rfl
  | cons first _ ih => rw [List.map_cons, List.map_cons, first.veiled_eq, ih]

/-- Secrets can be exchanged in a run without touching another move. -/
theorem exists_alike {moves : List Move} {second : List Datagram}
    (alike : List.Forall₂ Datagram.IsAlike (arrivals moves) second) :
    ∃ moves', List.Forall₂ Move.IsAlike moves moves' ∧ arrivals moves' = second := by
  induction moves generalizing second with
  | nil =>
    cases alike
    exact ⟨[], .nil, rfl⟩
  | cons m rest ih =>
    by_cases arrives : ∃ d, m = .part (.arrive d)
    · obtain ⟨d, rfl⟩ := arrives
      cases alike with
      | cons first later =>
        obtain ⟨moves', same, came⟩ := ih later
        exact ⟨_ :: moves', .cons (.arrive first) same, congrArg (_ :: ·) came⟩
    · have other := not_exists.1 arrives
      have none : ∀ moves, arrivals (m :: moves) = arrivals moves := by
        intro moves
        unfold arrivals
        rw [List.filterMap_cons_none]
        split
        · next d => exact absurd rfl (other d)
        · rfl
      rw [none] at alike
      obtain ⟨moves', same, came⟩ := ih alike
      exact ⟨m :: moves', .cons (.other other) same, (none moves').trans came⟩

/-- Runs that are alike look the same. -/
theorem views_eq_of_alike {v w : Supervised} {moves moves' : List Move}
    (alike : List.Forall₂ Move.IsAlike moves moves') (run : v.run moves = some w) :
    ∃ w', v.run moves' = some w' ∧ v.views moves' = v.views moves ∧ w'.view = w.view := by
  have veiled := map_veiled_eq alike
  have there : (v.run moves').map Supervised.veiled = some w.veiled := by
    rw [← run_veiled, ← veiled, run_veiled, run, Option.map_some]
  obtain ⟨w', run', same⟩ := Option.map_eq_some_iff.1 there
  refine ⟨w', run', ?_, ?_⟩
  · rw [← views_veiled, ← veiled, views_veiled]
  · have ends : w'.veiled.view = w.veiled.view := congrArg view same
    exact ends

/-- The reply to a login is made of its account and of the id that was drawn. -/
theorem eq_welcome_of_mem_handed {s s' : Server} {ticket : Ticket} {draw : Draw} {errand : Errand}
    {header : RequestHeader} {account password : String}
    (live : s.desk.errand? ticket = some errand)
    (request : errand.request = .login header account password)
    (moved : s.step (.task (.serve ticket draw)) = some s') {reply : Reply}
    (member : (ticket, reply) ∈ s.handed (.task (.serve ticket draw)) s') :
    reply = ⟨errand.sender, .login (.ok .login draw.fresh) (Errand.welcome account), false⟩ := by
  cases Server.Step.of_step moved with
  | task step =>
    cases step with
    | @settle _ _ other settled found _ settling =>
      cases live.symm.trans found
      rw [handed_settle, List.mem_singleton] at member
      cases member
      rcases Errand.settle_eq_ok_iff.1 settling with
        ⟨header', account', password', -, same, rfl⟩ | ⟨header', -, same, rfl⟩
      · cases request.symm.trans same
        rfl
      · cases request.symm.trans same
    | giveUp =>
      rw [handed_giveUp] at member
      cases member

/-- The ids that a run tells its logins are those that it draws, whatever the logins ask for. -/
theorem map_issued_eq_drawn (v : Supervised) (moves : List Move) :
    (v.noted issued moves).map (·.2) = v.noted (fun s m _ => s.drawnIds m) moves := by
  induction moves generalizing v with
  | nil => rfl
  | cons m rest ih =>
    unfold noted at ih ⊢
    unfold notedAlong
    cases moved : v.step m with
    | none => rfl
    | some mid =>
      simp only
      rw [List.map_append, ih]
      refine congrArg (· ++ _) ?_
      cases m with
      | part m =>
        cases Step.of_step moved with
        | @part m s living step =>
          -- what is issued is read off the desk, and stops leave the desk alone
          have same : v.server.issued m (v.proceed s (v.server.stopAnswers m)).server =
              v.server.issued m s := by
            cases m <;> rfl
          rw [seen, same]
          exact map_issued_eq_drawnIds (.of_step step)
      | _ => rfl

/-- **Passwords and old sessions have no influence.**  Take two sequences of datagrams that differ
in the secrets of logins alone, and a server in whatever state.  For every run in which the one
comes there is a run in which the other comes, so that they make the same moves otherwise, with the
same ids drawn, and look the same after each move: they have the same table, have written the same
datagrams, and live the same life.  So no password can be told from what is written.  The ids that
logins are told are those that are drawn, and the reply to a login is made of its account and of
the id that was drawn for it. -/
theorem secrets_have_no_influence {first second : List Datagram}
    (alike : List.Forall₂ Datagram.IsAlike first second) (v : Supervised) :
    (∀ moves w, v.run moves = some w → arrivals moves = first →
      ∃ moves' w', v.run moves' = some w' ∧ arrivals moves' = second ∧
        List.Forall₂ Move.IsAlike moves moves' ∧
        v.views moves' = v.views moves ∧ w'.view = w.view) ∧
    (∀ moves' w', v.run moves' = some w' → arrivals moves' = second →
      ∃ moves w, v.run moves = some w ∧ arrivals moves = first ∧
        List.Forall₂ Move.IsAlike moves' moves ∧
        v.views moves = v.views moves' ∧ w.view = w'.view) ∧
    (∀ moves, (v.noted issued moves).map (·.2) = v.noted (fun s m _ => s.drawnIds m) moves) ∧
    ∀ (s s' : Server) (ticket : Ticket) (draw : Draw) (errand : Errand) (header : RequestHeader)
      (account password : String), s.desk.errand? ticket = some errand →
      errand.request = .login header account password →
      s.step (.task (.serve ticket draw)) = some s' →
      ∀ reply, (ticket, reply) ∈ s.handed (.task (.serve ticket draw)) s' →
        reply =
          ⟨errand.sender, .login (.ok .login draw.fresh) (Errand.welcome account), false⟩ := by
  have exchange : ∀ {first second : List Datagram}, List.Forall₂ Datagram.IsAlike first second →
      ∀ moves w, v.run moves = some w → arrivals moves = first →
      ∃ moves' w', v.run moves' = some w' ∧ arrivals moves' = second ∧
        List.Forall₂ Move.IsAlike moves moves' ∧
        v.views moves' = v.views moves ∧ w'.view = w.view := by
    rintro first second alike moves w run rfl
    obtain ⟨moves', same, came⟩ := exists_alike alike
    obtain ⟨w', run', seen, ends⟩ := views_eq_of_alike same run
    exact ⟨moves', w', run', came, same, seen, ends⟩
  have back : List.Forall₂ Datagram.IsAlike second first :=
    .flip (alike.imp fun _ _ alike => alike.symm)
  exact ⟨exchange alike, exchange back, map_issued_eq_drawn v,
    fun _ _ _ _ _ _ _ _ live request moved _ => eq_welcome_of_mem_handed live request moved⟩

/-- A login of Alice, who brings a session along. -/
def relogin (session : SessionId) (password : String) : Datagram :=
  ⟨.loopback 9000, (Request.login ⟨.login, session⟩ "alice" password).written⟩

/-- The login is read and answered. -/
def answered (login : Datagram) : List Move :=
  [.part (.arrive login), .part .read, .part .accept, .part .start,
    .part (.task (.serve 0 ⟨⟨"fresh"⟩, 1⟩)), .part .take, .part .write]

theorem secrets_have_no_influence_of_relogin :
    let v := ofServer (opened 0 {})
    let welcome : Response := .login (.ok .login ⟨"fresh"⟩) "Welcome alice"
    List.Forall₂ Datagram.IsAlike [relogin ⟨"chosen"⟩ "pw"] [relogin .absent "secret"] ∧
    (∃ w, v.run (answered (relogin ⟨"chosen"⟩ "pw")) = some w) ∧
    ∃ moves' w', v.run moves' = some w' ∧ arrivals moves' = [relogin .absent "secret"] ∧
      w'.view.written = [⟨.loopback 9000, welcome.written⟩] ∧
      w'.view.table.ids = [⟨"fresh"⟩] ∧ w'.view.lifecycle.stage = .listening := by
  intro v welcome
  have alike : (relogin ⟨"chosen"⟩ "pw").IsAlike (relogin .absent "secret") :=
    ⟨rfl, .inr ⟨⟨.login, ⟨"chosen"⟩⟩, ⟨.login, .absent⟩, "alice", "pw", "secret", rfl, rfl⟩⟩
  have seen : (v.run (answered (relogin ⟨"chosen"⟩ "pw"))).map view =
      some ⟨⟨[(⟨"fresh"⟩, ⟨1, 1⟩)]⟩, [⟨.loopback 9000, welcome.written⟩], ⟨.listening, false⟩, [],
        []⟩ := by decide +kernel
  obtain ⟨w, run, view⟩ := Option.map_eq_some_iff.1 seen
  obtain ⟨moves', w', run', came, -, -, same⟩ :=
    (secrets_have_no_influence (.cons alike .nil) v).1 _ w run rfl
  rw [view] at same
  refine ⟨.cons alike .nil, ⟨w, run⟩, moves', w', run', came, ?_, ?_, ?_⟩
  · rw [same]
  · rw [same]
    rfl
  · rw [same]

end Supervised

end Server

end DatagramSession
