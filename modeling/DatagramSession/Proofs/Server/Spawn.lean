import DatagramSession.CommandLine.ServerProgram
import DatagramSession.Server.Running

/-!
# Settings that can be spawned

Settings are checked before the socket is bound, and outbox and permits are made after that.  The
check asks that no number is zero, and an outbox of no slots cannot be made indeed.  But it asks
nothing at the other end, where outbox and permits have a limit of their own, and the numbers of a
command line reach beyond it.  A server with such numbers is bound, and then cannot be spawned.

* `bind_eq_of_check`, `spawnWith_eq_of_check`: what becomes of checked settings.
* `CommandLine.ServerProgram.start_naming`: a command line can name all numbers of 64 bits.
* `spawns_within_slotLimit`: which checked settings are spawned.
* `cannot_spawn_above_slotLimit`: checked settings that are not.
-/

namespace DatagramSession

/-! ## Numbers on a command line -/

namespace CommandLine

theorem isOption_toString (n : Nat) : isOption (toString n) = false := by
  unfold isOption
  split
  · next dash => cases Decimal.isDigit_of_toList_toString dash
  · rfl

namespace ServerProgram

variable {spec : Spec} {given : Given} {n : Nat}

theorem number_of_value (named : spec.value given = toString n) (fits : n ≤ maxSize) :
    number spec given = n := by
  rw [number, named, Decimal.signed?_toString fits]
  rfl

/-- An option that is not given yet takes every number of 64 bits. -/
theorem give_toString (sized : spec.accepts = some isSize) (new : spec.isGiven given = false)
    (fits : n ≤ maxSize) :
    spec.give (toString n) given = .ok ((spec.name, toString n) :: given) := by
  have isNumber : isSize (toString n) = true := by
    rw [isSize, Decimal.unsigned?_toString fits]
    rfl
  rw [Spec.give, sized]
  simp only [new, isNumber]
  rfl

/-- The word of an option, and its number behind it. -/
theorem readWords_toString {word : String} (known : readWord specs word = .pending spec)
    (sized : spec.accepts = some isSize) (new : spec.isGiven given = false) (fits : n ≤ maxSize)
    (rest : List String) :
    readWords specs given (word :: toString n :: rest) =
      readWords specs ((spec.name, toString n) :: given) rest := by
  rw [readWords, known]
  simp only [isOption_toString, give_toString sized new fits]
  rfl

/-- The words that ask for an outbox of a capacity and for so many workers. -/
def naming (capacity workers : Nat) : List String :=
  ["--channel-capacity", toString capacity, "--max-in-flight", toString workers]

theorem read_naming {capacity workers : Nat} (capacityFits : capacity ≤ maxSize)
    (workersFit : workers ≤ maxSize) :
    CommandLine.read specs (naming capacity workers) =
      .ok [(maxInFlight.name, toString workers), (channelCapacity.name, toString capacity)] := by
  have first : readWord specs "--channel-capacity" = .pending channelCapacity := rfl
  have second : readWord specs "--max-in-flight" = .pending maxInFlight := rfl
  rw [CommandLine.read, naming, readWords_toString first rfl rfl capacityFits,
    readWords_toString second rfl rfl workersFit]
  rfl

/-- A command line can name all numbers of 64 bits. -/
theorem start_naming {capacity workers : Nat} (capacityFits : capacity ≤ maxSize)
    (workersFit : workers ≤ maxSize) :
    start (naming capacity workers) =
      .ok { outboxCapacity := capacity, workers := workers } := by
  let given : Given :=
    [(maxInFlight.name, toString workers), (channelCapacity.name, toString capacity)]
  have portNumber : number port given = 8888 := number_of_value rfl (by decide)
  have capacityNumber : number channelCapacity given = capacity := number_of_value rfl capacityFits
  have workersNumber : number maxInFlight given = workers := number_of_value rfl workersFit
  have patienceNumber : number requestTimeout given = 5000 := number_of_value rfl (by decide)
  have asked : settings given = { outboxCapacity := capacity, workers := workers } := by
    rw [settings, portNumber, capacityNumber, workersNumber, patienceNumber]
    rfl
  rw [start, read_naming capacityFits workersFit]
  exact congrArg Except.ok asked

end ServerProgram

end CommandLine

namespace Server

open CommandLine

variable {s : Settings}

/-! ## Checked settings -/

/-- Settings that pass the check are bound wherever the standard ones are. -/
theorem bind_eq_of_check (checked : s.check = .ok ()) (host : Host) :
    bind host s = bind host (.atAddress s.bindAddress) := by
  have standard : (Settings.atAddress s.bindAddress).check = .ok () := rfl
  unfold bind
  rw [checked, standard]
  rfl

/-- Settings that pass the check are spawned if their numbers are within the limit. -/
theorem spawnWith_eq_of_check (checked : s.check = .ok ()) (spare : Nat) :
    spawnWith spare s =
      if s.outboxCapacity ≤ 2305843009213693951 ∧ s.workers ≤ 2305843009213693951 then
        some (opened spare s)
      else none := by
  obtain ⟨capacity, -, -⟩ := Settings.check_eq_ok_iff.1 checked
  have spawnable : s.isSpawnable = true ↔
      s.outboxCapacity ≤ 2305843009213693951 ∧ s.workers ≤ 2305843009213693951 := by
    simp only [Settings.isSpawnable, Bool.and_eq_true, decide_eq_true_eq, capacity, true_and]
    rfl
  simp only [spawnWith, spawnable]

/-- **Which settings are spawned.**  Settings that pass the check

* are bound wherever the standard ones are, whatever the numbers in them;
* are then spawned exactly if outbox and permits are both within 2305843009213693951, and the server
  begins to listen with every slot and every permit free; beyond that it cannot be made;
* can have any numbers of 64 bits: there is a command line that names them. -/
theorem spawns_within_slotLimit (checked : s.check = .ok ()) :
    (∀ host, bind host s = bind host (.atAddress s.bindAddress)) ∧
    (∀ spare, spawnWith spare s =
      if s.outboxCapacity ≤ 2305843009213693951 ∧ s.workers ≤ 2305843009213693951 then
        some (opened spare s)
      else none) ∧
    (s.outboxCapacity ≤ 18446744073709551615 → s.workers ≤ 18446744073709551615 →
      ServerProgram.start (ServerProgram.naming s.outboxCapacity s.workers) =
        .ok { outboxCapacity := s.outboxCapacity, workers := s.workers }) :=
  ⟨bind_eq_of_check checked, spawnWith_eq_of_check checked, ServerProgram.start_naming⟩

/-- The largest numbers that can be spawned. -/
def largest : Settings where
  outboxCapacity := 2305843009213693951
  workers := 2305843009213693951

theorem spawns_within_slotLimit_of_largest :
    largest.check = .ok () ∧ spawn largest = some (opened 0 largest) ∧
    ServerProgram.start (ServerProgram.naming 2305843009213693951 2305843009213693951) =
      .ok largest := by
  have checked : largest.check = .ok () := rfl
  obtain ⟨-, spawned, named⟩ := spawns_within_slotLimit checked
  have within : largest.outboxCapacity ≤ 2305843009213693951 ∧
      largest.workers ≤ 2305843009213693951 := by decide
  refine ⟨checked, ?_, named (by decide) (by decide)⟩
  rw [spawn, spawned, if_pos within]

/-- Settings that pass the check and cannot be spawned, once for the outbox and once for the
permits.  The first are those of a command line. -/
theorem cannot_spawn_above_slotLimit :
    let wide : Settings := { bindAddress := "127.0.0.1:0", outboxCapacity := 2305843009213693952 }
    let busy : Settings := { workers := 2305843009213693952 }
    ServerProgram.start ["-p0", "--channel-capacity=2305843009213693952"] = .ok wide ∧
    wide.check = .ok () ∧ spawn wide = none ∧
    busy.check = .ok () ∧ spawn busy = none := by
  intro wide busy
  exact ⟨rfl, rfl, rfl, rfl, rfl⟩

end Server

end DatagramSession
