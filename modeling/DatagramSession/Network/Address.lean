import DatagramSession.Text.Decimal

/-!
# Socket addresses

An address is a host number, a port and, for a sixteen-octet host, a scope.  Its text is the usual
one: four decimal numbers, or groups of hexadecimal digits in brackets with the longest run of two
or more zero groups left out.
-/

namespace DatagramSession

inductive Address where
  | v4 (host port : Nat)
  | v6 (host port scope : Nat)
deriving DecidableEq, Repr

namespace Address

def port : Address → Nat
  | v4 _ port => port
  | v6 _ port _ => port

/-- The same host at another port. -/
def withPort (port : Nat) : Address → Address
  | v4 host _ => v4 host port
  | v6 host _ scope => v6 host port scope

/-- A port of the local host. -/
def loopback (port : Nat) : Address := v4 0x7F000001 port

/-- A sixteen-octet host that means something only together with an interface: a neighbour, or a
group of neighbours. -/
def isNeighbour (host : Nat) : Bool :=
  host >>> 118 = 0x3FA
    || (host >>> 120 = 0xFF && (host >>> 112 % 16 = 1 || host >>> 112 % 16 = 2))

/-- The number of the loopback interface. -/
def loopbackInterface : Nat := 1

/-! ## Texts -/

def quad (host : Nat) : String :=
  ".".intercalate ([3, 2, 1, 0].map fun place => toString (host >>> (8 * place) % 256))

/-- The eight groups of a sixteen-octet host. -/
def groups (host : Nat) : List Nat :=
  [7, 6, 5, 4, 3, 2, 1, 0].map fun place => host >>> (16 * place) % 65536

/-- The zeros at the front of groups. -/
def zeros (gs : List Nat) : Nat := (gs.takeWhile (· == 0)).length

/-- The start and the length of the first longest run of zeros. -/
def longestZeros (gs : List Nat) : Nat × Nat :=
  (List.range gs.length).foldl
    (fun best start =>
      let run := zeros (gs.drop start)
      if best.2 < run then (start, run) else best)
    (0, 0)

def groupText (gs : List Nat) : String :=
  ":".intercalate (gs.map fun g => String.ofList (Nat.toDigits 16 g))

def hostText (host : Nat) : String :=
  if host >>> 32 = 0xFFFF then "::ffff:" ++ quad host
  else
    let gs := groups host
    let (start, run) := longestZeros gs
    if 2 ≤ run then groupText (gs.take start) ++ "::" ++ groupText (gs.drop (start + run))
    else groupText gs

def text : Address → String
  | v4 host port => s!"{quad host}:{port}"
  | v6 host port scope =>
    let zone := if scope = 0 then "" else s!"%{scope}"
    "[" ++ hostText host ++ zone ++ "]:" ++ toString port

/-! ## Reading -/

/-- One of the four numbers of a host: up to three digits, no zero in front of another. -/
def quadPart? (s : String) : Option Nat :=
  let cs := s.toList
  if cs.length ≤ 3 ∧ (cs.length = 1 ∨ cs.head? ≠ some '0') then
    (Decimal.digits? 10 cs).filter (· < 256)
  else none

def quad? (s : String) : Option Nat :=
  match s.splitOn "." with
  | [a, b, c, d] => do
    let a ← quadPart? a
    let b ← quadPart? b
    let c ← quadPart? c
    let d ← quadPart? d
    pure (((a * 256 + b) * 256 + c) * 256 + d)
  | _ => none

def group? (s : String) : Option Nat :=
  if s.length ≤ 4 then Decimal.digits? 16 s.toList else none

/-- Groups between colons; the last two may be written as four decimal numbers. -/
def groupList? : List String → Option (List Nat)
  | [] => some []
  | [last] =>
    match quad? last with
    | some n => some [n / 65536, n % 65536]
    | none => (group? last).map ([·])
  | s :: rest => do
    let g ← group? s
    let gs ← groupList? rest
    pure (g :: gs)

/-- Groups on one side of a gap. -/
def side? (s : String) : Option (List Nat) :=
  if s.isEmpty then some [] else groupList? (s.splitOn ":")

def ofGroups (gs : List Nat) : Nat := gs.foldl (· * 65536 + ·) 0

def host? (s : String) : Option Nat :=
  match s.splitOn "::" with
  | [whole] => (side? whole).bind fun gs => if gs.length = 8 then some (ofGroups gs) else none
  | [before, after] =>
    if before.contains '.' then none
    else do
      let head ← side? before
      let tail ← side? after
      let gap := 8 - (head.length + tail.length)
      if gap = 0 then none else pure (ofGroups (head ++ List.replicate gap 0 ++ tail))
  | _ => none

def port? (s : String) : Option Nat := (Decimal.digits? 10 s.toList).filter (· < 65536)

/-- The text before the last colon, and the text after it. -/
def splitPort? (s : String) : Option (String × String) :=
  match (s.splitOn ":").reverse with
  | port :: before@(_ :: _) => some (":".intercalate before.reverse, port)
  | _ => none

/-- The text between brackets. -/
def bracketed? (s : String) : Option String :=
  match s.toList with
  | '[' :: rest =>
    match rest.reverse with
    | ']' :: inner => some (String.ofList inner.reverse)
    | _ => none
  | _ => none

/-- A sixteen-octet host with an optional scope. -/
def scoped? (s : String) : Option (Nat × Nat) :=
  match s.splitOn "%" with
  | [host] => (host? host).map (·, 0)
  | [host, scope] => do
    let host ← host? host
    let scope ← (Decimal.digits? 10 scope.toList).filter (· < 0x100000000)
    pure (host, scope)
  | _ => none

/-- The address that a text is, with host and port as numbers. -/
def ofText? (s : String) : Option Address := do
  let (host, port) ← splitPort? s
  let port ← port? port
  match bracketed? host with
  | some inner => (scoped? inner).map fun (host, scope) => v6 host port scope
  | none => (quad? host).map (v4 · port)

end Address

end DatagramSession
