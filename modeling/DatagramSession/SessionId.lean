/-!
# Session ids

A session id is an opaque text that the server issues on login.  The empty id stands for "no
session".  Issued ids are version 4 UUIDs: 36 characters, lower case.
-/

namespace DatagramSession

structure SessionId where
  text : String
deriving DecidableEq, Repr

namespace SessionId

/-- The id of a sender that holds no session. -/
def absent : SessionId := ⟨""⟩

def isAbsent (id : SessionId) : Bool := id.text.isEmpty

/-- An id in messages. -/
def shown (id : SessionId) : String :=
  if id.isAbsent then "<none>" else id.text

/-! ## Random ids -/

def hexDigits : List Char :=
  ['0', '1', '2', '3', '4', '5', '6', '7', '8', '9', 'a', 'b', 'c', 'd', 'e', 'f']

def hexDigit (n : Nat) : Char := hexDigits.getD (n % 16) '0'

/-- The places of the hyphens in a UUID. -/
def hyphens : List Nat := [8, 13, 18, 23]

/-- The character at one of the 36 places of a version 4 UUID: four hyphens, the version, the
variant, and digits of the seed. -/
def randomChar (seed place : Nat) : Char :=
  if place ∈ hyphens then '-'
  else if place = 14 then '4'
  else if place = 19 then hexDigit (8 + seed >>> (4 * place) % 4)
  else hexDigit (seed >>> (4 * place))

/-- The id drawn with a random seed of 144 bits. -/
def random (seed : Nat) : SessionId :=
  ⟨String.ofList ((List.range 36).map (randomChar seed))⟩

/-- The texts that `random` draws from. -/
def isRandom (id : SessionId) : Bool :=
  let chars := id.text.toList
  chars.length == 36 && chars.zipIdx.all fun (c, place) =>
    if place ∈ hyphens then c == '-'
    else if place = 14 then c == '4'
    else if place = 19 then c ∈ ['8', '9', 'a', 'b']
    else c ∈ hexDigits

end SessionId

end DatagramSession
