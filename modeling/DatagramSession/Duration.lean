/-!
# Durations

A duration is a number of nanoseconds.  Its text uses the largest unit that gives a value of at
least one, and shows no trailing zero after the point.
-/

namespace DatagramSession

structure Duration where
  nanoseconds : Nat
deriving DecidableEq, Repr

namespace Duration

def ofSeconds (seconds : Nat) : Duration := ⟨seconds * 1000000000⟩

def ofMilliseconds (milliseconds : Nat) : Duration := ⟨milliseconds * 1000000⟩

def isZero (d : Duration) : Bool := d.nanoseconds == 0

/-- The digits after the point, in so many places, without trailing zeros. -/
def fraction (places rest : Nat) : String :=
  String.ofList (((Nat.toDigits 10 rest).leftpad places '0').reverse.dropWhile (· == '0')).reverse

/-- A count of parts, written in a unit of `size` parts; a part has so many places. -/
def inUnit (count size places : Nat) (unit : String) : String :=
  let digits := fraction places (count % size)
  let point := if digits.isEmpty then "" else "."
  toString (count / size) ++ point ++ digits ++ unit

def text (d : Duration) : String :=
  let n := d.nanoseconds
  if 1000000000 ≤ n then inUnit n 1000000000 9 "s"
  else if 1000000 ≤ n then inUnit n 1000000 6 "ms"
  else if 1000 ≤ n then inUnit n 1000 3 "µs"
  else inUnit n 1 0 "ns"

end Duration

end DatagramSession
