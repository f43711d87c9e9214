import DatagramSession.Text.Decimal

/-!
# Host names

A host name is labels between points.  A label has one to 63 letters, digits, hyphens and
underscores; a point may follow the last one, and a point alone is the root of all names.  In a
name, a backslash takes the next character as it is, or stands with three digits for the character
of that number.
-/

namespace DatagramSession.HostName

/-- The characters of a name without its backslashes.  A backslash with nothing to take is refused,
and so is one that takes a point, which no label holds. -/
def plain? : List Char → Option (List Char)
  | [] => some []
  | ['\\'] => none
  | '\\' :: c :: rest =>
    if c.isDigit then
      match rest with
      | d :: e :: rest => do
        let n ← Decimal.digits? 10 [c, d, e]
        if n < 256 ∧ n ≠ '.'.toNat then (plain? rest).map (Char.ofNat n :: ·) else none
      | _ => none
    else if c = '.' then none
    else (plain? rest).map (c :: ·)
  | c :: rest => (plain? rest).map (c :: ·)

def isLabelChar (c : Char) : Bool := c.isAlphanum || c = '-' || c = '_'

def isLabel (label : String) : Bool :=
  !label.isEmpty && label.length ≤ 63 && label.toList.all isLabelChar

/-- The octets that labels take in a question to a name server. -/
def questionSize (labels : List String) : Nat :=
  labels.foldl (fun size label => size + 1 + label.length) 1

/-- The text may be asked for as the name of a host. -/
def isValid (name : String) : Bool :=
  match plain? name.toList with
  | none => false
  | some ['.'] => true
  | some cs =>
    let parts := (String.ofList cs).splitOn "."
    let labels := if parts.getLast? = some "" then parts.dropLast else parts
    !labels.isEmpty && labels.all isLabel && cs.head? ≠ some '-' && questionSize labels ≤ 255

/-- Whether two names differ in the case of letters at most. -/
def same (a b : String) : Bool := a.toLower = b.toLower

end DatagramSession.HostName
