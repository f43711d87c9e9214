/-!
# Numbers in texts

Unsigned numbers as addresses and options spell them: digits of the base, and nothing else.
-/

namespace DatagramSession.Decimal

/-- The value of a digit in a base up to 16. -/
def digit? (base : Nat) (c : Char) : Option Nat :=
  let value :=
    if '0' ≤ c ∧ c ≤ '9' then c.toNat - '0'.toNat
    else if 'a' ≤ c ∧ c ≤ 'f' then 10 + (c.toNat - 'a'.toNat)
    else if 'A' ≤ c ∧ c ≤ 'F' then 10 + (c.toNat - 'A'.toNat)
    else base
  if value < base then some value else none

/-- The number that digits spell after those that gave `value`. -/
def extend? (base : Nat) (value : Nat) : List Char → Option Nat
  | [] => some value
  | c :: rest =>
    match digit? base c with
    | some d => extend? base (value * base + d) rest
    | none => none

/-- The number that one or more digits spell. -/
def digits? (base : Nat) : List Char → Option Nat
  | [] => none
  | cs => extend? base 0 cs

/-- A number up to `max`, with or without a plus sign. -/
def unsigned? (max : Nat) (s : String) : Option Nat :=
  let cs := match s.toList with
    | '+' :: rest => rest
    | cs => cs
  (digits? 10 cs).filter (· ≤ max)

/-- A number up to `max`, with or without a sign; a minus sign leaves only zero. -/
def signed? (max : Nat) (s : String) : Option Nat :=
  match s.toList with
  | '-' :: rest => (digits? 10 rest).filter (· == 0)
  | _ => unsigned? max s

/-! ## Numbers as they are written -/

theorem digit?_of_isDigit {c : Char} (isDigit : c.isDigit = true) :
    digit? 10 c = some (c.toNat - '0'.toNat) := by
  have range : '0' ≤ c ∧ c ≤ '9' := by
    rw [Char.isDigit, Bool.and_eq_true, decide_eq_true_eq, decide_eq_true_eq] at isDigit
    exact isDigit
  have bound : c.toNat ≤ '9'.toNat := range.2
  have value : c.toNat - '0'.toNat < 10 := by
    have zero : '0'.toNat = 48 := rfl
    have nine : '9'.toNat = 57 := rfl
    omega
  simp only [digit?, if_pos range, if_pos value]

theorem extend?_of_isDigit {cs : List Char} (areDigits : ∀ c ∈ cs, c.isDigit = true)
    (value : Nat) : extend? 10 value cs = some (Nat.ofDigitChars 10 cs value) := by
  induction cs generalizing value with
  | nil => rfl
  | cons c rest ih =>
    obtain ⟨first, others⟩ := List.forall_mem_cons.1 areDigits
    simp only [extend?, digit?_of_isDigit first]
    rw [ih others, Nat.ofDigitChars_cons, Nat.mul_comm]

/-- The digits of a number spell it. -/
theorem digits?_toDigits (n : Nat) : digits? 10 (Nat.toDigits 10 n) = some n := by
  have areDigits : ∀ c ∈ Nat.toDigits 10 n, c.isDigit = true :=
    fun c member => Nat.isDigit_of_mem_toDigits (by decide) (by decide) member
  have spelt := extend?_of_isDigit areDigits 0
  rw [Nat.ofDigitChars_ten_toDigits] at spelt
  rw [digits?]
  · exact spelt
  · exact Nat.toDigits_ne_nil

theorem toList_toString (n : Nat) : (toString n).toList = Nat.toDigits 10 n := by
  rw [Nat.toString_eq_repr, Nat.toList_repr]

/-- No number is written with a sign. -/
theorem isDigit_of_toList_toString {n : Nat} {c : Char} {rest : List Char}
    (written : (toString n).toList = c :: rest) : c.isDigit = true := by
  rw [toList_toString] at written
  exact Nat.isDigit_of_mem_toDigits (by decide) (by decide) (written ▸ List.mem_cons_self)

theorem unsigned?_toString {n max : Nat} (fits : n ≤ max) :
    unsigned? max (toString n) = some n := by
  unfold unsigned?
  split
  · next signed => cases isDigit_of_toList_toString signed
  · simp only [toList_toString, digits?_toDigits]
    exact Option.filter_eq_some_iff.2 ⟨rfl, decide_eq_true fits⟩

theorem signed?_toString {n max : Nat} (fits : n ≤ max) : signed? max (toString n) = some n := by
  unfold signed?
  split
  · next signed => cases isDigit_of_toList_toString signed
  · exact unsigned?_toString fits

end DatagramSession.Decimal
