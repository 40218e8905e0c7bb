/-!
Whole numbers as text: their decimal digits, and the texts accepted for a natural number, a signed
number and a signed 64-bit number. A sign stands at most once and in front, and one digit at least
follows.
-/

namespace VenueGateway.Text

def digitChar (d : Nat) : Char := Char.ofNat (48 + d)

def digitValue (c : Char) : Nat := c.toNat - 48

/-- The decimal digits of a number, without leading zeros. -/
def digits (n : Nat) : List Char :=
  if n < 10 then [digitChar n] else digits (n / 10) ++ [digitChar (n % 10)]
termination_by n

/-- The number that digits denote, continuing from digits already read. -/
def valueFrom (n : Nat) (cs : List Char) : Nat := cs.foldl (fun m c => 10 * m + digitValue c) n

def value (cs : List Char) : Nat := valueFrom 0 cs

@[simp] theorem valueFrom_nil (n : Nat) : valueFrom n [] = n := by simp [valueFrom]
@[simp] theorem valueFrom_cons (n : Nat) (c : Char) (cs : List Char) :
    valueFrom n (c :: cs) = valueFrom (10 * n + digitValue c) cs := by simp [valueFrom]
@[simp] theorem valueFrom_append (n : Nat) (cs ds : List Char) :
    valueFrom n (cs ++ ds) = valueFrom (valueFrom n cs) ds := by simp [valueFrom]

/-- One digit or more, and nothing else. -/
def unsigned? (cs : List Char) : Option Nat :=
  if cs.isEmpty || !cs.all Char.isDigit then none else some (value cs)

/-- Digits behind an optional plus sign. -/
def natural? : List Char → Option Nat
  | '+' :: cs => unsigned? cs
  | cs => unsigned? cs

/-- Digits behind an optional sign. -/
def integer? : List Char → Option Int
  | '-' :: cs => (unsigned? cs).map fun n => -(n : Int)
  | cs => (natural? cs).map Int.ofNat

/-- The digits of an integer behind a minus sign where it is negative. -/
def integerChars : Int → List Char
  | .ofNat n => digits n
  | .negSucc n => '-' :: digits (n + 1)

def ofNat (n : Nat) : String := String.ofList (digits n)

def ofInt (n : Int) : String := String.ofList (integerChars n)

def ofInt64 (n : Int64) : String := ofInt n.toInt

/-- The 64-bit number of a mathematical one, where it is in range. -/
def int64OfInt? (n : Int) : Option Int64 :=
  if -0x8000000000000000 ≤ n ∧ n < 0x8000000000000000 then some (Int64.ofInt n) else none

def int64? (s : String) : Option Int64 := (integer? s.toList).bind int64OfInt?

/-- The natural number below a bound that a text spells. -/
def naturalBelow? (bound : Nat) (s : String) : Option Nat :=
  (natural? s.toList).filter (· < bound)

end VenueGateway.Text
