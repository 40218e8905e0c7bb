import VenueGateway.Power
import VenueGateway.Text.Numerals

/-!
Finite 64-bit floating-point numbers as exact multiples of a power of two, and the numbers a decimal
literal is taken as: at most 64 bits of its digits count, and one multiplication or division scales
them.
-/

namespace VenueGateway.Binary64

/-- A finite number: plus or minus `mantissa` times two to the power `exponent`. -/
structure Parts where
  negative : Bool
  mantissa : Nat
  exponent : Int
  /-- Whether the gap to the next number toward zero is only half as wide. -/
  narrowBelow : Bool
  deriving DecidableEq, Repr

/-- What the bits of a number stand for. -/
inductive Kind where
  | finite (p : Parts)
  | infinite (negative : Bool)
  | notANumber
  deriving DecidableEq, Repr

/-- Takes the bits of a number apart: a sign, eleven bits of exponent and fifty-two of mantissa. -/
def kind (f : Float) : Kind :=
  let bits := f.toBits.toNat
  let negative := bits / twoTo 63 == 1
  let exponent : Nat := bits / twoTo 52 % twoTo 11
  let fraction : Nat := bits % twoTo 52
  if exponent = 2047 then
    if fraction = 0 then .infinite negative else .notANumber
  else if exponent = 0 then .finite ⟨negative, fraction, -1074, false⟩
  else .finite ⟨negative, twoTo 52 + fraction, (exponent : Int) - 1075,
    fraction == 0 && exponent > 1⟩

def ofNat (n : Nat) : Float := Float.ofScientific n false 0

def powerOfTen (n : Nat) : Float := ofNat (tenTo n)

/-- The digits of a whole part that fit into 64 bits, as a number, and how many digits had to go. -/
def wholeDigits (m : Nat) : List Char → Nat × Nat
  | [] => (m, 0)
  | c :: cs =>
    if 10 * m + Text.digitValue c < 0x10000000000000000
      then wholeDigits (10 * m + Text.digitValue c) cs
    else (m, cs.length + 1)

/-- The digits of a fraction that still fit, joined to a number, and how many there are. -/
def fractionDigits (m : Nat) : List Char → Nat × Nat
  | [] => (m, 0)
  | c :: cs =>
    if 10 * m + Text.digitValue c < 0x10000000000000000 then
      let r := fractionDigits (10 * m + Text.digitValue c) cs
      (r.1, r.2 + 1)
    else (m, 0)

def maxPower : Nat := 308

/-- Divides by a power of ten, in several steps where one would not do. -/
def divide (f : Float) (n : Nat) : Float :=
  if n ≤ maxPower then f / powerOfTen n
  else if f == 0 then f
  else divide (f / powerOfTen maxPower) (n - maxPower)
termination_by n
decreasing_by simp [maxPower] at *; omega

/-- Multiplies by a power of ten, unless the result is too big. -/
def multiply? (f : Float) (n : Nat) : Option Float :=
  if n ≤ maxPower then
    let product := f * powerOfTen n
    if product.isInf then none else some product
  else if f == 0 then some f
  else none

/-- The number of a significand and a power of ten. -/
def scale? (significand : Nat) : Int → Option Float
  | .ofNat n => multiply? (ofNat significand) n
  | .negSucc n => some (divide (ofNat significand) (n + 1))

/-- The number that a literal with a whole part, a fraction and an exponent is taken as. -/
def ofDigits? (negative : Bool) (whole fraction : List Char) (exponent : Int) : Option Float :=
  let w := wholeDigits 0 whole
  let f := fractionDigits w.1 fraction
  (scale? f.1 (w.2 - f.2 + exponent)).map fun x => if negative then -x else x

end VenueGateway.Binary64
