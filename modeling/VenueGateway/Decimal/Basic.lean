import VenueGateway.Power

/-!
Decimal numbers of fixed precision: a sign, a coefficient below ninety-six bits, and the number of
decimal places, at most twenty-eight. Places are kept, so that 1.50 and 1.5 differ. Nought is read
without a sign; only what was rounded to nought keeps the one it had.
-/

namespace VenueGateway

/-- The number `coefficient / tenTo scale`, or its opposite. -/
structure Decimal where
  negative : Bool
  coefficient : Nat
  scale : Nat
  coefficient_lt : coefficient < 0x1000000000000000000000000
  scale_le : scale ≤ 28
  deriving DecidableEq, Repr

namespace Decimal

def maxScale : Nat := 28

/-- Coefficients stay below this number. -/
def limit : Nat := 0x1000000000000000000000000

/-- The decimal with the given parts, where they are in range. -/
def mk? (negative : Bool) (coefficient scale : Nat) : Option Decimal :=
  if h : coefficient < 0x1000000000000000000000000 ∧ scale ≤ 28 then
    some ⟨negative, coefficient, scale, h.1, h.2⟩
  else none

def zero : Decimal := ⟨false, 0, 0, by decide, by decide⟩

instance : Inhabited Decimal := ⟨zero⟩

def ofInt? (n : Int) : Option Decimal := mk? (n < 0) n.natAbs 0

/-- Whether the number is nought, with however many places and whatever its sign. -/
def isZero (d : Decimal) : Bool := d.coefficient == 0

end Decimal

end VenueGateway
