import VenueGateway.Binary64.Fixed

/-!
Natural numbers as floating-point numbers hold them: with fifty-three leading bits, the rest rounded
off.
-/

namespace VenueGateway.Binary64

def mantissaBits : Nat := 53

/-- The nearest natural number that a floating-point number can be, of two the one with the even
mantissa. -/
def nearestNat (n : Nat) : Nat :=
  let unit := twoTo (n.log2 + 1 - mantissaBits)
  roundDiv n unit * unit

end VenueGateway.Binary64
