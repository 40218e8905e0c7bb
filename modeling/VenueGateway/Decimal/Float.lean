import VenueGateway.Binary64.Shortest
import VenueGateway.Decimal.Text

/-!
Decimals and floating-point numbers. A decimal is taken from the shortest text of a floating-point
number; in the other direction the whole part and the fraction are converted apart, and their sum is
rounded to the places of the decimal.
-/

namespace VenueGateway.Decimal

/-- The decimal of the shortest positional text of a number. -/
def ofFloat? (f : Float) : Option Decimal := plain? (Binary64.positional f)

/-- The floating-point number of a coefficient without sign. -/
def magnitudeToFloat (n scale : Nat) : Float :=
  let unit := Binary64.powerOfTen scale
  let whole := Binary64.ofNat (n / tenTo scale)
  let fraction := Binary64.ofNat (n % tenTo scale) / unit
  if fraction == 0 then whole else ((whole + fraction) * unit).round / unit

def toFloat (d : Decimal) : Float :=
  let f := magnitudeToFloat d.coefficient d.scale
  if d.negative then -f else f

end VenueGateway.Decimal
