import VenueGateway.Json.Value
import VenueGateway.Binary64.Shortest

/-!
Floating-point numbers in JSON: what a numeral is taken as, and the numeral that is written for a
number.
-/

namespace VenueGateway.Json

namespace Exponent

def toInt (e : Exponent) : Int :=
  if e.negative then -(Text.value e.digits : Int) else Text.value e.digits

/-- The exponent of a power of ten. -/
def ofInt : Int → Exponent
  | .ofNat n => ⟨false, Text.digits n⟩
  | .negSucc n => ⟨true, Text.digits (n + 1)⟩

end Exponent

namespace Numeral

/-- The floating-point number that a numeral is taken as, unless it is too big. -/
def float? (n : Numeral) : Option Float :=
  Binary64.ofDigits? n.negative n.whole n.fraction ((n.exponent.map Exponent.toInt).getD 0)

/-- Shortest digits in positional notation from a hundred-thousandth to below ten to the sixteenth,
with one place at least, and in scientific notation elsewhere. -/
def ofScientific (negative : Bool) (s : Binary64.Scientific) : Numeral :=
  if -5 ≤ s.exponent ∧ s.exponent ≤ 15 then
    ⟨negative, s.wholeDigits, if s.fractionDigits = [] then ['0'] else s.fractionDigits, none⟩
  else ⟨negative, s.digits.take 1, s.digits.drop 1, some (.ofInt s.exponent)⟩

end Numeral

namespace Value

/-- A floating-point number, of two equally near numerals the one with the even last digit. One that
is not finite has no numeral and is written as null. -/
def real (f : Float) : Value :=
  match Binary64.kind f with
  | .finite p => .number (.ofScientific p.negative (Binary64.shortest .toEven p))
  | _ => .null

end Value

end VenueGateway.Json
