import VenueGateway.Binary64.Basic

/-!
Floating-point numbers with a fixed number of decimal places. The exact value is rounded to the
nearest such decimal, and a tie goes to the even last digit.
-/

namespace VenueGateway.Binary64

/-- The quotient rounded to the nearest natural number, a tie to the even one. -/
def roundDiv (num den : Nat) : Nat :=
  let q := num / den
  let r := num % den
  if 2 * r < den then q
  else if den < 2 * r then q + 1
  else if q % 2 = 0 then q else q + 1

/-- A number of units of the last place, written with the point in front of the last `places`
digits. -/
def placed (places n : Nat) : List Char :=
  let fraction := Text.digits (n % tenTo places)
  Text.digits (n / tenTo places) ++
    '.' :: (List.replicate (places - fraction.length) '0' ++ fraction)

/-- A number with the given number of decimal places. The sign is kept even where only zeros
remain. -/
def fixed (places : Nat) (f : Float) : List Char :=
  match kind f with
  | .notANumber => ['N', 'a', 'N']
  | .infinite negative => (if negative then ['-'] else []) ++ ['i', 'n', 'f']
  | .finite p =>
    (if p.negative then ['-'] else []) ++
      placed places
        (roundDiv (p.mantissa * twoTo p.exponent.toNat * tenTo places) (twoTo (-p.exponent).toNat))

end VenueGateway.Binary64
