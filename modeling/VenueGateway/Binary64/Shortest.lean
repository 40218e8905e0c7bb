import VenueGateway.Binary64.Basic

/-!
The shortest decimal that reads back as a given floating-point number, and the nearest to it of
those. A decimal reads back when it lies between the midpoints to the neighbouring numbers, which
count as inside when the mantissa is even. On the grid of multiples of a power of ten only the two
points around the number need a look, so the widest grid with a point inside gives the answer. Where
both points are equally near, a rule chooses between them.
-/

namespace VenueGateway.Binary64

/-- A decimal: `digits` with the point behind the first one, times ten to the power `exponent`. -/
structure Scientific where
  digits : List Char
  exponent : Int
  deriving DecidableEq, Repr

/-- The choice between two points of a grid that are equally near. -/
inductive TieRule where
  /-- The point with the even last digit. -/
  | toEven
  /-- The point away from nought. -/
  | away
  deriving DecidableEq, Repr

namespace TieRule

/-- The point that is chosen of a point and the one above it. -/
def choose (tie : TieRule) (below : Nat) : Nat :=
  match tie with
  | toEven => if below % 2 = 0 then below else below + 1
  | away => below + 1

end TieRule

/-- A ratio of natural numbers in which all distances are measured. -/
structure Ratio where
  num : Nat
  den : Nat

/-- The ratio of `n` times two to `e` and ten to `k`. -/
def ratio (n : Nat) (e k : Int) : Ratio :=
  ⟨n * twoTo e.toNat * tenTo (-k).toNat, twoTo (-e).toNat * tenTo k.toNat⟩

/-- The exponent of the leading digit of a positive ratio. -/
def leadingExponent (r : Ratio) : Int :=
  if r.den ≤ r.num then (Text.digits (r.num / r.den)).length - 1
  else -((Text.digits ((r.den - 1) / r.num)).length : Int)

/-- The point of the grid of multiples of ten to the power `k` that reads back, the nearer one of
two. -/
def gridPoint? (tie : TieRule) (p : Parts) (k : Int) : Option Nat :=
  -- everything in quarters of the unit of the mantissa, since midpoints are halves or quarters of
  -- it
  let value := ratio (4 * p.mantissa) (p.exponent - 2) k
  let low := ratio (4 * p.mantissa - if p.narrowBelow then 1 else 2) (p.exponent - 2) k
  let high := ratio (4 * p.mantissa + 2) (p.exponent - 2) k
  let closed := p.mantissa % 2 == 0
  let below := value.num / value.den
  let above := below + 1
  let belowInside := low.num < below * low.den || (closed && low.num == below * low.den)
  let aboveInside := above * high.den < high.num || (closed && above * high.den == high.num)
  let toBelow := value.num - below * value.den
  let toAbove := above * value.den - value.num
  match belowInside, aboveInside with
  | true, true =>
    if toBelow < toAbove then some below
    else if toAbove < toBelow then some above
    else some (tie.choose below)
  | true, false => some below
  | false, true => some above
  | false, false => none

/-- Looks for a point that reads back on finer and finer grids. Seventeen digits always suffice. -/
def search (tie : TieRule) (p : Parts) (k : Int) : Nat → Nat × Int
  | 0 => ((gridPoint? tie p k).getD 0, k)
  | fuel + 1 =>
    match gridPoint? tie p k with
    | some n => (n, k)
    | none => search tie p (k - 1) fuel

def stripZeros (cs : List Char) : List Char := (cs.reverse.dropWhile (· == '0')).reverse

/-- The shortest decimal of a finite number, its sign apart. -/
def shortest (tie : TieRule) (p : Parts) : Scientific :=
  if p.mantissa = 0 then ⟨['0'], 0⟩ else
  let start := leadingExponent (ratio p.mantissa p.exponent 0)
  let found := search tie p start 17
  let digits := Text.digits found.1
  ⟨stripZeros digits, found.2 + (digits.length - 1)⟩

namespace Scientific

def wholeDigits (s : Scientific) : List Char :=
  if s.exponent < 0 then ['0']
  else (s.digits ++ List.replicate (s.exponent.toNat + 1 - s.digits.length) '0').take
    (s.exponent.toNat + 1)

def fractionDigits (s : Scientific) : List Char :=
  if s.exponent < 0 then List.replicate ((-s.exponent).toNat - 1) '0' ++ s.digits
  else s.digits.drop (s.exponent.toNat + 1)

end Scientific

/-- Positional notation with as many digits as needed and no more, and the larger of two equally
near. -/
def positional (f : Float) : List Char :=
  match kind f with
  | .notANumber => ['N', 'a', 'N']
  | .infinite negative => (if negative then ['-'] else []) ++ ['i', 'n', 'f']
  | .finite p =>
    let s := shortest .away p
    let fraction := if s.digits = ['0'] then [] else s.fractionDigits
    (if p.negative then ['-'] else []) ++ s.wholeDigits ++
      (if fraction = [] then [] else '.' :: fraction)

end VenueGateway.Binary64
