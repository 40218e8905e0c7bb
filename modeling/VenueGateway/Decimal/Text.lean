import VenueGateway.Decimal.Basic
import VenueGateway.Text.Numerals

/-!
Decimals as text. Plain notation has a sign, digits, a point and underscores behind the first digit;
digits that no longer fit are rounded off, a half away from nought, if they stand behind the point,
and refused before it. Scientific notation shifts the places of a plain number by at most
twenty-eight, and rounds off what then has no place.
-/

namespace VenueGateway.Decimal

/-- Whether a character may stand among digits that are rounded off. -/
def isFiller (c : Char) : Bool := c.isDigit || c == '_'

/-- Rounds a coefficient by the first digit that no longer fits. Where rounding up leaves the range
of coefficients, one place more is given up. -/
def roundBy (coefficient scale digit : Nat) : Option (Nat × Nat) :=
  if digit < 5 then some (coefficient, scale)
  else if coefficient + 1 < limit then some (coefficient + 1, scale)
  else if scale = 0 then none
  else some ((coefficient + 5) / 10, scale - 1)

/-- Below this number a coefficient surely takes one digit more within 64 bits, whatever the digit
is. -/
def wordLimit : Nat := 0xFFFFFFFFFFFFFFFF / 10 - 0xFF

/-- The digit by which a coefficient is rounded that has all its places, given what follows it.
Underscores in front of the digit are passed over, but behind a coefficient that grew within 64 bits
the first one counts as nought. -/
def roundingDigit (coefficient : Nat) (cs : List Char) : Nat :=
  let cs := if coefficient / 10 < wordLimit then cs else cs.dropWhile (· == '_')
  match cs with
  | [] => 0
  | c :: _ => if c.isDigit then Text.digitValue c else 0

/-- The coefficient and the number of places that digits spell, continuing from those already read.
`point` says that the point has been read, and `begun` that a digit has. -/
def unsigned? (coefficient scale : Nat) (point begun : Bool) : List Char → Option (Nat × Nat)
  | [] => if begun then some (coefficient, scale) else none
  | c :: cs =>
    if scale = maxScale then
      if (c :: cs).all isFiller then roundBy coefficient scale (roundingDigit coefficient (c :: cs))
        else none
    else if c.isDigit then
      let next := 10 * coefficient + Text.digitValue c
      if next < limit then unsigned? next (if point then scale + 1 else 0) point true cs
      else if point ∧ cs.all isFiller then roundBy coefficient scale (Text.digitValue c)
      else none
    else if c = '.' ∧ !point then unsigned? coefficient scale true begun cs
    else if c = '_' ∧ begun then unsigned? coefficient scale point begun cs
    else none

/-- The decimal of a sign, a coefficient and its places. Nought has no sign. -/
def signed? (negative : Bool) (r : Nat × Nat) : Option Decimal := mk? (negative && r.1 != 0) r.1 r.2

/-- The decimal that a text in plain notation spells. -/
def plain? : List Char → Option Decimal
  | '-' :: cs => (unsigned? 0 0 false false cs).bind (signed? true)
  | '+' :: cs => (unsigned? 0 0 false false cs).bind (signed? false)
  | cs => (unsigned? 0 0 false false cs).bind (signed? false)

/-- A coefficient without its last places, rounded to the nearest, a half upward. -/
def dropPlaces (coefficient places : Nat) : Nat := (coefficient + tenTo places / 2) / tenTo places

/-- Divides by a power of ten, by adding places. Those beyond the last one are rounded off, which
may leave a nought with a sign. -/
def shiftDown? (d : Decimal) (n : Nat) : Option Decimal :=
  if n ≤ maxScale then
    let excess := d.scale + n - maxScale
    mk? d.negative (dropPlaces d.coefficient excess) (d.scale + n - excess)
  else none

/-- Multiplies by a power of ten, by dropping places as far as there are any. -/
def shiftUp? (d : Decimal) (n : Nat) : Option Decimal :=
  if n ≤ d.scale then mk? d.negative d.coefficient (d.scale - n)
  else if n ≤ maxScale then mk? d.negative (d.coefficient * tenTo (n - d.scale)) 0
  else none

def isMark (c : Char) : Bool := c == 'e' || c == 'E'

/-- The decimal that a text in scientific notation spells. -/
def scientific? (cs : List Char) : Option Decimal :=
  match cs.dropWhile (fun c => !isMark c) with
  | [] => none
  | _ :: exponent => do
    let d ← plain? (cs.takeWhile fun c => !isMark c)
    match exponent with
    | '-' :: digits => do
      let n ← Text.natural? digits
      d.shiftDown? n
    | digits => do
      let n ← Text.natural? digits
      d.shiftUp? n

/-- The decimal that a text spells in plain or else in scientific notation. -/
def ofText? (s : String) : Option Decimal := (plain? s.toList).orElse fun _ => scientific? s.toList

/-- A natural number of units of the last place, with all places written. -/
def magnitude (n scale : Nat) : List Char :=
  if scale = 0 then Text.digits n
  else
    let places := Text.digits (n % tenTo scale)
    Text.digits (n / tenTo scale) ++ '.' :: (List.replicate (scale - places.length) '0' ++ places)

/-- The text of a decimal, with all its places. -/
def chars (d : Decimal) : List Char :=
  (if d.negative then ['-'] else []) ++ magnitude d.coefficient d.scale

def text (d : Decimal) : String := String.ofList d.chars

end VenueGateway.Decimal
