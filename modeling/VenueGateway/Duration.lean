import VenueGateway.Text.Numerals

/-!
Spans of time in whole milliseconds, and how they are shown: in seconds from one second on, with
only the places that are needed, and in milliseconds below.
-/

namespace VenueGateway

structure Duration where
  millis : Nat
  deriving DecidableEq, Repr, Inhabited

namespace Duration

def ofSeconds (n : Nat) : Duration := ⟨1000 * n⟩

def seconds (d : Duration) : Nat := d.millis / 1000

/-- The places behind the point of a number of thousandths. -/
def places (n : Nat) : List Char :=
  let ds := Text.digits n
  ((List.replicate (3 - ds.length) '0' ++ ds).reverse.dropWhile (· == '0')).reverse

def text (d : Duration) : String :=
  if d.millis = 0 then "0ns"
  else if d.millis < 1000 then Text.ofNat d.millis ++ "ms"
  else
    let rest := places (d.millis % 1000)
    Text.ofNat d.seconds ++ (if rest = [] then "" else String.ofList ('.' :: rest)) ++ "s"

end Duration

end VenueGateway
