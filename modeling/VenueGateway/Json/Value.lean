import VenueGateway.Text.Numerals

/-!
JSON values as they are written. A number keeps its digits, since how it is read depends on what it
is read as; an object keeps its members in order, repeated keys included; and a string literal whose
escapes or bytes denote no Unicode text is kept as `none`, so that it can be passed over but not
read.
-/

namespace VenueGateway.Json

/-- The power of ten behind a numeral. -/
structure Exponent where
  negative : Bool
  digits : List Char
  deriving DecidableEq, Repr

/-- A number literal. An empty fraction stands for none. -/
structure Numeral where
  negative : Bool := false
  whole : List Char
  fraction : List Char := []
  exponent : Option Exponent := none
  deriving DecidableEq, Repr

instance : Inhabited Numeral := ⟨{ whole := ['0'] }⟩

/-- What a string literal denotes, where it denotes a text. -/
abbrev Literal := Option String

inductive Value where
  | null
  | bool (b : Bool)
  | number (n : Numeral)
  | string (s : Literal)
  | array (items : List Value)
  | object (members : List (Literal × Value))
  deriving Repr, BEq, Inhabited

abbrev Member := Literal × Value

namespace Numeral

/-- The integer that a numeral without fraction and exponent denotes. A zero behind a minus sign is
no integer, since no integer is written so. -/
def integer? (n : Numeral) : Option Int :=
  if n.fraction ≠ [] ∨ n.exponent.isSome then none
  else if n.negative then
    if Text.value n.whole = 0 then none else some (-(Text.value n.whole : Int))
  else some (Text.value n.whole)

def ofInt : Int → Numeral
  | .ofNat n => { whole := Text.digits n }
  | .negSucc n => { negative := true, whole := Text.digits (n + 1) }

end Numeral

namespace Value

def text (s : String) : Value := .string (some s)

def int (n : Int) : Value := .number (.ofInt n)

def int64 (n : Int64) : Value := .int n.toInt

def fields (fs : List (String × Value)) : Value := .object (fs.map fun f => (some f.1, f.2))

end Value

end VenueGateway.Json
