import VenueGateway.Json.Reader
import VenueGateway.Json.Real
import VenueGateway.Decimal.Float

/-!
Reading records. A record is written as an object, in which unknown members are passed over and a
known one occurs once at most, or as an array of its fields in order. `Value.record?` turns either
form into one function from field names to values; whether a field may be missing or null is for its
reader to say.
-/

namespace VenueGateway.Json

/-- The value of each field of a record, where it is given. -/
abbrev Record := String → Option Value

namespace Value

def member? (members : List Member) (name : String) : Option Value :=
  (members.find? fun m => m.1 == some name).map (·.2)

/-- Whether all keys are texts and none of the given names is repeated. -/
def wellKeyed (names : List String) (members : List Member) : Bool :=
  members.all (·.1.isSome) && names.all fun name => members.countP (fun m => m.1 == some name) ≤ 1

/-- The record of fields with the given names. -/
def record? (names : List String) : Value → Option Record
  | .object members => if wellKeyed names members then some (member? members) else none
  | .array items =>
    if items.length ≤ names.length then some fun name => (names.idxOf? name).bind fun i => items[i]?
    else none
  | _ => none

def text? : Value → Option String
  | .string s => s
  | _ => none

def bool? : Value → Option Bool
  | .bool b => some b
  | _ => none

def integer? : Value → Option Int
  | .number n => n.integer?
  | _ => none

def int64? (v : Value) : Option Int64 := v.integer?.bind Text.int64OfInt?

def int32? (v : Value) : Option Int32 :=
  v.integer?.bind fun n => if -0x80000000 ≤ n ∧ n < 0x80000000 then some (Int32.ofInt n) else none

def float? : Value → Option Float
  | .number n => n.float?
  | _ => none

/-- A decimal, written as a text or as a number. An integer of sixty-four bits is taken as it is,
and any other number by way of floating point. -/
def decimal? : Value → Option Decimal
  | .string s => s.bind Decimal.ofText?
  | .number n =>
    match n.integer? with
    | some i => if -0x8000000000000000 ≤ i ∧ i < 0x10000000000000000 then Decimal.ofInt? i
      else n.float?.bind Decimal.ofFloat?
    | none => n.float?.bind Decimal.ofFloat?
  | _ => none

/-- A list of which each item is read in the same way. -/
def list? {α : Type} (read : Value → Option α) : Value → Option (List α)
  | .array items => items.mapM read
  | _ => none

def nullable? {α : Type} (read : Value → Option α) : Value → Option (Option α)
  | .null => some none
  | v => (read v).map some

end Value

namespace Field

variable {α : Type}

def required (read : Value → Option α) (v : Option Value) : Option α := v.bind read

/-- A field that may be missing. -/
def optional (read : Value → Option α) (default : α) : Option Value → Option α
  | none => some default
  | some v => read v

/-- A field that may be missing or null. -/
def lenient (read : Value → Option α) (default : α) : Option Value → Option α
  | none => some default
  | some v => ((Value.nullable? read v).map (·.getD default))

end Field

end VenueGateway.Json
