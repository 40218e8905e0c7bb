import VenueGateway.Json.Token

/-!
Reading a JSON text. Tokens drive a machine that keeps the containers it is inside of on a stack, so
nesting of any depth is read. A run over tokens splits wherever they are split, which `run?_append`
states.
-/

namespace VenueGateway.Json

open Text (Symbol)

/-- A container that is open, its parts latest first. In an object the last key awaits its value. -/
inductive Frame where
  | array (items : List Value)
  | object (members : List Member) (key : Literal)

/-- What the next token may be. -/
inductive Mode where
  /-- a value -/
  | value
  /-- a value, or the end of the array just opened -/
  | firstItem
  /-- a key, or the end of the object just opened -/
  | firstKey
  /-- a key, after a comma -/
  | key (members : List Member)
  /-- the colon behind a key -/
  | colon (members : List Member) (key : Literal)
  /-- what may follow a value -/
  | after (v : Value)

/-- A state of the machine. -/
structure Reader where
  frames : List Frame
  mode : Mode

namespace Reader

def start : Reader := ⟨[], .value⟩

/-- Begins a value inside the given containers. -/
def begin? (frames : List Frame) : Token → Option Reader
  | .null => some ⟨frames, .after .null⟩
  | .bool b => some ⟨frames, .after (.bool b)⟩
  | .number n => some ⟨frames, .after (.number n)⟩
  | .string s => some ⟨frames, .after (.string s)⟩
  | .openArray => some ⟨.array [] :: frames, .firstItem⟩
  | .openObject => some ⟨frames, .firstKey⟩
  | _ => none

/-- Goes on behind a complete value. -/
def continue? (v : Value) : List Frame → Token → Option Reader
  | .array items :: frames, .comma => some ⟨.array (v :: items) :: frames, .value⟩
  | .array items :: frames, .closeArray => some ⟨frames, .after (.array (v :: items).reverse)⟩
  | .object members key :: frames, .comma => some ⟨frames, .key ((key, v) :: members)⟩
  | .object members key :: frames, .closeObject =>
    some ⟨frames, .after (.object ((key, v) :: members).reverse)⟩
  | _, _ => none

def step? (r : Reader) (t : Token) : Option Reader :=
  match r.mode with
  | .value => begin? r.frames t
  | .firstItem =>
    match r.frames, t with
    | .array [] :: frames, .closeArray => some ⟨frames, .after (.array [])⟩
    | frames, t => begin? frames t
  | .firstKey =>
    match t with
    | .closeObject => some ⟨r.frames, .after (.object [])⟩
    | .string key => some ⟨r.frames, .colon [] key⟩
    | _ => none
  | .key members =>
    match t with
    | .string key => some ⟨r.frames, .colon members key⟩
    | _ => none
  | .colon members key =>
    match t with
    | .colon => some ⟨.object members key :: r.frames, .value⟩
    | _ => none
  | .after v => continue? v r.frames t

def run? (r : Reader) : List Token → Option Reader
  | [] => some r
  | t :: ts => (r.step? t).bind (run? · ts)

@[simp] theorem run?_nil (r : Reader) : r.run? [] = some r := rfl
@[simp] theorem run?_cons (r : Reader) (t : Token) (ts : List Token) :
    r.run? (t :: ts) = (r.step? t).bind (run? · ts) := rfl

theorem run?_append (r : Reader) (ts us : List Token) :
    r.run? (ts ++ us) = (r.run? ts).bind (run? · us) := by
  induction ts generalizing r with
  | nil => rfl
  | cons t ts ih => cases h : r.step? t <;> simp [h, ih]

/-- The value read, once it is complete and no container is open. -/
def result? : Reader → Option Value
  | ⟨[], .after v⟩ => some v
  | _ => none

end Reader

namespace Value

def ofTokens? (ts : List Token) : Option Value := (Reader.start.run? ts).bind Reader.result?

def ofSymbols? (s : List Symbol) : Option Value := (tokens? s).bind ofTokens?

def parse? (s : String) : Option Value := ofSymbols? (Text.symbolsOf s)

/-- The value that bytes spell. Stray bytes are tolerated in strings that nobody reads. -/
def parseBytes? (bytes : List UInt8) : Option Value := ofSymbols? (Text.symbols bytes)

end Value

end VenueGateway.Json
