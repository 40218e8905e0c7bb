import VenueGateway.Json.Field
import VenueGateway.Json.Printer
import VenueGateway.Text.Blank

/-!
Frames, in which all messages to and from the venue are wrapped: the kind of the message, a sequence
number, the name of an operation, and a payload, which is a JSON text of its own inside a string.
-/

namespace VenueGateway

open Json (Value)

inductive MessageKind where
  | request
  | response
  | subscribe
  | event
  | unsubscribe
  | error
  deriving DecidableEq, Repr

namespace MessageKind

def code : MessageKind → Nat
  | request => 0
  | response => 1
  | subscribe => 2
  | event => 3
  | unsubscribe => 4
  | error => 5

def ofCode? : Nat → Option MessageKind
  | 0 => some request
  | 1 => some response
  | 2 => some subscribe
  | 3 => some event
  | 4 => some unsubscribe
  | 5 => some error
  | _ => none

def name : MessageKind → String
  | request => "Request"
  | response => "Response"
  | subscribe => "Subscribe"
  | event => "Event"
  | unsubscribe => "Unsubscribe"
  | error => "Error"

@[simp] theorem ofCode?_code (k : MessageKind) : ofCode? k.code = some k := by cases k <;> rfl

def ofJson? (v : Value) : Option MessageKind :=
  v.integer?.bind fun n => if 0 ≤ n then ofCode? n.toNat else none

end MessageKind

/-- A message to or from the venue. -/
structure Frame where
  kind : MessageKind
  sequence : Int64
  operation : String
  payload : String
  deriving DecidableEq, Repr

/-- Why a text is no frame. -/
inductive FrameError where
  /-- It does not begin like an object; the text is kept without the blanks around it. -/
  | notAnObject (text : String)
  /-- It is not the JSON of a frame. -/
  | malformed
  deriving DecidableEq, Repr

namespace Frame

def request (sequence : Int64) (operation payload : String) : Frame :=
  ⟨.request, sequence, operation, payload⟩

/-- The operation as handlers are looked up by it. -/
def route (f : Frame) : String := Text.lower f.operation

def toJson (f : Frame) : Value :=
  .fields [("m", .int f.kind.code), ("i", .int64 f.sequence), ("n", .text f.operation),
    ("o", .text f.payload)]

/-- The frame that a JSON value spells. A missing payload is empty. -/
def ofJson? (v : Value) : Option Frame := do
  let r ← v.record? ["m", "i", "n", "o"]
  let kind ← Json.Field.required MessageKind.ofJson? (r "m")
  let sequence ← Json.Field.required Value.int64? (r "i")
  let operation ← Json.Field.required Value.text? (r "n")
  let payload ← Json.Field.optional Value.text? "" (r "o")
  some ⟨kind, sequence, operation, payload⟩

def encode (f : Frame) : String := f.toJson.print

def decode (s : String) : Except FrameError Frame :=
  let text := Text.trim s
  if text.toList.head? = some '\x7b' then
    match (Value.parse? text).bind ofJson? with
    | some f => .ok f
    | none => .error .malformed
  else .error (.notAnObject text)

/-- The payload as a JSON value. -/
def body? (f : Frame) : Option Value := Value.parse? f.payload

end Frame

namespace FrameError

/-- How many characters of a refused text a message quotes. -/
def excerptLength : Nat := 50

/-- The wording of a frame error, where it has one of its own. -/
def message? : FrameError → Option String
  | notAnObject text =>
    some ("invalid frame format: expected JSON object, got: " ++
      String.ofList (text.toList.take excerptLength) ++ "...")
  | malformed => none

end FrameError

/-- The wording for a number that no message kind has. -/
def unknownMessageKind (code : Nat) : String := "unknown message type " ++ Text.ofNat code

end VenueGateway
