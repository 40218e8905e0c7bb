import VenueGateway.Metrics
import VenueGateway.Settings
import VenueGateway.Venue.Link
import VenueGateway.Venue.Retry

/-!
What the tasks of the venue client share: the state of the connection, the sequence number, the
writer, which one task may hold at a time, and the marks by which tasks tell each other to stop.
`dispatch` hands what was received to every listener, whatever becomes of the others.
-/

namespace VenueGateway.Client

inductive Message where
  | request (f : Frame)
  | pong (data : List UInt8)
  /-- The close message, without a code. -/
  | close
  deriving DecidableEq, Repr

/-- What a reader meets next. -/
inductive Inbound where
  | text (s : String)
  | binary (data : List UInt8)
  | ping (data : List UInt8)
  | pong
  /-- The venue closes the connection, with a code or without. -/
  | close (code : Option Nat)
  /-- The connection fails or ends without a close message. -/
  | failure
  deriving DecidableEq, Repr

/-- Whether a close message with the given code ends a connection for good: normal, going away, or
no code. -/
def endsForGood : Option Nat → Bool
  | none => true
  | some code => code == 1000 || code == 1001

/-- A listener: on which frames it breaks off. -/
abbrev Hearer := Frame → Bool

/-- A listener's hearing of a frame. -/
structure Hearing where
  listener : Nat
  frame : Frame
  panicked : Bool
  deriving DecidableEq, Repr

/-- What the tasks of a client share. Connections are named in the order in which they were
opened. -/
structure Shared where
  settings : ConnectionSettings := {}
  state : ConnectionState := .disconnected
  lastSequence : Int64 := 0
  /-- The connection that requests are written to. -/
  writer : Option Nat := none
  /-- Whether a task holds the writer. -/
  writerHeld : Bool := false
  /-- The connection installed last. -/
  current : Option Nat := none
  /-- The connections whose readers have been told to stop. -/
  cancelled : List Nat := []
  /-- Whether all readers and retries have been told to stop. -/
  shutdown : Bool := false
  /-- Whether the client is closed. -/
  closed : Bool := false
  /-- Whether a retry is under way. -/
  reconnecting : Bool := false
  /-- How many connections have been opened. -/
  opened : Nat := 0
  listeners : List Hearer := []
  /-- What listeners heard, in order. -/
  heard : List Hearing := []
  /-- What was written, and on which connection, in order. -/
  wire : List (Nat × Message) := []
  metrics : Metrics := {}
  /-- The time in milliseconds. -/
  now : Nat := 0

namespace Shared

instance : Inhabited Shared := ⟨{}⟩

/-- Sets the state, which is also shown among the metrics. -/
def setState (s : Shared) (state : ConnectionState) : Shared :=
  { s with state, metrics := s.metrics.setConnected (state == .connected) }

def isCancelled (s : Shared) (connection : Nat) : Bool :=
  s.shutdown || s.cancelled.contains connection

def cancel (s : Shared) (connection : Nat) : Shared :=
  { s with cancelled := connection :: s.cancelled }

def write (s : Shared) (connection : Nat) (m : Message) : Shared :=
  { s with wire := s.wire ++ [(connection, m)] }

/-- The hearing of a frame by all listeners, in the order of their registration. -/
def hearings (s : Shared) (f : Frame) : List Hearing :=
  s.listeners.zipIdx.map fun l => ⟨l.2, f, l.1 f⟩

/-- Hands a text to the listeners, if it is a frame. -/
def dispatch (s : Shared) (text : String) : Shared :=
  match Frame.decode text with
  | .ok f =>
    { s with metrics := s.metrics.frameReceived f.operation, heard := s.heard ++ s.hearings f }
  | .error _ => { s with metrics := s.metrics.increment .parseFailures }

/-- Hands bytes to the listeners, if they are the text of a frame. -/
def dispatchBytes (s : Shared) (data : List UInt8) : Shared :=
  match Text.ofBytes? data with
  | some text => s.dispatch text
  | none => { s with metrics := s.metrics.increment .parseFailures }

def nextFrame (s : Shared) (operation payload : String) : Frame :=
  .request (s.lastSequence + sequenceStep) operation payload

/-- Makes a connection the one that is written to and read from. The reader before it is told to
stop. -/
def install (s : Shared) (connection : Nat) : Shared :=
  let s := match s.current with
    | some former => s.cancel former
    | none => s
  ({ s with writer := some connection, current := some connection } : Shared).setState .connected

end Shared

end VenueGateway.Client
