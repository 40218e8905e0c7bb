import VenueGateway.Duration
import VenueGateway.Venue.Frame

/-!
The link to the venue, as those see it who send requests over it: a state, the sequence number used
last, and the frames the venue has accepted. Which frames it refuses is a parameter. Every request
takes the next sequence number once the link is connected, whether it is then refused or not.
-/

namespace VenueGateway

inductive ConnectionState where
  | disconnected
  | connecting
  | connected
  deriving DecidableEq, Repr

namespace ConnectionState

instance : Inhabited ConnectionState := ⟨disconnected⟩

def name : ConnectionState → String
  | disconnected => "disconnected"
  | connecting => "connecting"
  | connected => "connected"

def describe : ConnectionState → String
  | disconnected => "Disconnected"
  | connecting => "Connecting"
  | connected => "Connected"

def ofName? : String → Option ConnectionState
  | "disconnected" => some disconnected
  | "connecting" => some connecting
  | "connected" => some connected
  | _ => none

@[simp] theorem ofName?_name (s : ConnectionState) :
    ofName? s.name = some s := by cases s <;> simp [ofName?, name]

end ConnectionState

/-- Why a connection was not made or a request not sent. -/
inductive LinkError where
  | notConnected
  | connection (reason : String)
  | send (reason : String)
  | timeout (limit : Duration)
  | closed
  deriving DecidableEq, Repr

namespace LinkError

def message : LinkError → String
  | notConnected => "not connected"
  | connection reason => "connection failed: " ++ reason
  | send reason => "send failed: " ++ reason
  | timeout limit => "timed out after " ++ limit.text
  | closed => "transport closed"

end LinkError

/-- The step between the sequence numbers of requests. -/
def sequenceStep : Int64 := 2

structure Link where
  state : ConnectionState := .disconnected
  lastSequence : Int64 := 0
  /-- Why a frame is refused, where it is. -/
  refusal : Frame → Option LinkError := fun _ => none
  /-- The frames that were accepted, in order. -/
  accepted : List Frame := []

/-- How the link is while a message is handled. -/
structure LinkCondition where
  state : ConnectionState
  refusal : Frame → Option LinkError

namespace Link

instance : Inhabited Link := ⟨{}⟩

/-- The frame of the next request. -/
def nextFrame (l : Link) (operation payload : String) : Frame :=
  .request (l.lastSequence + sequenceStep) operation payload

/-- Sends a request, and tells its sequence number. -/
def send (l : Link) (operation payload : String) : Link × Except LinkError Int64 :=
  if l.state = .connected then
    let frame := l.nextFrame operation payload
    let l := { l with lastSequence := frame.sequence }
    match l.refusal frame with
    | some e => (l, .error e)
    | none => ({ l with accepted := l.accepted ++ [frame] }, .ok frame.sequence)
  else (l, .error .notConnected)

theorem send_of_not_connected {l : Link} (h : l.state ≠ .connected) (operation payload : String) :
    l.send operation payload = (l, .error .notConnected) := by
  simp [send, h]

theorem send_of_refused {l : Link} (h : l.state = .connected) {operation payload : String}
    {e : LinkError} (hr : l.refusal (l.nextFrame operation payload) = some e) :
    l.send operation payload =
      ({ l with lastSequence := l.lastSequence + sequenceStep }, .error e) := by
  simp only [send, h, ↓reduceIte, hr]
  rfl

theorem send_of_accepted {l : Link} (h : l.state = .connected) {operation payload : String}
    (hr : l.refusal (l.nextFrame operation payload) = none) :
    l.send operation payload =
      ({ l with
          lastSequence := l.lastSequence + sequenceStep
          accepted := l.accepted ++ [l.nextFrame operation payload] },
            .ok (l.lastSequence + sequenceStep)) := by
  simp only [send, h, ↓reduceIte, hr]
  rfl

end Link

end VenueGateway
