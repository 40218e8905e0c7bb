import VenueGateway.Assoc
import VenueGateway.Venue.Credentials
import VenueGateway.Venue.Frame

/-!
A session at the venue: who logs in, and who handles which reply. Replies are told apart by the name
of their operation alone, in which the case of ASCII letters does not count, and the last handler
registered for a name is the only one that runs.
-/

namespace VenueGateway

/-- A session whose handlers are named by values of `H`. -/
structure Session (H : Type) where
  credentials : Option Credentials := none
  /-- The handlers under the names of their operations in small letters. -/
  routes : Assoc String H := .empty

namespace Session

variable {H : Type}

/-- Registers the handler of an operation in place of the one before. -/
def register (s : Session H) (operation : String) (handler : H) : Session H :=
  { s with routes := s.routes.insert (Text.lower operation) handler }

def registerAll (s : Session H) (handlers : List (String × H)) : Session H :=
  handlers.foldl (fun s h => s.register h.1 h.2) s

def handler? (s : Session H) (operation : String) : Option H := s.routes.get? (Text.lower operation)

def handles (s : Session H) (operation : String) : Bool := s.routes.contains (Text.lower operation)

theorem handler?_register (s : Session H) (operation other : String) (handler : H) :
    (s.register operation handler).handler? other =
      if Text.lower operation = Text.lower other then some handler else s.handler? other := by
  simp [handler?, register, Assoc.get?_insert]

/-- What becomes of a world in which a frame is handled, whatever it is that handlers do. -/
def handle {W : Type} (run : H → Frame → W → W) (s : Session H) (f : Frame) (w : W) : W :=
  match s.handler? f.operation with
  | some handler => run handler f w
  | none => w

@[simp] theorem credentials_register (s : Session H) (operation : String) (handler : H) :
    (s.register operation handler).credentials = s.credentials := rfl

/-- The request to log in. Without credentials there is none. -/
def loginRequest? (s : Session H) : Option LoginRequest := s.credentials.map (·.loginRequest)

def describe (s : Session H) : String :=
  let user := match s.credentials with
    | none => "None"
    | some c => "Some(" ++ Text.ofInt64 c.userId ++ ")"
  let names := (s.routes.keys.mergeSort (· ≤ ·)).map Text.quote
  "Session \x7b authenticated_as: " ++ user ++ ", operations: [" ++
    String.intercalate ", " names ++ "], .. \x7d"

end Session

end VenueGateway
