import VenueGateway.Gateway.Basic

/-!
Replies. A frame goes to the handler of its operation, and one without a handler is passed over. A
payload that is no reply of its kind is counted and has no other effect.
-/

namespace VenueGateway.Gateway

/-- Enters what a reply says into the directory, and offers the events that follow from it. -/
def applyEffect (g : Gateway) (effect : Directory × List Event) : Gateway :=
  effect.2.foldl offer { g with directory := effect.1 }

def runHandler (g : Gateway) (f : Frame) : ReplyHandler → Gateway
  | .login => g
  | .note tag => { g with noted := g.noted ++ [(tag, f)] }
  | .reply kind =>
    match kind.effect? g.directory f with
    | some effect => g.applyEffect effect
    | none => g.count .parseFailures

/-- Hands a frame to the handler of its operation. -/
def deliver (g : Gateway) (f : Frame) : Gateway :=
  match g.session.handler? f.operation with
  | some handler => g.runHandler f handler
  | none => g

/-- Takes a text from the connection, which should be a frame, and hands it on. -/
def receive (g : Gateway) (text : String) : Gateway :=
  match Frame.decode text with
  | .ok f => (g.count (.framesReceived f.route)).deliver f
  | .error _ => g.count .parseFailures

end VenueGateway.Gateway
