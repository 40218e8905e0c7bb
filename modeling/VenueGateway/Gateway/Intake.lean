import VenueGateway.Gateway.Commands

/-!
Intake of commands from the queues of the platform. What can never succeed is rejected, and what
failed only because of the venue is put back into its queue.
-/

namespace VenueGateway

/-- What becomes of a message that was taken from a queue. -/
inductive Settlement where
  | ack
  | reject
  | requeue
  deriving DecidableEq, Repr

namespace Settlement

def name : Settlement → String
  | ack => "Ack"
  | reject => "Reject"
  | requeue => "Requeue"

/-- The settlement of a message whose command ended as given. -/
def ofOutcome {α : Type} : Except CommandError α → Settlement
  | .ok _ => ack
  | .error (.unknownInstrument _) => reject
  | .error (.invalidOrderId _) => reject
  | .error (.link _) => requeue

end Settlement

def submissionQueue (provider : String) : String := "outbound.orders.created." ++ provider

def cancellationQueue (provider : String) : String := "outbound.orders.canceled." ++ provider

namespace Gateway

/-- Handles a message that should be a submission. -/
def handleSubmission (g : Gateway) (body : List UInt8) : Gateway × Settlement :=
  match (Json.Value.parseBytes? body).bind SubmitOrder.ofJson? with
  | none => (g, .reject)
  | some c =>
    let r := g.submit c
    (r.1, .ofOutcome r.2)

/-- Handles a message that should be a cancellation. -/
def handleCancellation (g : Gateway) (body : List UInt8) : Gateway × Settlement :=
  match (Json.Value.parseBytes? body).bind CancelOrder.ofJson? with
  | none => (g, .reject)
  | some c =>
    let r := g.cancel c
    (r.1, .ofOutcome r.2)

def handle (g : Gateway) (queue : String) (body : List UInt8) : Gateway × Settlement :=
  if queue = submissionQueue g.provider then g.handleSubmission body
  else if queue = cancellationQueue g.provider then g.handleCancellation body
  else (g, .reject)

/-- Handles a message again and again, each time with the link in a condition of its own. -/
def attempts (queue : String) (body : List UInt8) (g : Gateway) :
    List LinkCondition → Gateway × List Settlement
  | [] => (g, [])
  | w :: ws =>
    let r := (g.under w).handle queue body
    let rest := attempts queue body r.1 ws
    (rest.1, r.2 :: rest.2)

end Gateway

end VenueGateway
