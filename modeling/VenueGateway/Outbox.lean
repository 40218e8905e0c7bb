import VenueGateway.Bus.Hub
import VenueGateway.Json.Printer

/-!
The outbox hands fills and cancellations on to the order platform. Handlers put messages into a
bounded queue, and a delivery task takes them out and offers them to a sink, one at a time. Once the
outbox is closed it takes no more messages, but what is queued is still offered.
-/

namespace VenueGateway

structure PlatformMessage where
  routingKey : String
  body : String
  priority : Option Nat
  deriving DecidableEq, Repr

namespace PlatformMessage

def fillsRoute : String := "inbound.fills.creates"

def canceledRoute : String := "returned.orders.canceled"

def canceledPriority : Nat := 10

/-- The message that tells the platform of an event. An event that names no order is not told. -/
def ofEvent? (e : Event) : Option PlatformMessage :=
  match e with
  | .fillArrived fill =>
    if fill.orderId = "" then none else some ⟨fillsRoute, e.toJson.print, none⟩
  | .orderCanceled key =>
    if key = "" then none else some ⟨canceledRoute, e.toJson.print, some canceledPriority⟩
  | .orderSubmitted _ _ => none
  | .attemptedCancel _ => none

end PlatformMessage

/-- An outbox with its delivery task. -/
structure Outbox where
  capacity : Nat
  capacity_pos : 0 < capacity
  queue : List PlatformMessage := []
  /-- The message that has been taken out and not yet been answered for by the sink. -/
  delivering : Option PlatformMessage := none
  /-- Whether messages are still put into the queue. -/
  accepting : Bool := true
  /-- Whether the delivery task has been told to stop. -/
  cancelled : Bool := false
  delivered : Nat := 0
  failed : Nat := 0
  deriving Repr

namespace Outbox

/-- An empty outbox. A capacity of nought counts as one. -/
def new (capacity : Nat) : Outbox :=
  { capacity := max capacity 1, capacity_pos := max_one_pos capacity }

instance : Inhabited Outbox := ⟨new 1⟩

def subscribedKinds : List EventKind := [.fillArrived, .orderCanceled]

/-- Puts a message into the queue. One that finds no room, or comes too late, has failed. -/
def enqueue (o : Outbox) (message : PlatformMessage) : Outbox :=
  if o.accepting ∧ o.queue.length < o.capacity then { o with queue := o.queue ++ [message] }
  else { o with failed := o.failed + 1 }

def handle (o : Outbox) (e : Event) : Outbox :=
  match PlatformMessage.ofEvent? e with
  | some message => o.enqueue message
  | none => o

/-- The delivery task takes the next message, if it has none in hand. -/
def take (o : Outbox) : Outbox :=
  match o.delivering, o.queue with
  | none, message :: rest => { o with queue := rest, delivering := some message }
  | _, _ => o

/-- The sink answers for the message in hand. -/
def answer (o : Outbox) (accepted : Bool) : Outbox :=
  match o.delivering with
  | some _ =>
    if accepted then { o with delivering := none, delivered := o.delivered + 1 }
    else { o with delivering := none, failed := o.failed + 1 }
  | none => o

/-- Tells the delivery task to stop. -/
def cancel (o : Outbox) : Outbox := { o with cancelled := true }

/-- The delivery task closes the queue once it has been told to stop. -/
def close (o : Outbox) : Outbox := if o.cancelled then { o with accepting := false } else o

/-- Offers everything in the queue to a sink, and returns what the sink accepted. -/
def deliverAll (accepts : Bool) (o : Outbox) : Nat → Outbox × List PlatformMessage
  | 0 => (o, [])
  | n + 1 =>
    match o.take.delivering with
    | some message =>
      let r := deliverAll accepts (o.take.answer accepts) n
      (r.1, if accepts then message :: r.2 else r.2)
    | none => (o, [])

/-- Lets the delivery task run until it has nothing to do. -/
def settle (accepts : Bool) (o : Outbox) : Outbox × List PlatformMessage :=
  let r := o.deliverAll accepts (o.queue.length + 1)
  (r.1.close, r.2)

inductive Action where
  /-- An event reaches a handler. -/
  | handle (e : Event)
  /-- The delivery task takes the next message and offers it to the sink. -/
  | take
  /-- The sink accepts what it was offered, or refuses it. -/
  | answer (accepted : Bool)
  | cancel
  /-- The delivery task sees that it was told to stop. -/
  | close
  deriving DecidableEq, Repr

def act (o : Outbox) : Action → Outbox
  | .handle e => o.handle e
  | .take => o.take
  | .answer accepted => o.answer accepted
  | .cancel => o.cancel
  | .close => o.close

def run (o : Outbox) (as : List Action) : Outbox := as.foldl act o

def describe (o : Outbox) : String :=
  "EventPublisher \x7b delivered: " ++ Text.ofNat o.delivered ++ ", failed: " ++
    Text.ofNat o.failed ++
    ", .. \x7d"

end Outbox

end VenueGateway
