import VenueGateway.Binary64.Fixed
import VenueGateway.Event
import VenueGateway.Venue.Directory
import VenueGateway.Venue.Frame
import VenueGateway.Venue.Reply

/-!
From replies to events. A refused order and any answer to a cancellation become an attempted cancel;
in a status reply every order is looked at on its own, in the order of the list; a list of
instruments is entered into the directory. `ReplyKind.effect?` puts these together: what a frame
does to the directory, and what it makes happen, or nothing where its payload is no such reply.
-/

namespace VenueGateway

namespace OrderReply

/-- Whether the venue refused the order. -/
def isRejected (r : OrderReply) : Bool := Text.sameIgnoringCase r.status "rejected"

/-- What follows from the answer to an order. -/
def events (r : OrderReply) : List Event :=
  if r.isRejected then [.attemptedCancel r.orderId] else []

end OrderReply

namespace CancelReply

/-- What follows from the answer to a cancellation, whether it was carried out or not. -/
def events (r : CancelReply) : List Event := [.attemptedCancel r.orderId]

end CancelReply

namespace ReportedOrder

/-- The places of quantities and prices in a fill. -/
def places : Nat := 6

def amount (f : Float) : String := String.ofList (Binary64.fixed places f)

/-- The text of a number, and of nought the empty one. -/
def textUnlessZero (n : Int64) : String := if n = 0 then "" else Text.ofInt64 n

/-- The fill that a filled order reports. -/
def fill (directory : Directory) (o : ReportedOrder) : Fill := {
  orderId := textUnlessZero o.clientOrderId
  fillId := Text.ofInt64 o.orderId
  externalOrderId := Text.ofInt64 o.orderId
  instrumentPair := (directory.symbol? o.instrument).getD ""
  quantityFilled := amount o.quantityExecuted
  quantityCumulative := amount o.quantityExecuted
  quantityLeaves := amount (o.orderedQuantity - o.quantityExecuted)
  price := amount o.price
  side := Text.lower o.side
  status := Text.lower o.state
  kind := Text.lower o.kind
  clientId := Text.ofInt64 o.account
  date := Text.ofInt64 o.receiveTime
  clientOrderId := Text.ofInt64 o.clientOrderId
  provider := Text.ofInt64 o.counterPartyId
  source := Text.ofInt64 o.omsId }

/-- The number under which an order is given up: our own, or the venue's where we gave none. -/
def knownId (o : ReportedOrder) : Int64 :=
  if o.clientOrderId = 0 then o.orderId else o.clientOrderId

def isGivenUp (o : ReportedOrder) : Bool :=
  Text.sameIgnoringCase o.state "canceled" || Text.sameIgnoringCase o.state "rejected"

def isFilled (o : ReportedOrder) : Bool := Text.sameIgnoringCase o.state "filled"

/-- What follows from the report of one order. A report without the venue's number counts for
nothing. -/
def events (directory : Directory) (o : ReportedOrder) : List Event :=
  if o.orderId = 0 then []
  else if o.isGivenUp then [.attemptedCancel o.knownId]
  else if o.isFilled then [.fillArrived (o.fill directory)]
  else []

end ReportedOrder

namespace StatusReply

def events (directory : Directory) (r : StatusReply) : List Event :=
  r.orders.flatMap (·.events directory)

end StatusReply

namespace InstrumentsReply

/-- The pairs that a list of instruments gives. One without a symbol gives none. -/
def pairs (r : InstrumentsReply) : List (String × Int64) :=
  (r.instruments.filter (·.symbol ≠ "")).map fun i => (i.symbol, i.instrumentId)

end InstrumentsReply

inductive ReplyKind where
  | order
  | cancel
  | status
  | instruments
  deriving DecidableEq, Repr

namespace ReplyKind

/-- What a reply of a kind does to the directory, and the events that follow from it. -/
def effect? (kind : ReplyKind) (directory : Directory) (f : Frame) :
    Option (Directory × List Event) :=
  match kind with
  | order => (f.body?.bind OrderReply.ofJson?).map fun r => (directory, r.events)
  | cancel => (f.body?.bind CancelReply.ofJson?).map fun r => (directory, r.events)
  | status => (f.body?.bind StatusReply.ofJson?).map fun r => (directory, r.events directory)
  | instruments => (f.body?.bind InstrumentsReply.ofJson?).map fun r =>
    (directory.insertAll r.pairs, [])

end ReplyKind

end VenueGateway
