import VenueGateway.Order.Command
import VenueGateway.Order.Identity

/-!
What happens to orders: one was submitted, the venue gave one up, one was filled, or one counts as
canceled. The platform hears of the last two, each under a route of its own.
-/

namespace VenueGateway

open Json (Value)

/-- A report that an order was executed. -/
structure Fill where
  orderId : String := ""
  fillId : String := ""
  externalOrderId : String := ""
  instrumentPair : String := ""
  quantityFilled : String := ""
  quantityCumulative : String := ""
  quantityLeaves : String := ""
  price : String := ""
  side : String := ""
  status : String := ""
  kind : String := ""
  clientId : String := ""
  date : String := ""
  clientOrderId : String := ""
  requestForQuoteId : String := ""
  externalRequestForQuoteId : String := ""
  provider : String := ""
  source : String := ""
  sourceType : String := ""
  executionType : String := "trade"
  deriving DecidableEq, Repr, Inhabited

namespace Fill

def fieldNames : List String :=
  ["orderId", "fillId", "externalOrderId", "instrumentPair", "quantityFilled", "quantityCumulative",
    "quantityLeaves", "price", "side", "status", "type", "clientId", "date", "clientOrderId",
    "requestForQuoteId", "externalRequestForQuoteId", "provider", "source", "sourceType",
      "executionType"]

/-- A fill as JSON. What is empty is left out, apart from the kind of execution. -/
def toJson (f : Fill) : Value :=
  .fields <|
    textUnlessEmpty "orderId" f.orderId ++ textUnlessEmpty "fillId" f.fillId ++
    textUnlessEmpty "externalOrderId" f.externalOrderId ++
    textUnlessEmpty "instrumentPair" f.instrumentPair ++
    textUnlessEmpty "quantityFilled" f.quantityFilled ++
    textUnlessEmpty "quantityCumulative" f.quantityCumulative ++
    textUnlessEmpty "quantityLeaves" f.quantityLeaves ++ textUnlessEmpty "price" f.price ++
    textUnlessEmpty "side" f.side ++ textUnlessEmpty "status" f.status ++
      textUnlessEmpty "type" f.kind ++
    textUnlessEmpty "clientId" f.clientId ++ textUnlessEmpty "date" f.date ++
    textUnlessEmpty "clientOrderId" f.clientOrderId ++
    textUnlessEmpty "requestForQuoteId" f.requestForQuoteId ++
    textUnlessEmpty "externalRequestForQuoteId" f.externalRequestForQuoteId ++
    textUnlessEmpty "provider" f.provider ++ textUnlessEmpty "source" f.source ++
    textUnlessEmpty "sourceType" f.sourceType ++ [("executionType", .text f.executionType)]

/-- The fill that a JSON value spells. The kind of execution must be given. -/
def ofJson? (v : Value) : Option Fill := do
  let r ← v.record? fieldNames
  let text (name : String) : Option String := Json.Field.optional Value.text? "" (r name)
  let orderId ← text "orderId"
  let fillId ← text "fillId"
  let externalOrderId ← text "externalOrderId"
  let instrumentPair ← text "instrumentPair"
  let quantityFilled ← text "quantityFilled"
  let quantityCumulative ← text "quantityCumulative"
  let quantityLeaves ← text "quantityLeaves"
  let price ← text "price"
  let side ← text "side"
  let status ← text "status"
  let kind ← text "type"
  let clientId ← text "clientId"
  let date ← text "date"
  let clientOrderId ← text "clientOrderId"
  let requestForQuoteId ← text "requestForQuoteId"
  let externalRequestForQuoteId ← text "externalRequestForQuoteId"
  let provider ← text "provider"
  let source ← text "source"
  let sourceType ← text "sourceType"
  let executionType ← Json.Field.required Value.text? (r "executionType")
  some {
    orderId, fillId, externalOrderId, instrumentPair, quantityFilled, quantityCumulative,
      quantityLeaves,
    price, side, status, kind, clientId, date, clientOrderId, requestForQuoteId,
    externalRequestForQuoteId, provider, source, sourceType, executionType }

end Fill

/-- The kinds of events, to each of which one can subscribe. -/
inductive EventKind where
  | orderSubmitted
  | attemptedCancel
  | fillArrived
  | orderCanceled
  deriving DecidableEq, Repr

namespace EventKind

/-- The name under which events of a kind are counted. -/
def name : EventKind → String
  | orderSubmitted => "order_submitted"
  | attemptedCancel => "attempted_cancel"
  | fillArrived => "fill_arrived"
  | orderCanceled => "order_canceled"

def all : List EventKind := [orderSubmitted, attemptedCancel, fillArrived, orderCanceled]

end EventKind

inductive Event where
  /-- An order is on its way to the venue and is tracked under a key from now on. -/
  | orderSubmitted (trade : TradeRef) (key : String)
  /-- The venue answered about an order that it refused or was asked to cancel. -/
  | attemptedCancel (orderId : Int64)
  /-- An order was executed. -/
  | fillArrived (fill : Fill)
  /-- An order is canceled. -/
  | orderCanceled (key : String)
  deriving DecidableEq, Repr

namespace Event

instance : Inhabited Event := ⟨orderCanceled ""⟩

def kind : Event → EventKind
  | orderSubmitted _ _ => .orderSubmitted
  | attemptedCancel _ => .attemptedCancel
  | fillArrived _ => .fillArrived
  | orderCanceled _ => .orderCanceled

@[simp] theorem kind_orderSubmitted (t : TradeRef) (k : String) :
    (orderSubmitted t k).kind = .orderSubmitted := rfl
@[simp] theorem kind_attemptedCancel (n : Int64) : (attemptedCancel n).kind = .attemptedCancel :=
  rfl
@[simp] theorem kind_fillArrived (f : Fill) : (fillArrived f).kind = .fillArrived := rfl
@[simp] theorem kind_orderCanceled (k : String) : (orderCanceled k).kind = .orderCanceled := rfl

def toJson : Event → Value
  | orderSubmitted trade key => .fields [("tradeInfo", trade.toJson), ("orderId", .text key)]
  | attemptedCancel orderId => .fields [("orderId", .int64 orderId)]
  | fillArrived fill => fill.toJson
  | orderCanceled key => .fields [("orderId", .text key)]

def ofJson? (v : Value) : EventKind → Option Event
  | .orderSubmitted => do
    let r ← v.record? ["tradeInfo", "orderId"]
    let trade ← Json.Field.required TradeRef.ofJson? (r "tradeInfo")
    let key ← Json.Field.required Value.text? (r "orderId")
    some (orderSubmitted trade key)
  | .attemptedCancel => do
    let r ← v.record? ["orderId"]
    let orderId ← Json.Field.required Value.int64? (r "orderId")
    some (attemptedCancel orderId)
  | .fillArrived => (Fill.ofJson? v).map fillArrived
  | .orderCanceled => do
    let r ← v.record? ["orderId"]
    let key ← Json.Field.required Value.text? (r "orderId")
    some (orderCanceled key)

end Event

end VenueGateway
