import VenueGateway.Json.Field
import VenueGateway.Order.Terms

/-!
The commands of the order platform: to submit an order and to cancel one. In a submission every
field may be missing; what is empty is left out when it is written, apart from the fields that
always stand.
-/

namespace VenueGateway

open Json (Value)

structure SubmitOrder where
  id : Int64 := 0
  orderId : String := ""
  instrumentPair : String := ""
  quantity : Decimal := .zero
  price : Option Decimal := none
  sideName : String := ""
  status : String := ""
  kindName : String := ""
  clientId : String := ""
  date : String := ""
  clientOrderId : String := ""
  requestForQuoteId : String := ""
  provider : String := ""
  notes : String := ""
  blockChain : String := ""
  tags : List String := []
  source : String := ""
  deriving DecidableEq, Repr, Inhabited

/-- A text field that is left out when it is empty. -/
def textUnlessEmpty (name s : String) : List (String × Value) :=
  if s = "" then [] else [(name, .text s)]

namespace SubmitOrder

def side (c : SubmitOrder) : Side := .ofName c.sideName

def kind (c : SubmitOrder) : OrderKind := .ofName c.kindName

/-- The key the order is tracked under: the platform's order id, or the number where there is
none. -/
def trackingKey (c : SubmitOrder) : String :=
  if c.clientOrderId = "" then Text.ofInt64 c.id else c.clientOrderId

def fieldNames : List String :=
  ["id", "orderId", "instrumentPair", "quantity", "price", "side", "status", "type", "clientId",
    "date", "clientOrderId", "requestForQuoteId", "provider", "notes", "blockChain", "tags",
    "source"]

def toJson (c : SubmitOrder) : Value :=
  .fields <|
    [("id", .int64 c.id)] ++ textUnlessEmpty "orderId" c.orderId ++
    [("instrumentPair", .text c.instrumentPair), ("quantity", .text c.quantity.text)] ++
    (match c.price with
      | none => []
      | some p => [("price", .text p.text)]) ++
    [("side", .text c.sideName)] ++ textUnlessEmpty "status" c.status ++
      [("type", .text c.kindName)] ++
    textUnlessEmpty "clientId" c.clientId ++ textUnlessEmpty "date" c.date ++
    [("clientOrderId", .text c.clientOrderId)] ++
      textUnlessEmpty "requestForQuoteId" c.requestForQuoteId ++
    textUnlessEmpty "provider" c.provider ++ textUnlessEmpty "notes" c.notes ++
    textUnlessEmpty "blockChain" c.blockChain ++
    (if c.tags = [] then [] else [("tags", .array (c.tags.map .text))]) ++
      textUnlessEmpty "source" c.source

def ofJson? (v : Value) : Option SubmitOrder := do
  let r ← v.record? fieldNames
  let text (name : String) : Option String := Json.Field.optional Value.text? "" (r name)
  let id ← Json.Field.optional Value.int64? 0 (r "id")
  let orderId ← text "orderId"
  let instrumentPair ← text "instrumentPair"
  let quantity ← Json.Field.optional Value.decimal? .zero (r "quantity")
  let price ← Json.Field.optional (Value.nullable? Value.decimal?) none (r "price")
  let sideName ← text "side"
  let status ← text "status"
  let kindName ← text "type"
  let clientId ← text "clientId"
  let date ← text "date"
  let clientOrderId ← text "clientOrderId"
  let requestForQuoteId ← text "requestForQuoteId"
  let provider ← text "provider"
  let notes ← text "notes"
  let blockChain ← text "blockChain"
  let tags ← Json.Field.optional (Value.list? Value.text?) [] (r "tags")
  let source ← text "source"
  some {
    id, orderId, instrumentPair, quantity, price, sideName, status, kindName, clientId, date,
    clientOrderId, requestForQuoteId, provider, notes, blockChain, tags, source }

end SubmitOrder

/-- The command to cancel an order, which is named by the venue's number for it. -/
structure CancelOrder where
  orderId : String
  deriving DecidableEq, Repr, Inhabited

namespace CancelOrder

def toJson (c : CancelOrder) : Value := .fields [("orderId", .text c.orderId)]

def ofJson? (v : Value) : Option CancelOrder := do
  let r ← v.record? ["orderId"]
  let orderId ← Json.Field.required Value.text? (r "orderId")
  some ⟨orderId⟩

end CancelOrder

end VenueGateway
