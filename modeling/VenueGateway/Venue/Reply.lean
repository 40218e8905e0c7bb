import VenueGateway.Json.Field

/-!
What the venue answers. Replies are often partial: in a reply and in every record inside it, a field
that is missing or null takes its default, which is empty, nought or false.
-/

namespace VenueGateway

open Json (Value)
open Json.Field (lenient)

/-- The answer to an order. -/
structure OrderReply where
  status : String := ""
  errorMessage : String := ""
  orderId : Int64 := 0
  deriving DecidableEq, Repr, Inhabited

/-- The answer to a cancellation. -/
structure CancelReply where
  result : Bool := false
  errorMessage : String := ""
  errorCode : Int64 := 0
  detail : String := ""
  orderId : Int64 := 0
  deriving DecidableEq, Repr, Inhabited

/-- The answer to a general cancellation. -/
structure CancelAllReply where
  result : Bool := false
  errorMessage : String := ""
  errorCode : Int64 := 0
  detail : String := ""
  deriving DecidableEq, Repr, Inhabited

/-- An order as the venue reports it. -/
structure ReportedOrder where
  side : String := ""
  orderId : Int64 := 0
  price : Float := 0
  quantity : Float := 0
  displayQuantity : Float := 0
  instrument : Int64 := 0
  account : Int64 := 0
  kind : String := ""
  clientOrderId : Int64 := 0
  state : String := ""
  receiveTime : Int64 := 0
  receiveTimeTicks : Int64 := 0
  orderedQuantity : Float := 0
  quantityExecuted : Float := 0
  averagePrice : Float := 0
  counterPartyId : Int64 := 0
  changeReason : String := ""
  firstOrderId : Int64 := 0
  firstClientOrderId : Int64 := 0
  enteredBy : Int64 := 0
  isQuote : Bool := false
  insideAsk : Float := 0
  insideAskSize : Float := 0
  insideBid : Float := 0
  insideBidSize : Float := 0
  lastTradePrice : Float := 0
  rejectReason : String := ""
  isLockedIn : Bool := false
  cancelReason : String := ""
  omsId : Int64 := 0
  deriving Repr, Inhabited

/-- The answer to a status request. -/
structure StatusReply where
  orders : List ReportedOrder := []
  deriving Repr, Inhabited

/-- A user as the venue reports it. -/
structure ReportedUser where
  userId : Int64 := 0
  userName : String := ""
  accountId : Int64 := 0
  omsId : Int64 := 0
  deriving DecidableEq, Repr, Inhabited

/-- The answer to a login. -/
structure LoginReply where
  authenticated : Bool := false
  user : Option ReportedUser := none
  locked : Bool := false
  needsSecondFactor : Bool := false
  errorMessage : String := ""
  deriving DecidableEq, Repr, Inhabited

/-- An instrument as the venue reports it. -/
structure ListedInstrument where
  instrumentId : Int64 := 0
  symbol : String := ""
  baseProduct : Int64 := 0
  quoteProduct : Int64 := 0
  deriving DecidableEq, Repr, Inhabited

/-- The list of instruments. -/
structure InstrumentsReply where
  instruments : List ListedInstrument := []
  deriving DecidableEq, Repr, Inhabited

/-- A product as the venue reports it. -/
structure ListedProduct where
  productId : Int64 := 0
  name : String := ""
  kind : String := ""
  deriving DecidableEq, Repr, Inhabited

/-- The list of products. -/
structure ProductsReply where
  products : List ListedProduct := []
  deriving DecidableEq, Repr, Inhabited

/-- A text field of a reply. -/
def replyText (r : Json.Record) (name : String) : Option String := lenient Value.text? "" (r name)
def replyInt (r : Json.Record) (name : String) : Option Int64 := lenient Value.int64? 0 (r name)
def replyBool (r : Json.Record) (name : String) : Option Bool := lenient Value.bool? false (r name)
def replyFloat (r : Json.Record) (name : String) : Option Float := lenient Value.float? 0 (r name)

namespace OrderReply

def fieldNames : List String := ["status", "errormsg", "OrderId"]

def ofJson? (v : Value) : Option OrderReply := do
  let r ← v.record? fieldNames
  let status ← replyText r "status"
  let errorMessage ← replyText r "errormsg"
  let orderId ← replyInt r "OrderId"
  some { status, errorMessage, orderId }

end OrderReply

namespace CancelReply

def fieldNames : List String := ["result", "errormsg", "errorcode", "detail", "orderId"]

def ofJson? (v : Value) : Option CancelReply := do
  let r ← v.record? fieldNames
  let result ← replyBool r "result"
  let errorMessage ← replyText r "errormsg"
  let errorCode ← replyInt r "errorcode"
  let detail ← replyText r "detail"
  let orderId ← replyInt r "orderId"
  some { result, errorMessage, errorCode, detail, orderId }

end CancelReply

namespace CancelAllReply

def fieldNames : List String := ["result", "errormsg", "errorcode", "detail"]

def ofJson? (v : Value) : Option CancelAllReply := do
  let r ← v.record? fieldNames
  let result ← replyBool r "result"
  let errorMessage ← replyText r "errormsg"
  let errorCode ← replyInt r "errorcode"
  let detail ← replyText r "detail"
  some { result, errorMessage, errorCode, detail }

end CancelAllReply

namespace ReportedOrder

def fieldNames : List String :=
  ["Side", "OrderId", "Price", "Quantity", "DisplayQuantity", "Instrument", "Account", "OrderType",
    "ClientOrderId", "OrderState", "ReceiveTime", "ReceiveTimeTicks", "OrigQuantity",
    "QuantityExecuted", "AvgPrice", "CounterPartyId", "ChangeReason", "OrigOrderId", "OrigClOrdId",
    "EnteredBy", "IsQuote", "InsideAsk", "InsideAskSize", "InsideBid", "InsideBidSize",
    "LastTradePrice", "RejectReason", "IsLockedIn", "CancelReason", "OMSId"]

def ofJson? (v : Value) : Option ReportedOrder := do
  let r ← v.record? fieldNames
  let side ← replyText r "Side"
  let orderId ← replyInt r "OrderId"
  let price ← replyFloat r "Price"
  let quantity ← replyFloat r "Quantity"
  let displayQuantity ← replyFloat r "DisplayQuantity"
  let instrument ← replyInt r "Instrument"
  let account ← replyInt r "Account"
  let kind ← replyText r "OrderType"
  let clientOrderId ← replyInt r "ClientOrderId"
  let state ← replyText r "OrderState"
  let receiveTime ← replyInt r "ReceiveTime"
  let receiveTimeTicks ← replyInt r "ReceiveTimeTicks"
  let orderedQuantity ← replyFloat r "OrigQuantity"
  let quantityExecuted ← replyFloat r "QuantityExecuted"
  let averagePrice ← replyFloat r "AvgPrice"
  let counterPartyId ← replyInt r "CounterPartyId"
  let changeReason ← replyText r "ChangeReason"
  let firstOrderId ← replyInt r "OrigOrderId"
  let firstClientOrderId ← replyInt r "OrigClOrdId"
  let enteredBy ← replyInt r "EnteredBy"
  let isQuote ← replyBool r "IsQuote"
  let insideAsk ← replyFloat r "InsideAsk"
  let insideAskSize ← replyFloat r "InsideAskSize"
  let insideBid ← replyFloat r "InsideBid"
  let insideBidSize ← replyFloat r "InsideBidSize"
  let lastTradePrice ← replyFloat r "LastTradePrice"
  let rejectReason ← replyText r "RejectReason"
  let isLockedIn ← replyBool r "IsLockedIn"
  let cancelReason ← replyText r "CancelReason"
  let omsId ← replyInt r "OMSId"
  some {
    side, orderId, price, quantity, displayQuantity, instrument, account, kind,
      clientOrderId, state,
    receiveTime, receiveTimeTicks, orderedQuantity, quantityExecuted, averagePrice, counterPartyId,
    changeReason, firstOrderId, firstClientOrderId, enteredBy, isQuote, insideAsk, insideAskSize,
    insideBid, insideBidSize, lastTradePrice, rejectReason, isLockedIn, cancelReason, omsId }

end ReportedOrder

namespace StatusReply

def ofJson? (v : Value) : Option StatusReply := do
  let r ← v.record? ["orders"]
  let orders ← lenient (Value.list? ReportedOrder.ofJson?) [] (r "orders")
  some { orders }

end StatusReply

namespace ReportedUser

def ofJson? (v : Value) : Option ReportedUser := do
  let r ← v.record? ["userId", "userName", "accountId", "omsId"]
  let userId ← replyInt r "userId"
  let userName ← replyText r "userName"
  let accountId ← replyInt r "accountId"
  let omsId ← replyInt r "omsId"
  some { userId, userName, accountId, omsId }

end ReportedUser

namespace LoginReply

def ofJson? (v : Value) : Option LoginReply := do
  let r ← v.record? ["authenticated", "user", "locked", "requires2FA", "errormsg"]
  let authenticated ← replyBool r "authenticated"
  let user ← Json.Field.optional (Value.nullable? ReportedUser.ofJson?) none (r "user")
  let locked ← replyBool r "locked"
  let needsSecondFactor ← replyBool r "requires2FA"
  let errorMessage ← replyText r "errormsg"
  some { authenticated, user, locked, needsSecondFactor, errorMessage }

end LoginReply

namespace ListedInstrument

def ofJson? (v : Value) : Option ListedInstrument := do
  let r ← v.record? ["InstrumentId", "Symbol", "Product1", "Product2"]
  let instrumentId ← replyInt r "InstrumentId"
  let symbol ← replyText r "Symbol"
  let baseProduct ← replyInt r "Product1"
  let quoteProduct ← replyInt r "Product2"
  some { instrumentId, symbol, baseProduct, quoteProduct }

end ListedInstrument

namespace InstrumentsReply

def ofJson? (v : Value) : Option InstrumentsReply := do
  let r ← v.record? ["instruments"]
  let instruments ← lenient (Value.list? ListedInstrument.ofJson?) [] (r "instruments")
  some { instruments }

end InstrumentsReply

namespace ListedProduct

def ofJson? (v : Value) : Option ListedProduct := do
  let r ← v.record? ["ProductId", "ProductName", "ProductType"]
  let productId ← replyInt r "ProductId"
  let name ← replyText r "ProductName"
  let kind ← replyText r "ProductType"
  some { productId, name, kind }

end ListedProduct

namespace ProductsReply

def ofJson? (v : Value) : Option ProductsReply := do
  let r ← v.record? ["products"]
  let products ← lenient (Value.list? ListedProduct.ofJson?) [] (r "products")
  some { products }

end ProductsReply

end VenueGateway
