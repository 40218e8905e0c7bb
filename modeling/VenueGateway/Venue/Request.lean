import VenueGateway.Json.Field
import VenueGateway.Json.Printer
import VenueGateway.Text.Quoted

/-!
What the venue is asked for. Each request has its fields in a fixed order; on the wire they are
sorted by name, the capitals first.
-/

namespace VenueGateway

open Json (Value)

namespace Operation

def authenticate : String := "AuthenticateUser"
def logOut : String := "LogOut"
def sendOrder : String := "SendOrder"
def cancelOrder : String := "CancelOrder"
def cancelAllOrders : String := "CancelAllOrders"
def orderStatus : String := "GetOrderStatus"
def instruments : String := "GetInstruments"
def products : String := "GetProducts"
def userAccounts : String := "GetUserAccounts"

end Operation

/-- To place an order. -/
structure OrderRequest where
  instrumentId : Int64
  omsId : Int64
  accountId : Int64
  timeInForce : Int32
  clientOrderId : Int64
  orderIdOco : Int64
  useDisplayQuantity : Bool
  side : Int32
  quantity : Float
  kind : Int32
  pegPriceKind : Int32
  limitPrice : Float
  deriving Repr

/-- To cancel an order. -/
structure CancelRequest where
  omsId : Int64
  accountId : Int64
  clientOrderId : Int64
  orderId : Int64
  deriving DecidableEq, Repr

/-- To cancel all orders of an account. -/
structure CancelAllRequest where
  omsId : Int64
  accountId : Int64
  deriving DecidableEq, Repr

/-- To log in. -/
structure LoginRequest where
  apiKey : String
  signature : String
  userId : Int64
  nonce : String
  deriving DecidableEq, Repr

/-- To learn the state of an order. -/
structure StatusRequest where
  omsId : Int64
  accountId : Int64
  orderId : Int64
  deriving DecidableEq, Repr

/-- To list what an order management system has. -/
structure ListRequest where
  omsId : Int64
  deriving DecidableEq, Repr

/-- To list the accounts of a user. -/
structure AccountsRequest where
  omsId : Int64
  userId : Int64
  username : String
  deriving DecidableEq, Repr

/-- To log out. -/
structure LogoutRequest where
  deriving DecidableEq, Repr

def Json.Value.int32 (n : Int32) : Value := .int n.toInt

open Json.Field (required)

namespace OrderRequest

def toJson (q : OrderRequest) : Value :=
  .fields [
    ("InstrumentId", .int64 q.instrumentId), ("OMSId", .int64 q.omsId),
    ("AccountId", .int64 q.accountId), ("TimeInForce", .int32 q.timeInForce),
    ("ClientOrderId", .int64 q.clientOrderId), ("OrderIdOCO", .int64 q.orderIdOco),
    ("UseDisplayQuantity", .bool q.useDisplayQuantity), ("Side", .int32 q.side),
    ("quantity", .real q.quantity), ("OrderType", .int32 q.kind),
    ("PegPriceType", .int32 q.pegPriceKind), ("LimitPrice", .real q.limitPrice)]

def ofJson? (v : Value) : Option OrderRequest := do
  let r ← v.record? ["InstrumentId", "OMSId", "AccountId", "TimeInForce", "ClientOrderId",
    "OrderIdOCO", "UseDisplayQuantity", "Side", "quantity", "OrderType", "PegPriceType",
    "LimitPrice"]
  let instrumentId ← required Value.int64? (r "InstrumentId")
  let omsId ← required Value.int64? (r "OMSId")
  let accountId ← required Value.int64? (r "AccountId")
  let timeInForce ← required Value.int32? (r "TimeInForce")
  let clientOrderId ← required Value.int64? (r "ClientOrderId")
  let orderIdOco ← required Value.int64? (r "OrderIdOCO")
  let useDisplayQuantity ← required Value.bool? (r "UseDisplayQuantity")
  let side ← required Value.int32? (r "Side")
  let quantity ← required Value.float? (r "quantity")
  let kind ← required Value.int32? (r "OrderType")
  let pegPriceKind ← required Value.int32? (r "PegPriceType")
  let limitPrice ← required Value.float? (r "LimitPrice")
  some {
    instrumentId, omsId, accountId, timeInForce, clientOrderId, orderIdOco,
      useDisplayQuantity, side,
    quantity, kind, pegPriceKind, limitPrice }

end OrderRequest

namespace CancelRequest

def toJson (q : CancelRequest) : Value :=
  .fields [
    ("OMSId", .int64 q.omsId), ("AccountId", .int64 q.accountId),
    ("ClOrderId", .int64 q.clientOrderId), ("OrderId", .int64 q.orderId)]

def ofJson? (v : Value) : Option CancelRequest := do
  let r ← v.record? ["OMSId", "AccountId", "ClOrderId", "OrderId"]
  let omsId ← required Value.int64? (r "OMSId")
  let accountId ← required Value.int64? (r "AccountId")
  let clientOrderId ← required Value.int64? (r "ClOrderId")
  let orderId ← required Value.int64? (r "OrderId")
  some ⟨omsId, accountId, clientOrderId, orderId⟩

end CancelRequest

namespace CancelAllRequest

def toJson (q : CancelAllRequest) : Value :=
  .fields [("OMSId", .int64 q.omsId), ("AccountId", .int64 q.accountId)]

def ofJson? (v : Value) : Option CancelAllRequest := do
  let r ← v.record? ["OMSId", "AccountId"]
  let omsId ← required Value.int64? (r "OMSId")
  let accountId ← required Value.int64? (r "AccountId")
  some ⟨omsId, accountId⟩

end CancelAllRequest

namespace LoginRequest

def toJson (q : LoginRequest) : Value :=
  .fields [
    ("APIKey", .text q.apiKey), ("Signature", .text q.signature), ("UserId", .int64 q.userId),
    ("Nonce", .text q.nonce)]

def ofJson? (v : Value) : Option LoginRequest := do
  let r ← v.record? ["APIKey", "Signature", "UserId", "Nonce"]
  let apiKey ← required Value.text? (r "APIKey")
  let signature ← required Value.text? (r "Signature")
  let userId ← required Value.int64? (r "UserId")
  let nonce ← required Value.text? (r "Nonce")
  some ⟨apiKey, signature, userId, nonce⟩

/-- A login as diagnostics show it, without key and signature. -/
def describe (q : LoginRequest) : String :=
  "AuthenticateUserRequest \x7b api_key: \"[REDACTED]\", signature: \"[REDACTED]\", user_id: " ++
    Text.ofInt64 q.userId ++ ", nonce: " ++ Text.quote q.nonce ++ " \x7d"

end LoginRequest

namespace StatusRequest

def toJson (q : StatusRequest) : Value :=
  .fields [("omsId", .int64 q.omsId), ("accountId", .int64 q.accountId),
    ("orderId", .int64 q.orderId)]

def ofJson? (v : Value) : Option StatusRequest := do
  let r ← v.record? ["omsId", "accountId", "orderId"]
  let omsId ← required Value.int64? (r "omsId")
  let accountId ← required Value.int64? (r "accountId")
  let orderId ← required Value.int64? (r "orderId")
  some ⟨omsId, accountId, orderId⟩

end StatusRequest

namespace ListRequest

def toJson (q : ListRequest) : Value := .fields [("OMSId", .int64 q.omsId)]

def ofJson? (v : Value) : Option ListRequest := do
  let r ← v.record? ["OMSId"]
  let omsId ← required Value.int64? (r "OMSId")
  some ⟨omsId⟩

end ListRequest

namespace AccountsRequest

def toJson (q : AccountsRequest) : Value :=
  .fields [("omsId", .int64 q.omsId), ("userId", .int64 q.userId), ("username", .text q.username)]

def ofJson? (v : Value) : Option AccountsRequest := do
  let r ← v.record? ["omsId", "userId", "username"]
  let omsId ← required Value.int64? (r "omsId")
  let userId ← required Value.int64? (r "userId")
  let username ← required Value.text? (r "username")
  some ⟨omsId, userId, username⟩

end AccountsRequest

namespace LogoutRequest

def toJson (_ : LogoutRequest) : Value := .fields []

def ofJson? (v : Value) : Option LogoutRequest := do
  let _ ← v.record? []
  some ⟨⟩

end LogoutRequest

namespace Json.Value

/-- Sorts the members of an object by key. Keys are compared as texts are, by the numbers of their
characters, which is also the order of their bytes. -/
def sortMembers : Value → Value
  | .object members => .object (members.mergeSort fun m n => (m.1.getD "") ≤ (n.1.getD ""))
  | v => v

/-- A request as it goes on the wire. -/
def wire (v : Value) : String := v.sortMembers.print

end Json.Value

end VenueGateway
