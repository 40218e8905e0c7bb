import VenueGateway.Json.Field

/-!
How orders are identified at the venue: the account that orders are placed on, and the reference
that goes with an order from its submission until it is settled.
-/

namespace VenueGateway

/-- The account that orders are placed on. -/
structure Account where
  omsId : Int64
  accountId : Int64
  deriving DecidableEq, Repr, Inhabited

/-- What the venue is told about an order: its account, and our number for it. -/
structure TradeRef where
  omsId : Int64
  accountId : Int64
  orderId : Int64
  deriving DecidableEq, Repr, Inhabited

namespace TradeRef

def onAccount (account : Account) (orderId : Int64) : TradeRef :=
  ⟨account.omsId, account.accountId, orderId⟩

def fieldNames : List String := ["omsId", "accountId", "orderId"]

def toJson (t : TradeRef) : Json.Value :=
  .fields [("omsId", .int64 t.omsId), ("accountId", .int64 t.accountId),
    ("orderId", .int64 t.orderId)]

def ofJson? (v : Json.Value) : Option TradeRef := do
  let r ← v.record? fieldNames
  let omsId ← Json.Field.required Json.Value.int64? (r "omsId")
  let accountId ← Json.Field.required Json.Value.int64? (r "accountId")
  let orderId ← Json.Field.required Json.Value.int64? (r "orderId")
  some ⟨omsId, accountId, orderId⟩

end TradeRef

end VenueGateway
