import VenueGateway.Order.Command
import VenueGateway.Order.Identity
import VenueGateway.Venue.Request

/-!
From commands to requests: what the venue is asked for when the platform wants an order placed or
cancelled, or its state known.
-/

namespace VenueGateway

namespace OrderRequest

/-- The price that goes with an order, which is nought for a kind without a limit. -/
def priceOf (c : SubmitOrder) : Float :=
  if c.kind.hasLimitPrice then (c.price.map Decimal.toFloat).getD 0 else 0

/-- The request that places an order on an account. It is filled at once and in whole, or not at
all. -/
def ofCommand (account : Account) (instrumentId : Int64) (c : SubmitOrder) : OrderRequest := {
  instrumentId
  omsId := account.omsId
  accountId := account.accountId
  timeInForce := TimeInForce.fillOrKill.code
  clientOrderId := c.id
  orderIdOco := 0
  useDisplayQuantity := false
  side := c.side.code
  quantity := c.quantity.toFloat
  kind := c.kind.code
  pegPriceKind := 0
  limitPrice := priceOf c }

end OrderRequest

namespace CancelOrder

/-- The venue's number for the order, where the command names one. -/
def venueId? (c : CancelOrder) : Option Int64 := Text.int64? (Text.trim c.orderId)

end CancelOrder

def CancelRequest.onAccount (account : Account) (orderId : Int64) : CancelRequest :=
  ⟨account.omsId, account.accountId, 0, orderId⟩

def CancelAllRequest.onAccount (account : Account) : CancelAllRequest :=
  ⟨account.omsId, account.accountId⟩

def StatusRequest.ofTrade (trade : TradeRef) : StatusRequest :=
  ⟨trade.omsId, trade.accountId, trade.orderId⟩

end VenueGateway
