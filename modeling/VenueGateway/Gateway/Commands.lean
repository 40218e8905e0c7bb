import VenueGateway.Desk.Requests
import VenueGateway.Gateway.Basic

/-!
Commands. An order is announced to all who listen before anything is sent, so it is tracked however
the sending ends; a cancellation is published first in the same way. A command that names an unknown
instrument, or no order, leaves no trace.
-/

namespace VenueGateway

open Json (Value)

inductive CommandError where
  | unknownInstrument (symbol : String)
  /-- The text names no order; it is kept as it was given. -/
  | invalidOrderId (text : String)
  | link (cause : LinkError)
  deriving DecidableEq, Repr

namespace CommandError

def message : CommandError → String
  | unknownInstrument symbol => "unknown instrument pair: " ++ symbol
  | invalidOrderId text => "invalid order id: " ++ text
  | link cause => cause.message

end CommandError

namespace Gateway

/-- Sends a request for an order, after a login. -/
def sendLoggedIn (g : Gateway) (operation : String) (payload : Value) :
    Gateway × Except CommandError Int64 :=
  let r := g.login
  match r.2 with
  | .error e => (r.1.count (.orderFailures .login), .error (.link e))
  | .ok () =>
    let s := r.1.send operation payload
    match s.2 with
    | .error e => (s.1.count (.orderFailures .send), .error (.link e))
    | .ok n => (s.1, .ok n)

def countSent (r : Gateway × Except CommandError Int64) (c : Counter) :
    Gateway × Except CommandError Int64 :=
  match r.2 with
  | .ok _ => (r.1.count c, r.2)
  | .error _ => r

/-- The event that announces an order. -/
def submission (g : Gateway) (c : SubmitOrder) : Event :=
  .orderSubmitted (.onAccount g.account c.id) c.trackingKey

/-- Submits an order, and tells the sequence number of its request. -/
def submit (g : Gateway) (c : SubmitOrder) : Gateway × Except CommandError Int64 :=
  match g.directory.id? c.instrumentPair with
  | none => (g.count (.orderFailures .unknownInstrument),
    .error (.unknownInstrument c.instrumentPair))
  | some instrumentId =>
    let request := OrderRequest.ofCommand g.account instrumentId c
    countSent ((g.announce (g.submission c)).sendLoggedIn Operation.sendOrder request.toJson)
      (.ordersSubmitted c.kind)

/-- Submits orders one after another, each with the link in a condition of its own. -/
def submitAll (g : Gateway) : List (LinkCondition × SubmitOrder) → Gateway
  | [] => g
  | (w, c) :: batch => submitAll ((g.under w).submit c).1 batch

def cancel (g : Gateway) (c : CancelOrder) : Gateway × Except CommandError Int64 :=
  match c.venueId? with
  | none => (g.count (.orderFailures .invalidOrderId), .error (.invalidOrderId c.orderId))
  | some orderId =>
    let request := CancelRequest.onAccount g.account orderId
    countSent
      ((g.publish (.orderCanceled c.orderId)).sendLoggedIn Operation.cancelOrder request.toJson)
      .orderCancels

def cancelAll (g : Gateway) : Gateway × Except CommandError Int64 :=
  g.sendLoggedIn Operation.cancelAllOrders (CancelAllRequest.onAccount g.account).toJson

def requestInstruments (g : Gateway) : Gateway × Except LinkError Int64 :=
  g.send Operation.instruments (ListRequest.mk g.account.omsId).toJson

def requestStatus (g : Gateway) (trade : TradeRef) : Gateway × Except LinkError Int64 :=
  g.send Operation.orderStatus (StatusRequest.ofTrade trade).toJson

end Gateway

end VenueGateway
