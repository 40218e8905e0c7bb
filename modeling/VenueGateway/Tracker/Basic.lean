import VenueGateway.Bus.Hub
import VenueGateway.Duration
import VenueGateway.Text.Blank

/-!
The tracker keeps the orders that were submitted and whose end has not been seen, each under its
key. An attempted cancel ends the order with its number, and a fill that leaves nothing ends the
order it names, by key or else by number. Where several entries match, the first that is met goes;
the order in which entries are met is a parameter, since nothing may depend on it.
-/

namespace VenueGateway

/-- The result of asking for the state of every tracked order. -/
structure PollTally where
  queried : Nat
  failed : Nat
  deriving DecidableEq, Repr

structure Tracker where
  trades : Assoc String TradeRef := .empty
  pollInterval : Duration := .ofSeconds 300
  lastPoll : Option PollTally := none
  /-- Whether polling has been stopped for good. -/
  stopped : Bool := false
  deriving Repr, Inhabited

namespace Tracker

def defaultPollInterval : Duration := .ofSeconds 300

/-- A tracker without orders. An interval of nought stands for the default. -/
def new (pollInterval : Duration) : Tracker :=
  { pollInterval := if pollInterval.millis = 0 then defaultPollInterval else pollInterval }

def subscribedKinds : List EventKind := [.orderSubmitted, .attemptedCancel, .fillArrived]

/-- A tracked order with its key. -/
abbrev Entry := String × TradeRef

def track (t : Tracker) (key : String) (trade : TradeRef) : Tracker :=
  { t with trades := t.trades.insert key trade }

def untrack (t : Tracker) (key : String) : Tracker := { t with trades := t.trades.erase key }

/-- The key of the first entry met whose number is among the given ones. -/
def keyOf? (order : VisitOrder Entry) (t : Tracker) (ids : List Int64) : Option String :=
  ((order.arrange t.trades.entries).find? fun e => ids.contains e.2.orderId).map Prod.fst

/-- Whether a text of the quantity that is left says that nothing is. -/
def saysNothingLeft (leaves : String) : Bool :=
  (Decimal.ofText? (Text.trim leaves)).any Decimal.isZero

/-- The number that a text spells, unless it is nought. -/
def nonzeroId? (s : String) : Option Int64 := (Text.int64? (Text.trim s)).filter (· ≠ 0)

/-- The numbers under which a fill may name its order. -/
def candidates (f : Fill) : List Int64 := [f.clientOrderId, f.fillId].filterMap nonzeroId?

/-- The key of the order that an attempted cancel ends. The number nought names no order. -/
def canceledKey? (order : VisitOrder Entry) (t : Tracker) (orderId : Int64) : Option String :=
  if orderId = 0 then none else t.keyOf? order [orderId]

/-- The key of the order that a fill ends. -/
def filledKey? (order : VisitOrder Entry) (t : Tracker) (f : Fill) : Option String :=
  if saysNothingLeft f.quantityLeaves then
    if f.orderId ≠ "" ∧ t.trades.contains f.orderId then some f.orderId
      else t.keyOf? order (candidates f)
  else none

/-- A reaction that leaves tracker and counts as they were. -/
def unmoved (t : Tracker) (m : Metrics) : Reaction Tracker := { world := t, metrics := m }

/-- A reaction that shows the new number of tracked orders. -/
def moved (t : Tracker) (m : Metrics) (offers : List Event) : Reaction Tracker :=
  { world := t, metrics := m.setTracked t.trades.size, offers }

/-- Handles an event. The end of an order by an attempted cancel is announced. -/
def handle (order : VisitOrder Entry) (t : Tracker) (e : Event) (m : Metrics) : Reaction Tracker :=
  match e with
  | .orderSubmitted trade key => moved (t.track key trade) m []
  | .attemptedCancel orderId =>
    match t.canceledKey? order orderId with
    | some key => moved (t.untrack key) m [.orderCanceled key]
    | none => t.unmoved m
  | .fillArrived fill =>
    match t.filledKey? order fill with
    | some key => moved (t.untrack key) m []
    | none => t.unmoved m
  | .orderCanceled _ => t.unmoved m

/-- An event to be handled, and the order in which entries are met when it is. -/
structure Handling where
  visits : VisitOrder Entry
  event : Event

/-- Handles events one after another. What is offered meanwhile is kept in order. -/
def handleAll (t : Tracker) (m : Metrics) : List Handling → Reaction Tracker
  | [] => t.unmoved m
  | h :: hs =>
    let r := t.handle h.visits h.event m
    let rest := handleAll r.world r.metrics hs
    { rest with offers := r.offers ++ rest.offers }

def stop (t : Tracker) : Tracker := { t with stopped := true }

def describe (t : Tracker) : String :=
  "ReconciliationTracker \x7b tracked: " ++ Text.ofNat t.trades.size ++ ", poll_interval: " ++
    t.pollInterval.text ++ ", stopped: " ++ (if t.stopped then "true" else "false") ++ ", .. \x7d"

end Tracker

end VenueGateway
