import VenueGateway.Assoc
import VenueGateway.Binary64.Whole
import VenueGateway.Event

/-!
What is counted while the gateway runs: counters, some of them split by a label, and two gauges. The
metrics page names each of them and says what it means.
-/

namespace VenueGateway

/-- Why an order command failed. -/
inductive FailureReason where
  | unknownInstrument
  | invalidOrderId
  | login
  | send
  deriving DecidableEq, Repr

namespace FailureReason

def name : FailureReason → String
  | unknownInstrument => "unknown_instrument"
  | invalidOrderId => "invalid_order_id"
  | login => "login"
  | send => "send"

end FailureReason

/-- What became of a status query. -/
inductive QueryResult where
  | sent
  | failed
  deriving DecidableEq, Repr

namespace QueryResult

def name : QueryResult → String
  | sent => "sent"
  | failed => "failed"

end QueryResult

/-- A number that only grows. Operations are counted by their key, in which ASCII letters are
small. -/
inductive Counter where
  | framesReceived (route : String)
  | framesSent (route : String)
  | parseFailures
  | reconnects
  | ordersSubmitted (kind : OrderKind)
  | orderCancels
  | orderFailures (reason : FailureReason)
  | eventsPublished (kind : EventKind)
  | eventsDropped (kind : EventKind)
  | statusQueries (outcome : QueryResult)
  deriving DecidableEq, Repr

/-- All counts. -/
structure Metrics where
  counters : Assoc Counter Nat := .empty
  trackedOrders : Nat := 0
  connected : Bool := false
  deriving Repr, Inhabited

namespace Metrics

def count (m : Metrics) (c : Counter) : Nat := (m.counters.get? c).getD 0

def add (m : Metrics) (c : Counter) (n : Nat) : Metrics :=
  { m with counters := m.counters.insert c (m.count c + n) }

def increment (m : Metrics) (c : Counter) : Metrics := m.add c 1

def setTracked (m : Metrics) (n : Nat) : Metrics := { m with trackedOrders := n }

def setConnected (m : Metrics) (b : Bool) : Metrics := { m with connected := b }

def frameReceived (m : Metrics) (operation : String) : Metrics :=
  m.increment (.framesReceived (Text.lower operation))

def frameSent (m : Metrics) (operation : String) : Metrics :=
  m.increment (.framesSent (Text.lower operation))

theorem count_add (m : Metrics) (c d : Counter) (n : Nat) :
    (m.add c n).count d = if c = d then m.count c + n else m.count d := by
  simp only [count, add, Assoc.get?_insert]
  split <;> simp

@[simp] theorem trackedOrders_add (m : Metrics) (c : Counter) (n : Nat) :
    (m.add c n).trackedOrders = m.trackedOrders := rfl
@[simp] theorem trackedOrders_increment (m : Metrics) (c : Counter) :
    (m.increment c).trackedOrders = m.trackedOrders := rfl
@[simp] theorem count_setTracked (m : Metrics) (n : Nat) (c : Counter) :
    (m.setTracked n).count c = m.count c := rfl

/-- A number as it is read off the page, in floating point. -/
def reading (n : Nat) : Nat := Binary64.nearestNat n

/-- The counters that counted anything. -/
def counted (m : Metrics) : List (Counter × Nat) := m.counters.entries.filter (·.2 ≠ 0)

end Metrics

/-- A metric as the page lists it. -/
structure MetricInfo where
  name : String
  form : String
  help : String
  deriving DecidableEq, Repr

namespace MetricInfo

/-- What all names on the page begin with. -/
def namespaceText : String := "kiiex_gateway_"

/-- The metrics in the order of their names. -/
def all : List MetricInfo := [
  ⟨"connection_state", "gauge", "Venue connection state (1 = connected)"⟩,
  ⟨"envelopes_received_total", "counter", "Total frames received from the venue by operation"⟩,
  ⟨"envelopes_sent_total", "counter", "Total request frames sent to the venue by operation"⟩,
  ⟨"events_dropped_total", "counter",
    "Total domain events dropped because a subscriber queue was full"⟩,
  ⟨"events_published_total", "counter", "Total domain events delivered to subscribers"⟩,
  ⟨"order_cancels_total", "counter", "Total cancel requests sent to the venue"⟩,
  ⟨"order_failures_total", "counter", "Total order commands that failed before reaching the venue"⟩,
  ⟨"orders_submitted_total", "counter", "Total orders sent to the venue"⟩,
  ⟨"parse_failures_total", "counter",
    "Total inbound frames dropped because they could not be decoded"⟩,
  ⟨"reconnects_total", "counter", "Total venue reconnection attempts"⟩,
  ⟨"send_seconds", "summary", "Time to write one request frame to the venue"⟩,
  ⟨"status_queries_total", "counter", "Total order status queries issued by reconciliation"⟩,
  ⟨"tracked_orders", "gauge", "Orders awaiting a terminal state"⟩]

def helpLine (i : MetricInfo) : String := "# HELP " ++ namespaceText ++ i.name ++ " " ++ i.help

def typeLine (i : MetricInfo) : String := "# TYPE " ++ namespaceText ++ i.name ++ " " ++ i.form

/-- The lines of the page that do not depend on what was counted. -/
def lines : List String := all.map helpLine ++ all.map typeLine

end MetricInfo

namespace Counter

/-- The characters of a label value. Quotes and line ends are escaped; a backslash is doubled unless
it is one of a pair or stands before a quote. `held` says that a backslash waits to be written. -/
def labelChars (held : Bool) : List Char → List Char
  | [] => if held then ['\\', '\\'] else []
  | c :: cs =>
    if c = '\n' then '\\' :: 'n' :: labelChars held cs
    else if c = '"' then '\\' :: '"' :: labelChars false cs
    else if c = '\\' then
      if held then '\\' :: '\\' :: labelChars false cs else labelChars true cs
    else (if held then ['\\', '\\'] else []) ++ c :: labelChars false cs

def labelled (name label value : String) : String :=
  name ++ "\x7b" ++ label ++ "=\"" ++ String.ofList (labelChars false value.toList) ++ "\"\x7d"

/-- A counter as the page names it. -/
def text : Counter → String
  | framesReceived key => labelled "envelopes_received_total" "operation" key
  | framesSent key => labelled "envelopes_sent_total" "operation" key
  | parseFailures => "parse_failures_total"
  | reconnects => "reconnects_total"
  | ordersSubmitted kind => labelled "orders_submitted_total" "order_type" kind.name
  | orderCancels => "order_cancels_total"
  | orderFailures reason => labelled "order_failures_total" "reason" reason.name
  | eventsPublished kind => labelled "events_published_total" "event" kind.name
  | eventsDropped kind => labelled "events_dropped_total" "event" kind.name
  | statusQueries outcome => labelled "status_queries_total" "outcome" outcome.name

end Counter

end VenueGateway
