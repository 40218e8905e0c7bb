import VenueGateway.Gateway.Basic
import VenueGateway.Target

/-!
The health page. A gateway without a connection to the venue is unhealthy, and while it connects it
is degraded; probes ask whether it lives and whether it is ready to take orders.
-/

namespace VenueGateway

open Json (Value)

inductive HealthStatus where
  | healthy
  | degraded
  | unhealthy
  deriving DecidableEq, Repr

namespace HealthStatus

/-- The status that goes with a connection. -/
def ofState : ConnectionState → HealthStatus
  | .connected => healthy
  | .connecting => degraded
  | .disconnected => unhealthy

def name : HealthStatus → String
  | healthy => "healthy"
  | degraded => "degraded"
  | unhealthy => "unhealthy"

end HealthStatus

/-- What the health page reports, apart from the time. -/
structure HealthReport where
  version : String
  state : ConnectionState
  tracked : Nat
  pollInterval : Duration
  /-- Whether there was a poll. -/
  polled : Bool
  instruments : Nat
  deriving DecidableEq, Repr

def Gateway.healthReport (g : Gateway) (version : String) : HealthReport := {
  version
  state := g.link.state
  tracked := g.tracker.trades.size
  pollInterval := g.tracker.pollInterval
  polled := g.tracker.lastPoll.isSome
  instruments := g.directory.size }

inductive HealthPage where
  | report
  | liveness
  | readiness
  | metrics
  deriving DecidableEq, Repr

namespace HealthPage

/-- The page at a path. -/
def ofPath? : String → Option HealthPage
  | "/health" => some report
  | "/healthz" => some liveness
  | "/readyz" => some readiness
  | "/metrics" => some metrics
  | _ => none

end HealthPage

/-- What stands on a page. -/
inductive PageBody where
  | empty
  | text (s : String)
  | report (r : HealthReport)
  | metrics
  deriving DecidableEq, Repr

structure PageAnswer where
  status : Nat
  contentType : Option String
  body : PageBody
  deriving DecidableEq, Repr

namespace HealthReport

def health (r : HealthReport) : HealthStatus := .ofState r.state

/-- Whether orders can be sent. -/
def isConnected (r : HealthReport) : Bool := r.state == .connected

/-- A status without a page. -/
def bare (status : Nat) : PageAnswer := ⟨status, none, .empty⟩

def plain (status : Nat) (s : String) : PageAnswer :=
  ⟨status, some "text/plain; charset=utf-8", .text s⟩

def page (r : HealthReport) : HealthPage → PageAnswer
  | .report => ⟨if r.health = .unhealthy then 503 else 200, some "application/json", .report r⟩
  | .liveness => plain 200 "OK"
  | .readiness => if r.isConnected then plain 200 "READY" else plain 503 "NOT READY"
  | .metrics => ⟨200, some "text/plain; version=0.0.4; charset=utf-8", .metrics⟩

/-- The answer to a request for a path. A page can only be read, with its body or without. -/
def answer (r : HealthReport) (method path : String) : PageAnswer :=
  match HealthPage.ofPath? path with
  | none => bare 404
  | some p =>
    match method with
    | "GET" => r.page p
    | "HEAD" => { r.page p with body := .empty }
    | _ => bare 405

def isMethodChar (c : Char) : Bool :=
  c.isAlphanum || "!#$%&'*+-.^_|~".toList.contains c || c.toNat == 0x60

/-- The answer to a request as it was made. There is none where its method or its target is
malformed. -/
def respond? (r : HealthReport) (method target : String) : Option PageAnswer :=
  if !method.isEmpty && method.toList.all isMethodChar
    then (Target.path? target).map (r.answer method) else none

/-- A report as JSON, given what stands for the times in it. -/
def toJson (r : HealthReport) (uptime currentTime lastPoll : Value) : Value :=
  .fields [
    ("status", .text r.health.name), ("version", .text r.version), ("uptime_secs", uptime),
    ("current_time", currentTime),
    ("venue", .fields [("state", .text r.state.name), ("connected", .bool r.isConnected)]),
    ("orders", .fields [
      ("tracked", .int r.tracked), ("poll_interval_secs", .int r.pollInterval.seconds),
        ("last_poll", lastPoll)]),
    ("instruments", .int r.instruments)]

end HealthReport

/-- Why serving the pages ended, unless it was told to. -/
inductive HealthServerError where
  | bindFailed (port : Nat) (cause : String)
  | serverFailed (cause : String)
  deriving DecidableEq, Repr

def HealthServerError.message : HealthServerError → String
  | bindFailed port cause => "failed to bind to port " ++ Text.ofNat port ++ ": " ++ cause
  | serverFailed cause => "server error: " ++ cause

/-- Who serves the pages at a port. -/
structure HealthServer where
  port : Nat
  listening : Bool := false
  /-- Whether it was told to stop. -/
  cancelled : Bool := false
  /-- How it ended, once it has. -/
  result : Option (Except HealthServerError Unit) := none

namespace HealthServer

def bind (s : HealthServer) : Except String Unit → HealthServer
  | .ok () => { s with listening := true }
  | .error cause => { s with result := some (.error (.bindFailed s.port cause)) }

def cancel (s : HealthServer) : HealthServer := { s with cancelled := true }

/-- Serves what there is to serve. It goes on until it was told to stop, or fails. -/
def serve (s : HealthServer) (failure : Option String) : HealthServer :=
  if s.listening then
    match failure with
    | some cause => { s with listening := false, result := some (.error (.serverFailed cause)) }
    | none => if s.cancelled then { s with listening := false, result := some (.ok ()) } else s
  else s

def ended (s : HealthServer) : Bool := s.result.isSome

end HealthServer

end VenueGateway
