import VenueGateway.Desk.Replies
import VenueGateway.Outbox
import VenueGateway.Tracker.Polling
import VenueGateway.Venue.Link
import VenueGateway.Venue.Session

/-!
The gateway: an account, what is known of instruments, the session and the link to the venue, and
the bus with all who listen on it. Whatever it does towards others is a publication or a frame the
venue accepts, and `trace` keeps both in the order in which they happened.
-/

namespace VenueGateway

open Json (Value)

/-- Those who listen on the bus. -/
inductive Listener where
  | tracker
  | outbox
  /-- One who only watches, and perhaps breaks off afterwards. -/
  | observer (name : Nat) (panics : Bool)
  deriving DecidableEq, Repr

/-- What listeners act on. -/
structure Floor where
  tracker : Tracker := .new ⟨0⟩
  outbox : Outbox := .new 1
  /-- What observers saw, in order. -/
  observed : List (Nat × Event) := []

namespace Floor

instance : Inhabited Floor := ⟨{}⟩

end Floor

namespace Listener

/-- What a listener does with an event. -/
def react (order : VisitOrder Tracker.Entry) : Reactor Listener Floor
  | tracker, e, w, m =>
    let r := w.tracker.handle order e m
    { world := { w with tracker := r.world }, metrics := r.metrics, offers := r.offers }
  | outbox, e, w, m => { world := { w with outbox := w.outbox.handle e }, metrics := m }
  | observer name panics, e, w, m =>
    { world := { w with observed := w.observed ++ [(name, e)] }, metrics := m, panicked := panics }

/-- Subscribes a listener to several kinds of events. -/
def subscribeTo (listener : Listener) (kinds : List EventKind) (b : Bus Listener) : Bus Listener :=
  kinds.foldl (fun b kind => (b.subscribe kind listener).1) b

end Listener

/-- What is done with a reply. -/
inductive ReplyHandler where
  | reply (kind : ReplyKind)
  /-- The outcome of a login is not acted upon. -/
  | login
  /-- The reply is put down under a tag. -/
  | note (tag : String)
  deriving DecidableEq, Repr

/-- Something that others can see the gateway do. -/
inductive Act where
  | published (e : Event)
  | sent (f : Frame)
  deriving DecidableEq, Repr

structure Gateway where
  account : Account
  provider : String := "kiiex"
  directory : Directory := .empty
  session : Session ReplyHandler := {}
  link : Link := {}
  hub : Hub Listener Floor
  /-- The polling loops that were started, the latest first. -/
  loops : List PollLoop := []
  /-- How the tracker walks through its orders. -/
  visits : VisitOrder Tracker.Entry := .asKept
  /-- How dispatchers take turns. -/
  schedule : Turns := .inOrder
  /-- Whether the platform takes the messages it is offered. -/
  platformAccepts : Bool := true
  /-- The messages that the platform took. -/
  shipped : List PlatformMessage := []
  trace : List Act := []
  /-- The replies that were put down. -/
  noted : List (String × Frame) := []

namespace Gateway

/-- The handlers of a session in the order of their registration. -/
def replyHandlers : List (String × ReplyHandler) := [
  (Operation.authenticate, .login),
  (Operation.sendOrder, .reply .order),
  (Operation.cancelOrder, .reply .cancel),
  (Operation.orderStatus, .reply .status),
  (Operation.instruments, .reply .instruments)]

/-- The bus of a gateway, with observers in front of tracker and outbox. -/
def newBus (capacity : Nat) (observers : List EventKind) : Bus Listener :=
  let b :=
    observers.zipIdx.foldl (fun b o => (b.subscribe o.1 (.observer o.2 false)).1) (Bus.new capacity)
  Listener.outbox.subscribeTo Outbox.subscribedKinds
    (Listener.tracker.subscribeTo Tracker.subscribedKinds b)

def new (account : Account) (provider : String) (credentials : Option Credentials)
    (directory : Directory) (capacity : Nat) (pollInterval : Duration)
    (observers : List EventKind) : Gateway :=
  let tracker := Tracker.new pollInterval
  { account, provider, directory
    session := ({ credentials } : Session ReplyHandler).registerAll replyHandlers
    hub := { bus := newBus capacity observers, world := { tracker, outbox := .new capacity } } }

def tracker (g : Gateway) : Tracker := g.hub.world.tracker

def outbox (g : Gateway) : Outbox := g.hub.world.outbox

def metrics (g : Gateway) : Metrics := g.hub.metrics

def count (g : Gateway) (c : Counter) : Gateway :=
  { g with hub := { g.hub with metrics := g.hub.metrics.increment c } }

def reactor (g : Gateway) : Reactor Listener Floor := Listener.react g.visits

/-- Publishes without waiting for room. -/
def offer (g : Gateway) (e : Event) : Gateway :=
  { g with hub := (g.hub.post e).1, trace := g.trace ++ [.published e] }

/-- Publishes, waiting for room where it must. -/
def publish (g : Gateway) (e : Event) : Gateway :=
  { g with hub := (g.hub.publish g.schedule g.reactor e).1, trace := g.trace ++ [.published e] }

/-- Publishes, and goes on when all who listen have handled the event. -/
def announce (g : Gateway) (e : Event) : Gateway :=
  { g with hub := (g.hub.announce g.reactor e).1, trace := g.trace ++ [.published e] }

/-- Sends a request, and tells its sequence number. -/
def send (g : Gateway) (operation : String) (payload : Value) : Gateway × Except LinkError Int64 :=
  let r := g.link.send operation payload.wire
  let sent := match r.2 with
    | .ok _ => [Act.sent (g.link.nextFrame operation payload.wire)]
    | .error _ => []
  ({ g with link := r.1, trace := g.trace ++ sent }, r.2)

/-- Logs in, where there are credentials. -/
def login (g : Gateway) : Gateway × Except LinkError Unit :=
  match g.session.loginRequest? with
  | none => (g, .ok ())
  | some q =>
    let r := g.send Operation.authenticate q.toJson
    (r.1, r.2.map fun _ => ())

/-- The gateway with its link in another condition. -/
def under (g : Gateway) (w : LinkCondition) : Gateway :=
  { g with link := { g.link with state := w.state, refusal := w.refusal } }

/-- Lets all that was published be handled, and then all that waits in the outbox be delivered. -/
def settle (g : Gateway) : Gateway :=
  let hub := g.hub.settle g.schedule g.reactor
  let r := hub.world.outbox.settle g.platformAccepts
  { g with
    hub := { hub with world := { hub.world with outbox := r.1 } }
    shipped := g.shipped ++ r.2 }

end Gateway

end VenueGateway
