import VenueGateway.Event
import VenueGateway.Text.Numerals

/-!
The event bus: subscriptions, each for one kind of event and with a queue of bounded length, from
which a dispatcher of its own takes events. Subscriptions are named by their place in the list of
all that were ever made, so no name is used twice; one that has ended keeps its place, and its
dispatcher goes on until its queue is empty. `offer` is the only way into a queue and `take?` the
only way out.
-/

namespace VenueGateway

/-- A subscription. Its queue is given in order of acceptance. -/
structure Subscription (H : Type) where
  kind : EventKind
  handler : H
  queue : List Event := []
  /-- Whether events are still offered to it. -/
  subscribed : Bool := true
  /-- Whether its dispatcher still takes events. -/
  dispatching : Bool := true
  deriving Repr

/-- What became of an event that was offered to a queue. -/
inductive Admission where
  | accepted
  /-- The queue held as many events as it may. -/
  | full
  /-- Nobody takes events from the queue any more. -/
  | closed
  deriving DecidableEq, Repr

/-- A capacity of nought counts as one. -/
theorem max_one_pos (capacity : Nat) : 0 < max capacity 1 := by omega

/-- A bus whose handlers are named by values of `H`. -/
structure Bus (H : Type) where
  capacity : Nat
  capacity_pos : 0 < capacity
  subscriptions : List (Subscription H) := []
  /-- Whether dispatchers have been told to stop. -/
  stopping : Bool := false

namespace Subscription

variable {H : Type}

/-- Whether an event of the given kind is offered to a subscription. -/
def wants (s : Subscription H) (kind : EventKind) : Bool := s.subscribed && s.kind == kind

def offer (capacity : Nat) (s : Subscription H) (e : Event) : Subscription H × Admission :=
  if s.dispatching then
    if s.queue.length < capacity then ({ s with queue := s.queue ++ [e] }, .accepted)
      else (s, .full)
  else (s, .closed)

end Subscription

namespace Bus

variable {H : Type}

/-- A bus without subscriptions. A capacity of nought counts as one. -/
def new (capacity : Nat) : Bus H :=
  { capacity := max capacity 1, capacity_pos := max_one_pos capacity }

instance : Inhabited (Bus H) := ⟨new 1⟩

def subscribe (b : Bus H) (kind : EventKind) (handler : H) : Bus H × Nat :=
  ({ b with subscriptions := b.subscriptions ++ [{ kind, handler }] }, b.subscriptions.length)

/-- Ends a subscription, and tells whether there was one. What is in its queue stays there. -/
def unsubscribe (b : Bus H) (i : Nat) : Bus H × Bool :=
  match b.subscriptions[i]? with
  | some s =>
    if s.subscribed
      then ({ b with subscriptions := b.subscriptions.set i { s with subscribed := false } }, true)
    else (b, false)
  | none => (b, false)

/-- Ends all subscriptions and tells all dispatchers to stop, also those of later subscriptions. -/
def shutdown (b : Bus H) : Bus H :=
  { b with
    stopping := true
    subscriptions := b.subscriptions.map fun s => { s with subscribed := false } }

/-- The subscriptions to a kind, in order. -/
def recipients (b : Bus H) (kind : EventKind) : List Nat :=
  (List.range b.subscriptions.length).filter fun i => b.subscriptions[i]?.any (·.wants kind)

def handlers (b : Bus H) (kind : EventKind) : List H :=
  (b.subscriptions.filter (·.wants kind)).map (·.handler)

def audience (b : Bus H) (kind : EventKind) : Nat := b.subscriptions.countP (·.wants kind)

def subscribedCount (b : Bus H) : Nat := b.subscriptions.countP (·.subscribed)

def offer (b : Bus H) (i : Nat) (e : Event) : Bus H × Admission :=
  match b.subscriptions[i]? with
  | some s =>
    let r := s.offer b.capacity e
    ({ b with subscriptions := b.subscriptions.set i r.1 }, r.2)
  | none => (b, .closed)

/-- Offers an event to several queues, and counts those that accepted it and those that were
full. -/
def offerAll (b : Bus H) (e : Event) : List Nat → Bus H × Nat × Nat
  | [] => (b, 0, 0)
  | i :: is =>
    let r := b.offer i e
    let rest := offerAll r.1 e is
    match r.2 with
    | .accepted => (rest.1, rest.2.1 + 1, rest.2.2)
    | .full => (rest.1, rest.2.1, rest.2.2 + 1)
    | .closed => rest

/-- Offers an event to all its subscriptions without waiting for room. -/
def post (b : Bus H) (e : Event) : Bus H × Nat × Nat := b.offerAll e (b.recipients e.kind)

/-- The dispatcher of a subscription takes the next event from its queue. -/
def take? (b : Bus H) (i : Nat) : Option (H × Event × Bus H) :=
  match b.subscriptions[i]? with
  | some s =>
    match s.dispatching, s.queue with
    | true, e :: rest =>
      some (s.handler, e,
        { b with subscriptions := b.subscriptions.set i { s with queue := rest } })
    | _, _ => none
  | none => none

/-- A dispatcher that has been told to stop does so, and drops what is left in its queue. -/
def halt (b : Bus H) (i : Nat) : Bus H :=
  match b.subscriptions[i]? with
  | some s =>
    if b.stopping then
      { b with subscriptions := b.subscriptions.set i { s with dispatching := false, queue := [] } }
    else b
  | none => b

def pending (b : Bus H) : Nat := b.subscriptions.foldr (fun s n => s.queue.length + n) 0

/-- The subscriptions whose dispatchers have an event to take, in order. -/
def busy (b : Bus H) : List Nat :=
  (List.range b.subscriptions.length).filter fun i => (b.take? i).isSome

def describe (b : Bus H) : String :=
  "EventBus \x7b config: EventBusConfig \x7b queue_capacity: " ++ Text.ofNat b.capacity ++
    " \x7d, subscribers: " ++ Text.ofNat b.subscribedCount ++ ", .. \x7d"

end Bus

end VenueGateway
