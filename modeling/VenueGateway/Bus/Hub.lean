import VenueGateway.Bus.Basic
import VenueGateway.Metrics

/-!
A bus together with the world its handlers act on. A reaction of a handler changes that world and
offers further events; that it breaks off is noted, and makes no difference to anybody else. Every
change is one of a few steps, `Hub.Action`, which may come in any order. Dispatchers run side by
side, so where several have something to do `Turns` says who goes next; `settle` lets them run until
nothing is left to do.
-/

namespace VenueGateway

/-- What a handler did with an event. -/
structure Reaction (W : Type) where
  world : W
  metrics : Metrics
  /-- The events it offered on the bus, without waiting for room. -/
  offers : List Event := []
  /-- Whether it broke off. -/
  panicked : Bool := false

/-- How the handlers named by `H` act on a world. -/
abbrev Reactor (H W : Type) := H → Event → W → Metrics → Reaction W

/-- A publication that waits for room where it must: the subscriptions still to be served, in
order. -/
structure Broadcast where
  event : Event
  targets : List Nat
  reached : Nat := 0
  deriving DecidableEq, Repr

/-- Who goes next where several could. The choice is free at every step. -/
structure Turns where
  pick : Nat → List Nat → Nat
  pick_mem : ∀ n i is, pick n (i :: is) ∈ i :: is
  /-- Whether dispatchers go before a publication that need not wait, told whether one of them went
  last. -/
  yields : Nat → Bool → Bool
  /-- Whether a dispatcher that was told to stop does so before it takes another event. -/
  stops : Nat → Bool

/-- The first subscription goes first, and dispatchers that have begun go on until nothing is left
to do. -/
def Turns.inOrder : Turns where
  pick _ is := is.headD 0
  pick_mem _ _ _ := List.mem_cons_self
  yields _ working := working
  stops _ := true

instance : Inhabited Turns := ⟨.inOrder⟩

/-- A bus, its world and what was counted. -/
structure Hub (H W : Type) where
  bus : Bus H
  world : W
  metrics : Metrics := {}
  /-- The publications that have begun and not yet ended. -/
  broadcasts : List Broadcast := []

namespace Hub

variable {H W : Type}

/-- Publishes without waiting, and tells how many queues accepted the event. -/
def post (h : Hub H W) (e : Event) : Hub H W × Nat :=
  let r := h.bus.post e
  ({ h with
      bus := r.1
      metrics :=
        (h.metrics.add (.eventsDropped e.kind) r.2.2).add (.eventsPublished e.kind) r.2.1 }, r.2.1)

/-- Runs one handler on an event, and publishes what it offers. -/
def invoke (react : Reactor H W) (h : Hub H W) (handler : H) (e : Event) : Hub H W :=
  let r := react handler e h.world h.metrics
  r.offers.foldl (fun h e => (h.post e).1) { h with world := r.world, metrics := r.metrics }

/-- Runs all handlers of an event at once, in the order of their subscriptions, and tells their
number. -/
def announce (react : Reactor H W) (h : Hub H W) (e : Event) : Hub H W × Nat :=
  let handlers := h.bus.handlers e.kind
  let h := handlers.foldl (fun h handler => h.invoke react handler e) h
  ({ h with metrics := h.metrics.add (.eventsPublished e.kind) handlers.length }, handlers.length)

/-- Lets one dispatcher take an event and run its handler, where there is an event to take. -/
def dispatch (react : Reactor H W) (h : Hub H W) (i : Nat) : Hub H W :=
  match h.bus.take? i with
  | some (handler, e, bus) => { h with bus }.invoke react handler e
  | none => h

def broadcastOf (h : Hub H W) (e : Event) : Broadcast :=
  { event := e, targets := h.bus.recipients e.kind }

/-- Serves the next subscription of a publication. Without room there, nothing happens. -/
def serve (h : Hub H W) (b : Broadcast) : Hub H W × Broadcast :=
  match b.targets with
  | [] => (h, b)
  | i :: rest =>
    let r := h.bus.offer i b.event
    match r.2 with
    | .accepted => ({ h with bus := r.1 }, { b with targets := rest, reached := b.reached + 1 })
    | .full => (h, b)
    | .closed => (h, { b with targets := rest })

/-- Counts a publication that has served everybody. -/
def complete (h : Hub H W) (b : Broadcast) : Hub H W × Nat :=
  ({ h with metrics := h.metrics.add (.eventsPublished b.event.kind) b.reached }, b.reached)

inductive Action (H : Type) where
  | subscribe (kind : EventKind) (handler : H)
  | unsubscribe (i : Nat)
  | post (e : Event)
  | announce (e : Event)
  /-- A publication that may wait begins. -/
  | publish (e : Event)
  /-- The next step of a publication that has begun. -/
  | serve (n : Nat)
  | dispatch (i : Nat)
  | shutdown
  /-- A dispatcher notices the shutdown. -/
  | halt (i : Nat)

inductive Answer where
  | name (i : Nat)
  | flag (b : Bool)
  | reached (n : Nat)
  | nothing
  deriving DecidableEq, Repr

/-- Takes one step of a publication that has begun, the last of which counts it. -/
def serveNth (h : Hub H W) (n : Nat) : Hub H W × Answer :=
  match h.broadcasts[n]? with
  | none => (h, .nothing)
  | some b =>
    if b.targets = [] then
      let r := { h with broadcasts := h.broadcasts.eraseIdx n }.complete b
      (r.1, .reached r.2)
    else
      let r := h.serve b
      ({ r.1 with broadcasts := r.1.broadcasts.set n r.2 }, .nothing)

def act (react : Reactor H W) (h : Hub H W) : Action H → Hub H W × Answer
  | .subscribe kind handler =>
    let r := h.bus.subscribe kind handler
    ({ h with bus := r.1 }, .name r.2)
  | .unsubscribe i =>
    let r := h.bus.unsubscribe i
    ({ h with bus := r.1 }, .flag r.2)
  | .post e =>
    let r := h.post e
    (r.1, .reached r.2)
  | .announce e =>
    let r := h.announce react e
    (r.1, .reached r.2)
  | .publish e => ({ h with broadcasts := h.broadcasts ++ [h.broadcastOf e] }, .nothing)
  | .serve n => h.serveNth n
  | .dispatch i => (h.dispatch react i, .nothing)
  | .shutdown => ({ h with bus := h.bus.shutdown }, .nothing)
  | .halt i => ({ h with bus := h.bus.halt i }, .nothing)

def run (react : Reactor H W) (h : Hub H W) : List (Action H) → Hub H W × List Answer
  | [] => (h, [])
  | a :: as =>
    let r := h.act react a
    let rest := run react r.1 as
    (rest.1, r.2 :: rest.2)

def haltAll (h : Hub H W) : Hub H W :=
  { h with bus := (List.range h.bus.subscriptions.length).foldl (fun b i => b.halt i) h.bus }

/-- What the dispatcher does whose turn it is, where any of them has an event to take. -/
def next? (turns : Turns) (h : Hub H W) (n : Nat) : Option (Action H) :=
  match h.bus.busy with
  | [] => none
  | i :: is =>
    let j := turns.pick n (i :: is)
    some (if h.bus.stopping && turns.stops n then .halt j else .dispatch j)

/-- Lets dispatchers take turns, for a number of steps at most. -/
def drain (turns : Turns) (react : Reactor H W) (h : Hub H W) : Nat → Hub H W
  | 0 => h
  | fuel + 1 =>
    match h.next? turns fuel with
    | some a => drain turns react (h.act react a).1 fuel
    | none => h

/-- Enough steps for handlers that answer an event with one other at most, and that other with
none. -/
def drainBound (h : Hub H W) : Nat := h.bus.pending * (1 + h.bus.subscriptions.length)

/-- Lets all dispatchers run until nothing is left to do. -/
def settle (turns : Turns) (react : Reactor H W) (h : Hub H W) : Hub H W :=
  let h := h.haltAll
  h.drain turns react h.drainBound

/-- Serves the subscriptions of a publication. Dispatchers take turns where a queue is full, and may
do so before. `working` tells whether one of them went last. -/
def serveAll (turns : Turns) (react : Reactor H W) (working : Bool) (h : Hub H W) (b : Broadcast) :
    Nat → Hub H W × Broadcast
  | 0 => (h, b)
  | fuel + 1 =>
    if b.targets = [] then (h, b)
    else
      match if turns.yields fuel working ∨ (h.serve b).2 = b then h.next? turns fuel else none with
      | some a => serveAll turns react true (h.act react a).1 b fuel
      | none => serveAll turns react false (h.serve b).1 (h.serve b).2 fuel

/-- Enough steps for a publication, and for the dispatchers meanwhile. -/
def serveBound (h : Hub H W) (b : Broadcast) : Nat :=
  h.drainBound + b.targets.length * (2 + h.bus.subscriptions.length)

/-- Publishes to all subscriptions, waiting for room where it must, and tells how many were
reached. -/
def publish (turns : Turns) (react : Reactor H W) (h : Hub H W) (e : Event) : Hub H W × Nat :=
  let b := h.broadcastOf e
  let r := h.serveAll turns react false b (h.serveBound b)
  r.1.complete r.2

end Hub

end VenueGateway
