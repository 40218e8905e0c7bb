import VenueGateway.Gateway.Commands

/-!
Polling by the gateway: one status request for every tracked order, by hand or when a loop is due.
Every loop that was started keeps a rhythm of its own.
-/

namespace VenueGateway.Gateway

/-- Asks for the state of an order, and tells whether the request was sent. -/
def ask (g : Gateway) (trade : TradeRef) : Gateway × Bool :=
  let r := g.requestStatus trade
  (r.1, r.2.isOk)

def notePoll (g : Gateway) (sent : List Bool) : Gateway :=
  { g with hub := { g.hub with
      world := { g.hub.world with tracker := g.tracker.polled sent }
      metrics := Tracker.countQueries g.hub.metrics sent } }

/-- Asks for the state of every tracked order. -/
def poll (g : Gateway) : Gateway :=
  let r := Tracker.askAll ask g (g.tracker.snapshot g.visits)
  r.1.notePoll r.2

/-- A poll whose queries go to whoever answers them, in a state of their own. An answer may refuse
the query, and whatever else happens to the gateway meanwhile is part of the answer. -/
def pollWith {E : Type} (ask : Gateway × E → TradeRef → (Gateway × E) × Bool) (w : Gateway × E) :
    Gateway × E :=
  let r := Tracker.askAll ask w (w.1.tracker.snapshot w.1.visits)
  (r.1.1.notePoll r.2, r.1.2)

/-- What such a poll makes of the gateway. -/
def pollBy {E : Type} (ask : Gateway × E → TradeRef → (Gateway × E) × Bool) (g : Gateway) (e : E) :
    Gateway :=
  (pollWith ask (g, e)).1

/-- Nobody else is asked and nothing else happens. -/
def askBeside {E : Type} (w : Gateway × E) (trade : TradeRef) : (Gateway × E) × Bool :=
  (((w.1.ask trade).1, w.2), (w.1.ask trade).2)

/-- Starts one more polling loop, which does not run where polling was stopped. -/
def startPolling (g : Gateway) : Gateway :=
  { g with loops := (Watch.new g.tracker).loop :: g.loops }

/-- Stops polling, with all loops that run. -/
def stopPolling (g : Gateway) : Gateway :=
  { g with
      hub := { g.hub with world := { g.hub.world with tracker := g.tracker.stop } }
      loops := g.loops.map PollLoop.stop }

/-- Lets time pass, with the polls that are due, all of them made in one way. -/
def advanceWith {E : Type} (poll : Gateway × E → Gateway × E) (w : Gateway × E) (millis : Nat) :
    Gateway × E :=
  let r := PollLoop.advanceAll millis w.1.loops
  Nat.repeat poll r.2 ({ w.1 with loops := r.1 }, w.2)

/-- Lets time pass, with the polls that are due. -/
def advance (g : Gateway) (millis : Nat) : Gateway :=
  (advanceWith (Prod.map poll id) (g, ()) millis).1

end VenueGateway.Gateway
