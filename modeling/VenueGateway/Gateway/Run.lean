import VenueGateway.Gateway.Intake
import VenueGateway.Gateway.Polling
import VenueGateway.Gateway.Replies

/-!
Runs of the gateway: whatever commands, replies, polls, dispatches and troubles of the link there
are, in any order, and how the gateway looks to diagnostics.
-/

namespace VenueGateway

namespace Gateway

inductive Action where
  | message (queue : String) (body : List UInt8)
  | submit (c : SubmitOrder)
  | cancel (c : CancelOrder)
  | cancelAll
  | requestInstruments
  | deliver (f : Frame)
  | receive (text : String)
  | poll
  /-- A dispatcher of the bus takes an event. -/
  | dispatch (i : Nat)
  /-- All that was published is handled. -/
  | settle
  /-- The link changes its state. -/
  | linkState (state : ConnectionState)
  /-- The venue changes what it refuses. -/
  | linkRefusal (refusal : Frame → Option LinkError)
  /-- Dispatchers take turns in another way from now on. -/
  | schedule (schedule : Turns)

def act (g : Gateway) : Action → Gateway
  | .message queue body => (g.handle queue body).1
  | .submit c => (g.submit c).1
  | .cancel c => (g.cancel c).1
  | .cancelAll => g.cancelAll.1
  | .requestInstruments => g.requestInstruments.1
  | .deliver f => g.deliver f
  | .receive text => g.receive text
  | .poll => g.poll
  | .dispatch i => { g with hub := g.hub.dispatch g.reactor i }
  | .settle => g.settle
  | .linkState state => { g with link := { g.link with state } }
  | .linkRefusal refusal => { g with link := { g.link with refusal } }
  | .schedule schedule => { g with schedule }

def run (g : Gateway) (actions : List Action) : Gateway := actions.foldl act g

@[simp] theorem run_nil (g : Gateway) : g.run [] = g := rfl
@[simp] theorem run_cons (g : Gateway) (a : Action) (as : List Action) :
    g.run (a :: as) = (g.act a).run as := rfl

def describeDesk (g : Gateway) : String :=
  "OrderProcessor \x7b account: VenueAccount \x7b oms_id: " ++ Text.ofInt64 g.account.omsId ++
    ", account_id: " ++ Text.ofInt64 g.account.accountId ++ " \x7d, instruments: " ++
    Text.ofNat g.directory.size ++ ", .. \x7d"

end Gateway

/-- A poll under way: the tracker as it was when the poll began, the orders it has yet to ask about,
and which of its queries so far were sent. -/
structure Poll where
  began : Tracker
  pending : List TradeRef
  sent : List Bool := []

/-- A gateway with the polls that are under way. -/
structure Busy where
  gateway : Gateway
  polls : List Poll := []

namespace Busy

inductive Move where
  | act (a : Gateway.Action)
  /-- A poll begins, by hand or because a loop is due. -/
  | begin
  /-- A poll asks about the next of its orders. -/
  | ask (n : Nat)
  /-- A poll that has asked about all its orders notes how that went. -/
  | finish (n : Nat)

/-- What becomes of it. Between any two steps of a poll anything else may happen. -/
def step (b : Busy) : Move → Busy
  | .act a => { b with gateway := b.gateway.act a }
  | .begin =>
    let trades := b.gateway.tracker.snapshot b.gateway.visits
    { b with polls := b.polls ++ [⟨b.gateway.tracker, trades, []⟩] }
  | .ask n =>
    match b.polls[n]? with
    | some ⟨began, trade :: pending, sent⟩ =>
      let r := b.gateway.ask trade
      { gateway := r.1, polls := b.polls.set n ⟨began, pending, sent ++ [r.2]⟩ }
    | _ => b
  | .finish n =>
    match b.polls[n]? with
    | some ⟨_, [], sent⟩ => { gateway := b.gateway.notePoll sent, polls := b.polls.eraseIdx n }
    | _ => b

def run (b : Busy) (ms : List Move) : Busy := ms.foldl step b

end Busy

end VenueGateway
