import VenueGateway.Tracker.Basic

/-!
Polling: one query for every order that is tracked when a poll begins, whatever becomes of the
queries, and the loop that polls after every interval. A loop that wakes up late by more than a
short grace polls once and counts a full interval from that moment on.
-/

namespace VenueGateway

namespace Tracker

/-- The orders that a poll asks about, in the order in which they are met. -/
def snapshot (order : VisitOrder Entry) (t : Tracker) : List TradeRef :=
  (order.arrange t.trades.entries).map Prod.snd

/-- Asks about orders one after another. `ask` tells whether a query was sent. -/
def askAll {S : Type} (ask : S → TradeRef → S × Bool) (s : S) : List TradeRef → S × List Bool
  | [] => (s, [])
  | trade :: trades =>
    let r := ask s trade
    let rest := askAll ask r.1 trades
    (rest.1, r.2 :: rest.2)

def summary (sent : List Bool) : PollTally := ⟨sent.length, sent.countP (!·)⟩

def countQueries (m : Metrics) (sent : List Bool) : Metrics :=
  sent.foldl (fun m ok => m.increment (.statusQueries (if ok then .sent else .failed))) m

/-- Notes the outcome of a poll. -/
def polled (t : Tracker) (sent : List Bool) : Tracker := { t with lastPoll := some (summary sent) }

end Tracker

/-- A polling loop on a clock in milliseconds: when it polls next, while it runs. -/
structure PollLoop where
  interval : Nat
  interval_pos : 0 < interval
  now : Nat := 0
  /-- Nothing, before the loop is started and after it has ended. -/
  next : Option Nat := none
  deriving Repr

namespace PollLoop

/-- How late a loop may be and still keep to its rhythm. -/
def grace : Nat := 5

/-- A loop that has not been started. A tracker that holds an interval of nought is given one
millisecond. -/
def new (interval : Duration) : PollLoop :=
  { interval := max interval.millis 1, interval_pos := by omega }

/-- Starts the loop. The first poll comes after a full interval. -/
def start (l : PollLoop) : PollLoop := { l with next := some (l.now + l.interval) }

def stop (l : PollLoop) : PollLoop := { l with next := none }

def running (l : PollLoop) : Bool := l.next.isSome

/-- When the loop polls next, after a poll that was due at one time and takes place at another. -/
def following (l : PollLoop) (due now : Nat) : Nat :=
  if due + grace < now then now + l.interval else due + l.interval

/-- The number of polls that are due at a time, and when the one after them is. -/
def polls (l : PollLoop) (due now : Nat) : Nat × Nat :=
  if due ≤ now then
    let r := polls l (l.following due now) now
    (r.1 + 1, r.2)
  else (0, due)
termination_by now + 1 - due
decreasing_by
  have := l.interval_pos
  unfold following
  split <;> omega

/-- A loop that polls next at a time. -/
def awaiting (l : PollLoop) (due : Nat) : PollLoop := { l with next := some due }

/-- A loop when time has passed. -/
def later (l : PollLoop) (millis : Nat) : PollLoop := { l with now := l.now + millis }

/-- Lets time pass, and tells how many polls take place at its end. -/
def advance (l : PollLoop) (millis : Nat) : PollLoop × Nat :=
  let now := l.now + millis
  match l.next with
  | none => ({ l with now }, 0)
  | some due =>
    let r := l.polls due now
    ({ l with now, next := some r.2 }, r.1)

/-- Lets time pass for several loops, and tells how many polls take place in all. -/
def advanceAll (millis : Nat) : List PollLoop → List PollLoop × Nat
  | [] => ([], 0)
  | l :: ls =>
    let r := l.advance millis
    let rest := advanceAll millis ls
    (r.1 :: rest.1, r.2 + rest.2)

end PollLoop

/-- A polling loop as a task. -/
structure Watch where
  loop : PollLoop
  /-- Whether it was told to stop. -/
  told : Bool
  deriving Repr

namespace Watch

/-- The task that polls for a tracker, when it begins. -/
def new (t : Tracker) : Watch where
  loop := if t.stopped then .new t.pollInterval else (PollLoop.new t.pollInterval).start
  told := t.stopped

inductive Tick where
  | elapse (millis : Nat)
  | stop
  /-- It takes a turn. Where a poll is due and it was told to stop, it may heed either first. -/
  | turn (heeds : Bool)
  deriving DecidableEq, Repr

/-- A turn of the task, and when it polled in it. -/
def turn (w : Watch) (heeds : Bool) : Watch × List Nat :=
  match w.loop.next with
  | none => (w, [])
  | some due =>
    if w.told ∧ (heeds ∨ w.loop.now < due) then ({ w with loop := w.loop.stop }, [])
    else if due ≤ w.loop.now then
      ({ w with loop := w.loop.awaiting (w.loop.following due w.loop.now) }, [w.loop.now])
    else (w, [])

/-- What happens at one tick, and the polls it makes for. -/
def tick (w : Watch) : Tick → Watch × List Nat
  | .elapse millis => ({ w with loop := w.loop.later millis }, [])
  | .stop => ({ w with told := true }, [])
  | .turn heeds => w.turn heeds

/-- A run of the task, and when it polled in it. -/
def run (w : Watch) : List Tick → Watch × List Nat
  | [] => (w, [])
  | a :: as =>
    let rest := run (w.tick a).1 as
    (rest.1, (w.tick a).2 ++ rest.2)

end Watch

end VenueGateway
