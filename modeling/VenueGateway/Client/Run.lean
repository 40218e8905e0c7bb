import VenueGateway.Client.Task

/-!
Runs of the venue client. Tasks are named by their place among all that were ever started, and at
every moment any of them may take its next step, so a run is a list of actions in any order.
`complete` is the undisturbed run of one task to its end.
-/

namespace VenueGateway

open Client

/-- A venue client with all its tasks. -/
structure Client where
  shared : Shared := {}
  tasks : List Task := []

namespace Client

instance : Inhabited Client := ⟨{}⟩

def new (settings : ConnectionSettings) : Client := { shared := { settings } }

inductive Action where
  /-- Somebody calls for a connection. -/
  | connect
  /-- Somebody sends a request. -/
  | send (operation payload : String)
  /-- Somebody closes the client. -/
  | close
  | listen (listener : Hearer)
  | elapse (millis : Nat)
  /-- A task takes its next step, which turns out as given. -/
  | step (task : Nat) (outcome : Outcome)

def start (c : Client) (t : Task) : Client := { c with tasks := c.tasks ++ [t] }

def listen (c : Client) (listener : Hearer) : Client :=
  { c with shared := { c.shared with listeners := c.shared.listeners ++ [listener] } }

def elapse (c : Client) (millis : Nat) : Client :=
  { c with shared := { c.shared with now := c.shared.now + millis } }

/-- The advance of a task, where it has a step with the given outcome. -/
def advance? (c : Client) (i : Nat) (o : Outcome) : Option (Advance Task) :=
  c.tasks[i]?.bind fun t => t.step? c.shared o

/-- Takes a step of a task. Where there is none, nothing happens. -/
def step (c : Client) (i : Nat) (o : Outcome) : Client :=
  match c.advance? i o with
  | some a => { shared := a.shared, tasks := c.tasks.set i a.phase ++ a.started }
  | none => c

def act (c : Client) : Action → Client
  | .connect => c.start (.connect .start)
  | .send operation payload => c.start (.send operation payload .start)
  | .close => c.start (.close .start)
  | .listen listener => c.listen listener
  | .elapse millis => c.elapse millis
  | .step task outcome => c.step task outcome

def run (c : Client) (actions : List Action) : Client := actions.foldl act c

@[simp] theorem run_nil (c : Client) : c.run [] = c := rfl
@[simp] theorem run_cons (c : Client) (a : Action) (as : List Action) :
    c.run (a :: as) = (c.act a).run as := rfl
@[simp] theorem run_append (c : Client) (as bs : List Action) :
    c.run (as ++ bs) = (c.run as).run bs := by
  simp [run]

/-- Takes steps of one task, which all turn out in the same way, as long as it has any. -/
def complete (c : Client) (i : Nat) (o : Outcome) : Nat → Client
  | 0 => c
  | fuel + 1 =>
    match c.advance? i o with
    | some _ => complete (c.step i o) i o fuel
    | none => c

/-- The most steps that a call for a connection, a request or a close needs. -/
def callBound : Nat := 5

/-- Starts a task and runs it to its end, while all others rest. The task is returned as it then
is. -/
def call (c : Client) (t : Task) (o : Outcome) : Client × Option Task :=
  let i := c.tasks.length
  let c := (c.start t).complete i o callBound
  (c, c.tasks[i]?)

def connect (c : Client) (o : Outcome) : Client × Option (Except LinkError Unit) :=
  match c.call (.connect .start) o with
  | (c, some (.connect (.done r))) => (c, some r)
  | (c, _) => (c, none)

def send (c : Client) (operation payload : String) (o : Outcome) :
    Client × Option (Except LinkError Int64) :=
  match c.call (.send operation payload .start) o with
  | (c, some (.send _ _ (.done r))) => (c, some r)
  | (c, _) => (c, none)

def close (c : Client) (o : Outcome) : Client := (c.call (.close .start) o).1

/-- The task that reads from the connection installed last, while it waits for something to read. -/
def reader? (c : Client) : Option Nat :=
  c.tasks.findIdx? fun
    | .read connection .waiting => c.shared.current == some connection &&
      !c.shared.isCancelled connection
    | _ => false

/-- Gives the reader something to read, and lets it go on until it waits again or has ended. Where
nobody reads there is no connection that it could come from. -/
def receive? (c : Client) (what : Inbound) : Option Client :=
  c.reader?.map fun i => (c.step i (.meets what)).complete i .fine callBound

/-- The loop of attempts, while it runs. -/
def retry? (c : Client) : Option Nat :=
  c.tasks.findIdx? fun
    | .retry _ .done => false
    | .retry _ _ => true
    | _ => false

/-- Lets the loop of attempts wait for its delay and make one attempt, where it runs. -/
def regain? (c : Client) (o : Outcome) : Option Client :=
  c.retry?.map fun i =>
    let rested := (c.step i .fine).elapse c.shared.settings.reconnectDelay.millis
    (rested.step i .fine).complete i o (callBound + 3)

def describe (c : Client) : String :=
  "VenueClient \x7b url: " ++ Text.quote c.shared.settings.url ++ ", state: " ++
    c.shared.state.describe ++
    ", sequence: " ++ Text.ofInt64 c.shared.lastSequence ++ ", .. \x7d"

end Client

end VenueGateway
