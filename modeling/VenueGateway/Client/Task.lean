import VenueGateway.Client.Basic

/-!
The tasks of the venue client, each cut at the points where another may go on in between. A step of
a task changes what is shared, leads to the next phase and may start further tasks; where a task has
to wait, it has no step. What the world does to a step, such as a handshake that fails, is its
outcome.
-/

namespace VenueGateway.Client

/-- How a step turns out. -/
inductive Outcome where
  /-- As it should: the connection opens, the message is written, the time is over. -/
  | fine
  | fails (reason : String)
  | timesOut
  /-- A reader meets something. -/
  | meets (what : Inbound)
  /-- The task notices that it was told to stop. -/
  | stops
  deriving DecidableEq, Repr

/-- To connect: look whether the client was shut down, show that it connects, shake hands, look
again, and install the connection. -/
inductive ConnectPhase where
  | start
  | announcing
  | handshake
  | opened (connection : Nat)
  | installing (connection : Nat)
  | done (result : Except LinkError Unit)
  deriving Repr

/-- To send a request: look at the state, take a number, wait for the writer, and write. -/
inductive SendPhase where
  | start
  | numbering
  | waiting (f : Frame)
  | writing (connection : Nat) (f : Frame)
  | done (result : Except LinkError Int64)
  deriving Repr

/-- To close: be the first to do so, tell all tasks to stop, take the writer away, and say
goodbye. -/
inductive ClosePhase where
  | start
  | announcing
  | waiting
  | parting (connection : Nat)
  | done
  deriving DecidableEq, Repr

/-- To see that a retry is under way: not after a shutdown, and not where there is one. -/
inductive SchedulePhase where
  | looking
  | claiming
  deriving DecidableEq, Repr

/-- To read: meet one thing after another, answer pings, and give the connection up when it ends. -/
inductive ReadPhase where
  | waiting
  | answering (data : List UInt8)
  | ponging (writer : Nat) (data : List UInt8)
  | dropping (clean : Bool)
  | releasing (clean : Bool)
  | scheduling (phase : SchedulePhase)
  | done
  deriving DecidableEq, Repr

/-- To retry: wait for the delay and connect, over and over, and look at the end whether the
connection still stands. -/
inductive RetryPhase where
  | start
  | pausing (wake : Nat)
  | trying (phase : ConnectPhase)
  | checking
  | scheduling (phase : SchedulePhase)
  | done
  deriving Repr

inductive Task where
  | connect (phase : ConnectPhase)
  | send (operation payload : String) (phase : SendPhase)
  | close (phase : ClosePhase)
  | read (connection : Nat) (phase : ReadPhase)
  | retry (policy : RetryPolicy) (phase : RetryPhase)
  deriving Repr

/-- What a step leads to. -/
structure Advance (φ : Type) where
  shared : Shared
  phase : φ
  started : List Task := []

namespace Advance

/-- The same advance of a larger whole. -/
def map {φ ψ : Type} (f : φ → ψ) (a : Advance φ) : Advance ψ := ⟨a.shared, f a.phase, a.started⟩

end Advance

namespace ConnectPhase

def handshakeTimeout (limit : Duration) : LinkError :=
  .connection ("handshake timed out after " ++ limit.text)

def step? (s : Shared) (o : Outcome) : ConnectPhase → Option (Advance ConnectPhase)
  | start =>
    if s.shutdown then some { shared := s, phase := .done (.error .closed) }
    else some { shared := s, phase := .announcing }
  | announcing => some { shared := s.setState .connecting, phase := .handshake }
  | handshake =>
    match o with
    | .fine => some { shared := { s with opened := s.opened + 1 }, phase := .opened s.opened }
    | .fails reason =>
      some { shared := s.setState .disconnected, phase := .done (.error (.connection reason)) }
    | .timesOut =>
      some { shared := s.setState .disconnected
             phase := .done (.error (handshakeTimeout s.settings.handshakeTimeout)) }
    | _ => none
  | opened connection =>
    if s.shutdown then some { shared := s.setState .disconnected, phase := .done (.error .closed) }
    else some { shared := s, phase := .installing connection }
  | installing connection =>
    if s.writerHeld then none
    else if s.closed
      then some { shared := s.setState .disconnected, phase := .done (.error .closed) }
    else
      some
      { shared := s.install connection
        phase := .done (.ok ())
        started := [.read connection .waiting] }
  | done _ => none

end ConnectPhase

namespace SendPhase

def step? (operation payload : String) (s : Shared) (o : Outcome) :
    SendPhase → Option (Advance SendPhase)
  | start =>
    if s.state = .connected then some { shared := s, phase := .numbering }
    else some { shared := s, phase := .done (.error .notConnected) }
  | numbering =>
    let f := s.nextFrame operation payload
    some { shared := { s with lastSequence := f.sequence }, phase := .waiting f }
  | waiting f =>
    if s.writerHeld then none
    else
      match s.writer with
      | none => some { shared := s, phase := .done (.error .notConnected) }
      | some connection =>
        some { shared := { s with writerHeld := true }, phase := .writing connection f }
  | writing connection f =>
    let released := { s with writerHeld := false }
    match o with
    | .fine =>
      let written := released.write connection (.request f)
      some { shared := { written with metrics := s.metrics.frameSent operation }
             phase := .done (.ok f.sequence) }
    | .fails reason => some { shared := released, phase := .done (.error (.send reason)) }
    | .timesOut =>
      some { shared := released, phase := .done (.error (.timeout s.settings.writeTimeout)) }
    | _ => none
  | done _ => none

end SendPhase

namespace ClosePhase

def step? (s : Shared) (o : Outcome) : ClosePhase → Option (Advance ClosePhase)
  | start =>
    if s.closed then some { shared := s, phase := .done }
    else some { shared := { s with closed := true }, phase := .announcing }
  | announcing => some { shared := { s with shutdown := true }, phase := .waiting }
  | waiting =>
    if s.writerHeld then none
    else
      let s' := { s.setState .disconnected with writer := none }
      match s.writer with
      | some connection => some { shared := s', phase := .parting connection }
      | none => some { shared := s', phase := .done }
  | parting connection =>
    match o with
    | .fine => some { shared := s.write connection .close, phase := .done }
    | .fails _ => some { shared := s, phase := .done }
    | .timesOut => some { shared := s, phase := .done }
    | _ => none
  | done => none

end ClosePhase

namespace SchedulePhase

/-- A step of seeing that a retry is under way. At the end there is no next phase. -/
def step (s : Shared) : SchedulePhase → Advance (Option SchedulePhase)
  | looking => { shared := s, phase := if s.shutdown then none else some claiming }
  | claiming =>
    if s.reconnecting then { shared := s, phase := none }
    else
      { shared := { s with reconnecting := true }
        phase := none
        started := [.retry { delay := s.settings.reconnectDelay } .start] }

end SchedulePhase

namespace ReadPhase

def step? (connection : Nat) (s : Shared) (o : Outcome) : ReadPhase → Option (Advance ReadPhase)
  | waiting =>
    match o with
    | .stops => if s.isCancelled connection then some { shared := s, phase := .done } else none
    | .meets (.text text) => some { shared := s.dispatch text, phase := .waiting }
    | .meets (.binary data) => some { shared := s.dispatchBytes data, phase := .waiting }
    | .meets (.ping data) => some { shared := s, phase := .answering data }
    | .meets .pong => some { shared := s, phase := .waiting }
    | .meets (.close code) => some { shared := s, phase := .dropping (endsForGood code) }
    | .meets .failure => some { shared := s, phase := .dropping false }
    | _ => none
  | answering data =>
    if s.writerHeld then none
    else
      match s.writer with
      | none => some { shared := s, phase := .waiting }
      | some writer =>
        some { shared := { s with writerHeld := true }, phase := .ponging writer data }
  | ponging writer data =>
    let released := { s with writerHeld := false }
    match o with
    | .fine => some { shared := released.write writer (.pong data), phase := .waiting }
    | .fails _ => some { shared := released, phase := .waiting }
    | _ => none
  | dropping clean =>
    some { shared := (s.cancel connection).setState .disconnected, phase := .releasing clean }
  | releasing clean =>
    if s.writerHeld then none
    else
      some
      { shared := { s with writer := none }
        phase := if clean then .done else .scheduling .looking }
  | scheduling phase =>
    some ((phase.step s).map fun
      | some next => .scheduling next
      | none => .done)
  | done => none

end ReadPhase

namespace RetryPhase

/-- What follows the end of an attempt. -/
def afterAttempt (s : Shared) : Except LinkError Unit → Advance RetryPhase
  | .ok () => { shared := { s with reconnecting := false }, phase := .checking }
  | .error .closed => { shared := { s with reconnecting := false }, phase := .done }
  | .error _ => { shared := s, phase := .start }

def step? (policy : RetryPolicy) (s : Shared) (o : Outcome) :
    RetryPhase → Option (Advance (RetryPolicy × RetryPhase))
  | start =>
    let r := policy.next
    some { shared := s, phase := (r.1, .pausing (s.now + r.2.millis)) }
  | pausing wake =>
    match o with
    | .stops =>
      if s.shutdown
        then some { shared := { s with reconnecting := false }, phase := (policy, .done) } else none
    | .fine =>
      if wake ≤ s.now then
        some
          { shared := { s with metrics := s.metrics.increment .reconnects }
            phase := (policy, .trying .start) }
      else none
    | _ => none
  | trying (.done result) => some ((afterAttempt s result).map (policy, ·))
  | trying phase => (phase.step? s o).map (·.map fun next => (policy, .trying next))
  | checking =>
    some
      { shared := s
        phase := (policy, if s.state = .connected then .done else .scheduling .looking) }
  | scheduling phase =>
    some ((phase.step s).map fun
      | some next => (policy, .scheduling next)
      | none => (policy, .done))
  | done => none

end RetryPhase

namespace Task

def step? (s : Shared) (o : Outcome) : Task → Option (Advance Task)
  | connect phase => (phase.step? s o).map (·.map connect)
  | send operation payload phase =>
    (phase.step? operation payload s o).map (·.map (send operation payload))
  | close phase => (phase.step? s o).map (·.map close)
  | read connection phase => (phase.step? connection s o).map (·.map (read connection))
  | retry policy phase => (phase.step? policy s o).map (·.map fun next => retry next.1 next.2)

end Task

end VenueGateway.Client
