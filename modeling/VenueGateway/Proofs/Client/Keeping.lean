import VenueGateway.Client.Run
import VenueGateway.Proofs.Metrics

/-!
What steps of tasks leave as it is. The connection and the marks by which tasks tell each other of
it are one part of what is shared, the writer and the requests another, and what listeners hear a
third; for each part there is a relation between the states before and after a step.
-/

namespace VenueGateway

/-- Whether a counter counts frames from the venue, of whatever operation. -/
def Counter.countsReceived : Counter → Bool
  | framesReceived _ => true
  | _ => false

namespace Client

/-- Leaves the connection as it is, and whether the client is closed. The state may change, but not
to connected. -/
structure Keeps (s s' : Shared) : Prop where
  settings : s'.settings = s.settings
  current : s'.current = s.current
  shutdown : s'.shutdown = s.shutdown
  closed : s'.closed = s.closed
  opened : s'.opened = s.opened
  state : s'.state = .connected → s.state = .connected

/-- Leaves the mark of a retry as it is, too. -/
structure KeepsMark (s s' : Shared) : Prop extends Keeps s s' where
  reconnecting : s'.reconnecting = s.reconnecting

theorem KeepsMark.refl (s : Shared) : KeepsMark s s := ⟨⟨rfl, rfl, rfl, rfl, rfl, id⟩, rfl⟩

theorem keepsMark_setState (s : Shared) {state : ConnectionState} (h : state ≠ .connected) :
    KeepsMark s (s.setState state) :=
  ⟨⟨rfl, rfl, rfl, rfl, rfl, fun hs => absurd hs h⟩, rfl⟩

def Message.request? : Message → Option Frame
  | request f => some f
  | _ => none

def Shared.requests (s : Shared) : List Frame := s.wire.filterMap fun w => w.2.request?

@[simp] theorem Shared.requests_write (s : Shared) (k : Nat) (m : Message) :
    (s.write k m).requests = s.requests ++ m.request?.toList := by
  cases m <;> simp [requests, write, Message.request?]

/-- Leaves the requests, the number of the last one, and whether the writer is held as they are. -/
structure KeepsRequests (s s' : Shared) : Prop where
  requests : s'.requests = s.requests
  lastSequence : s'.lastSequence = s.lastSequence
  held : s'.writerHeld = s.writerHeld

/-- Gives nobody anything to write to, either. -/
structure KeepsWriting (s s' : Shared) : Prop extends KeepsRequests s s' where
  writer : s'.writer = s.writer ∨ s'.writer = none
  state : s'.state = .connected → s.state = .connected

/-- How much data was counted, frames as well as failures. -/
def Shared.tally (s : Shared) : Nat :=
  s.metrics.total Counter.countsReceived + s.metrics.count .parseFailures

section Metrics

variable {s s' : Shared}

/-- What counts neither frames from the venue nor failures leaves the tally as it is. -/
theorem Shared.tally_increment {c : Counter} (hm : s'.metrics = s.metrics.increment c)
    (hc : c.countsReceived = false) (hp : c ≠ .parseFailures) : s'.tally = s.tally := by
  rw [tally, tally, hm, Metrics.increment, Metrics.total_add, Metrics.count_add, if_neg hp]
  simp [hc]

/-- What cannot be read is counted. -/
theorem Shared.tally_failure (hm : s'.metrics = s.metrics.increment .parseFailures) :
    s'.tally = s.tally + 1 := by
  rw [tally, tally, hm, Metrics.increment, Metrics.total_add, Metrics.count_add, if_pos rfl,
    ← Nat.add_assoc]
  rfl

/-- What can be read is counted under its operation. -/
theorem Shared.tally_frame {operation : String}
    (hm : s'.metrics = s.metrics.frameReceived operation) :
    s'.tally = s.tally + 1 := by
  have hother : Counter.framesReceived (Text.lower operation) ≠ .parseFailures :=
    Counter.noConfusion
  rw [tally, tally, hm, Metrics.frameReceived, Metrics.increment, Metrics.total_add,
    Metrics.count_add, if_neg hother]
  exact Nat.add_right_comm ..

end Metrics

structure Mute (s s' : Shared) : Prop extends KeepsWriting s s' where
  listeners : s'.listeners = s.listeners
  heard : s'.heard = s.heard
  tally : s'.tally = s.tally

/-- Leaves all of this as it is, but that the state may be another that is not connected and the
writer be gone. -/
structure Aside (s s' : Shared) : Prop extends KeepsMark s s' where
  mute : Mute s s'

/-- Leaves the state and the marks by which readers are told to stop. -/
structure KeepsLine (s s' : Shared) : Prop where
  state : s'.state = s.state
  cancelled : s'.isCancelled = s.isCancelled

theorem Mute.refl (s : Shared) : Mute s s := ⟨⟨⟨rfl, rfl, rfl⟩, .inl rfl, id⟩, rfl, rfl, rfl⟩

theorem Aside.refl (s : Shared) : Aside s s := ⟨.refl s, .refl s⟩

theorem aside_setState (s : Shared) {state : ConnectionState} (h : state ≠ .connected) :
    Aside s (s.setState state) :=
  ⟨keepsMark_setState s h, ⟨⟨rfl, rfl, rfl⟩, .inl rfl, fun hs => absurd hs h⟩, rfl, rfl, rfl⟩

/-- A message that is no request makes no difference to anybody else. -/
theorem aside_write (s : Shared) {k : Nat} {m : Message} (hm : m.request? = none) :
    Aside s (s.write k m) :=
  ⟨⟨⟨rfl, rfl, rfl, rfl, rfl, id⟩, rfl⟩,
    ⟨⟨(s.requests_write k m).trans (by rw [hm]; exact List.append_nil _), rfl, rfl⟩, .inl rfl, id⟩,
      rfl, rfl, rfl⟩

theorem keepsRequests_install (s : Shared) (k : Nat) : KeepsRequests s (s.install k) := by
  unfold Shared.install
  split <;> exact ⟨rfl, rfl, rfl⟩

def Inbound.isData : Inbound → Bool
  | text _ => true
  | binary _ => true
  | _ => false

/-- Hands what a reader meets to the listeners, if it is data. -/
def Shared.meet (s : Shared) : Inbound → Shared
  | .text text => s.dispatch text
  | .binary data => s.dispatchBytes data
  | _ => s

/-- Data makes a difference to listeners and counts only. -/
structure Reports (s s' : Shared) : Prop where
  mark : KeepsMark s s'
  writing : KeepsWriting s s'
  line : KeepsLine s s'

theorem reports_dispatch (s : Shared) (text : String) : Reports s (s.dispatch text) := by
  rw [Shared.dispatch]
  split <;>
    exact ⟨⟨⟨rfl, rfl, rfl, rfl, rfl, id⟩, rfl⟩, ⟨⟨rfl, rfl, rfl⟩, .inl rfl, id⟩, ⟨rfl, rfl⟩⟩

theorem reports_dispatchBytes (s : Shared) (data : List UInt8) :
    Reports s (s.dispatchBytes data) := by
  rw [Shared.dispatchBytes]
  split
  · exact reports_dispatch s _
  · exact ⟨⟨⟨rfl, rfl, rfl, rfl, rfl, id⟩, rfl⟩, ⟨⟨rfl, rfl, rfl⟩, .inl rfl, id⟩, ⟨rfl, rfl⟩⟩

theorem reports_meet (s : Shared) {what : Inbound} (hdata : what.isData = true) :
    Reports s (s.meet what) := by
  cases what with
  | text text => exact reports_dispatch s text
  | binary data => exact reports_dispatchBytes s data
  | _ => cases hdata

end Client

end VenueGateway
