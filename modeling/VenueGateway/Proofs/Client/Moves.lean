import VenueGateway.Proofs.Client.Keeping

/-!
What a step of a task may do. Each kind of phase has its moves, and a task moves as its phase does.
Steps that differ only in what they count or in how they fail are one move, and what the connection,
the writer and the listeners have to do with a step is read off its move.
-/

namespace VenueGateway.Client

namespace ConnectPhase

/-- The connection that has been opened and is not yet installed. -/
def connection? : ConnectPhase → Option Nat
  | opened connection => some connection
  | installing connection => some connection
  | _ => none

def ended : ConnectPhase → Bool
  | done _ => true
  | _ => false

inductive Move (s : Shared) : ConnectPhase → Advance ConnectPhase → Prop where
  | goesOn {p p' : ConnectPhase} {s' : Shared} (hs : Aside s s')
      (hname : p'.connection? = p.connection?)
      (hopen : p'.ended = false) (hon : p' ≠ .start) (hp : p.ended = false) : Move s p ⟨s', p', []⟩
  | fails {p : ConnectPhase} {s' : Shared} {e : LinkError} (hs : Aside s s')
      (he : e = .closed → s.shutdown = true ∨ s.closed = true) (hp : p.ended = false) :
      Move s p ⟨s', .done (.error e), []⟩
  | opens : Move s .handshake ⟨{ s with opened := s.opened + 1 }, .opened s.opened, []⟩
  | installs (connection : Nat) (hopen : s.closed = false) :
      Move s (.installing connection) ⟨s.install connection, .done (.ok ()),
        [.read connection .waiting]⟩

theorem move_of_step {s : Shared} {o : Outcome} {p : ConnectPhase} {a : Advance ConnectPhase}
    (h : p.step? s o = some a) : p.Move s a := by
  cases p with
  | start =>
    simp only [step?] at h
    split at h
    · next hshut =>
      obtain rfl := Option.some.inj h
      exact .fails (.refl s) (fun _ => .inl hshut) rfl
    · obtain rfl := Option.some.inj h
      exact .goesOn (.refl s) rfl rfl nofun rfl
  | announcing =>
    obtain rfl := Option.some.inj h
    exact .goesOn (aside_setState s (by decide)) rfl rfl nofun rfl
  | handshake =>
    simp only [step?] at h
    split at h
    · obtain rfl := Option.some.inj h
      exact .opens
    · obtain rfl := Option.some.inj h
      exact .fails (aside_setState s (by decide)) nofun rfl
    · obtain rfl := Option.some.inj h
      exact .fails (aside_setState s (by decide)) nofun rfl
    · cases h
  | opened connection =>
    simp only [step?] at h
    split at h
    · next hshut =>
      obtain rfl := Option.some.inj h
      exact .fails (aside_setState s (by decide)) (fun _ => .inl hshut) rfl
    · obtain rfl := Option.some.inj h
      exact .goesOn (.refl s) rfl rfl nofun rfl
  | installing connection =>
    simp only [step?] at h
    split at h
    · cases h
    · split at h
      · next hclosed =>
        obtain rfl := Option.some.inj h
        exact .fails (aside_setState s (by decide)) (fun _ => .inr hclosed) rfl
      · next hopen =>
        obtain rfl := Option.some.inj h
        exact .installs connection (Bool.eq_false_iff.mpr hopen)
  | done result => cases h

/-- A call for a connection writes nothing, and has to do with the writer only where it installs
one. -/
theorem Move.mute_or {s : Shared} {p : ConnectPhase} {a : Advance ConnectPhase} (h : p.Move s a) :
    Mute s a.shared ∨ ∃ k, a.shared = s.install k ∧ s.closed = false := by
  cases h with
  | goesOn hs => exact .inl hs.mute
  | fails hs => exact .inl hs.mute
  | opens => exact .inl ⟨⟨⟨rfl, rfl, rfl⟩, .inl rfl, id⟩, rfl, rfl, rfl⟩
  | installs k hopen => exact .inr ⟨k, rfl, hopen⟩

end ConnectPhase

namespace SendPhase

inductive Move (operation payload : String) (s : Shared) :
    SendPhase → Advance SendPhase → Prop where
  | passes (hs : s.state = .connected) : Move operation payload s .start ⟨s, .numbering, []⟩
  | refused (hs : s.state ≠ .connected) :
      Move operation payload s .start ⟨s, .done (.error .notConnected), []⟩
  | numbers :
      Move operation payload s .numbering
        ⟨{ s with lastSequence := s.lastSequence + sequenceStep },
          .waiting (.request (s.lastSequence + sequenceStep) operation payload), []⟩
  | misses {f : Frame} (hs : s.writer = none) :
      Move operation payload s (.waiting f) ⟨s, .done (.error .notConnected), []⟩
  | takes {f : Frame} {k : Nat} (hs : s.writer = some k) (hfree : s.writerHeld = false) :
      Move operation payload s (.waiting f) ⟨{ s with writerHeld := true }, .writing k f, []⟩
  | writes {f : Frame} {k : Nat} :
      Move operation payload s (.writing k f)
        ⟨{ ({ s with writerHeld := false } : Shared).write k (.request f) with
            metrics := s.metrics.frameSent operation },
          .done (.ok f.sequence), []⟩
  | fails {f : Frame} {k : Nat} {e : LinkError} :
      Move operation payload s (.writing k f) ⟨{ s with writerHeld := false }, .done (.error e), []⟩

theorem move_of_step {operation payload : String} {s : Shared} {o : Outcome} {p : SendPhase}
    {a : Advance SendPhase} (h : p.step? operation payload s o = some a) :
    p.Move operation payload s a := by
  cases p with
  | start =>
    simp only [step?] at h
    split at h
    · next hs =>
      obtain rfl := Option.some.inj h
      exact .passes hs
    · next hs =>
      obtain rfl := Option.some.inj h
      exact .refused hs
  | numbering =>
    obtain rfl := Option.some.inj h
    exact .numbers
  | waiting f =>
    simp only [step?] at h
    split at h
    · cases h
    · next hfree =>
      split at h
      · next hs =>
        obtain rfl := Option.some.inj h
        exact .misses hs
      · next hs =>
        obtain rfl := Option.some.inj h
        exact .takes hs (Bool.eq_false_iff.mpr hfree)
  | writing k f =>
    simp only [step?] at h
    split at h
    · obtain rfl := Option.some.inj h
      exact .writes
    · obtain rfl := Option.some.inj h
      exact .fails
    · obtain rfl := Option.some.inj h
      exact .fails
    · cases h
  | done => cases h

section Moves

variable {operation payload : String} {s : Shared} {p : SendPhase} {a : Advance SendPhase}

/-- Sending a request changes nothing about the connection. -/
theorem Move.mark (h : p.Move operation payload s a) : KeepsMark s a.shared := by
  cases h <;> exact ⟨⟨rfl, rfl, rfl, rfl, rfl, id⟩, rfl⟩

theorem Move.line (h : p.Move operation payload s a) : KeepsLine s a.shared := by
  cases h <;> exact ⟨rfl, rfl⟩

theorem Move.started (h : p.Move operation payload s a) : a.started = [] := by
  cases h <;> rfl

end Moves

end SendPhase

namespace ClosePhase

inductive Move (s : Shared) : ClosePhase → Advance ClosePhase → Prop where
  | begins : Move s .start ⟨{ s with closed := true }, .announcing, []⟩
  | announces : Move s .announcing ⟨{ s with shutdown := true }, .waiting, []⟩
  | goesOn {p p' : ClosePhase} {s' : Shared} (hs : Aside s s') (hclosed : p = .start →
      s.closed = true)
      (hdown : s'.state = s.state ∨ s'.state = .disconnected) : Move s p ⟨s', p', []⟩

theorem move_of_step {s : Shared} {o : Outcome} {p : ClosePhase} {a : Advance ClosePhase}
    (h : p.step? s o = some a) : p.Move s a := by
  have hparted : Aside s { s.setState .disconnected with writer := none } :=
    ⟨⟨⟨rfl, rfl, rfl, rfl, rfl, nofun⟩, rfl⟩, ⟨⟨rfl, rfl, rfl⟩, .inr rfl, nofun⟩, rfl, rfl, rfl⟩
  cases p with
  | start =>
    simp only [step?] at h
    split at h
    · next hclosed =>
      obtain rfl := Option.some.inj h
      exact .goesOn (.refl s) (fun _ => hclosed) (.inl rfl)
    · obtain rfl := Option.some.inj h
      exact .begins
  | announcing =>
    obtain rfl := Option.some.inj h
    exact .announces
  | waiting =>
    simp only [step?] at h
    split at h
    · cases h
    · split at h <;> obtain rfl := Option.some.inj h <;> exact .goesOn hparted nofun (.inr rfl)
  | parting connection =>
    simp only [step?] at h
    split at h
    · obtain rfl := Option.some.inj h
      exact .goesOn (aside_write s rfl) nofun (.inl rfl)
    · obtain rfl := Option.some.inj h
      exact .goesOn (.refl s) nofun (.inl rfl)
    · obtain rfl := Option.some.inj h
      exact .goesOn (.refl s) nofun (.inl rfl)
    · cases h
  | done => cases h

theorem Move.mute {s : Shared} {p : ClosePhase} {a : Advance ClosePhase} (h : p.Move s a) :
    Mute s a.shared := by
  cases h with
  | begins | announces => exact ⟨⟨⟨rfl, rfl, rfl⟩, .inl rfl, id⟩, rfl, rfl, rfl⟩
  | goesOn hs => exact hs.mute

end ClosePhase

namespace SchedulePhase

inductive Move (s : Shared) : SchedulePhase → Advance (Option SchedulePhase) → Prop where
  | stops (hshut : s.shutdown = true) : Move s .looking ⟨s, none, []⟩
  | goesOn : Move s .looking ⟨s, some .claiming, []⟩
  | leaves (hclaimed : s.reconnecting = true) : Move s .claiming ⟨s, none, []⟩
  | claims (hfree : s.reconnecting = false) :
      Move s .claiming
        ⟨{ s with reconnecting := true }, none,
          [.retry { delay := s.settings.reconnectDelay } .start]⟩

theorem move_of_step (s : Shared) (p : SchedulePhase) : p.Move s (p.step s) := by
  cases p with
  | looking =>
    rw [step]
    split
    · next hshut => exact .stops hshut
    · exact .goesOn
  | claiming =>
    rw [step]
    split
    · next hclaimed => exact .leaves hclaimed
    · next hfree => exact .claims (Bool.eq_false_iff.mpr hfree)

theorem Move.mute {s : Shared} {p : SchedulePhase} {a : Advance (Option SchedulePhase)}
    (h : p.Move s a) :
    Mute s a.shared := by
  cases h <;> exact ⟨⟨⟨rfl, rfl, rfl⟩, .inl rfl, id⟩, rfl, rfl, rfl⟩

end SchedulePhase

namespace ReadPhase

/-- Whether the reader has met an ending that is not clean, and has not yet seen to a retry. -/
def reacts : ReadPhase → Bool
  | dropping clean => !clean
  | releasing clean => !clean
  | scheduling _ => true
  | _ => false

/-- What a reader does when it has seen to a retry, or sees to it still. -/
def afterSchedule : Option SchedulePhase → ReadPhase
  | some next => .scheduling next
  | none => .done

def meets : ReadPhase → Outcome → List Inbound
  | waiting, .meets what => if what.isData then [what] else []
  | _, _ => []

/-- What a reader does that has no retry to see to. -/
inductive Reading (connection : Nat) (s : Shared) :
    Outcome → ReadPhase → Shared → ReadPhase → Prop where
  | stops (hcancelled : s.isCancelled connection = true) :
    Reading connection s .stops .waiting s .done
  | hears {what : Inbound} (hdata : what.isData = true) :
      Reading connection s (.meets what) .waiting (s.meet what) .waiting
  | pinged {data : List UInt8} :
    Reading connection s (.meets (.ping data)) .waiting s (.answering data)
  | ponged : Reading connection s (.meets .pong) .waiting s .waiting
  | closes {code : Option Nat} :
      Reading connection s (.meets (.close code)) .waiting s (.dropping (endsForGood code))
  | breaks : Reading connection s (.meets .failure) .waiting s (.dropping false)
  | misses {o : Outcome} {data : List UInt8} (hs : s.writer = none) :
      Reading connection s o (.answering data) s .waiting
  | answers {o : Outcome} {data : List UInt8} {k : Nat} (hs : s.writer = some k)
      (hfree : s.writerHeld = false) :
      Reading connection s o (.answering data) { s with writerHeld := true } (.ponging k data)
  | answered {o : Outcome} {data : List UInt8} {k : Nat} {s' : Shared}
      (hs : Aside { s with writerHeld := false } s')
      (hline : KeepsLine s s') : Reading connection s o (.ponging k data) s' .waiting
  | leaves {o : Outcome} : Reading connection s o (.releasing true) { s with writer := none } .done

section Reading

variable {connection : Nat} {s s' : Shared} {o : Outcome} {p p' : ReadPhase}

theorem Reading.mark (h : Reading connection s o p s' p') : KeepsMark s s' := by
  cases h with
  | hears hdata => exact (reports_meet s hdata).mark
  | answers | leaves => exact ⟨⟨rfl, rfl, rfl, rfl, rfl, id⟩, rfl⟩
  | answered hs =>
    exact ⟨⟨hs.settings, hs.current, hs.shutdown, hs.closed, hs.opened, hs.state⟩, hs.reconnecting⟩
  | _ => exact .refl s

theorem Reading.line (h : Reading connection s o p s' p') : KeepsLine s s' := by
  cases h with
  | hears hdata => exact (reports_meet s hdata).line
  | answered hs hline => exact hline
  | _ => exact ⟨rfl, rfl⟩

theorem Reading.reacts (h : Reading connection s o p s' p') : p.reacts = false := by
  cases h <;> rfl

end Reading

inductive Move (connection : Nat) (s : Shared) :
    Outcome → ReadPhase → Advance ReadPhase → Prop where
  | reads {o : Outcome} {p p' : ReadPhase} {s' : Shared} (h : Reading connection s o p s' p') :
      Move connection s o p ⟨s', p', []⟩
  | drops {o : Outcome} (clean : Bool) :
      Move connection s o (.dropping clean) ⟨(s.cancel connection).setState .disconnected,
        .releasing clean, []⟩
  | releases {o : Outcome} {s' : Shared} (hs : Aside s s') :
      Move connection s o (.releasing false) ⟨s', .scheduling .looking, []⟩
  | schedules {o : Outcome} {p : SchedulePhase} {a : Advance (Option SchedulePhase)}
      (h : p.Move s a) :
      Move connection s o (.scheduling p) (a.map afterSchedule)

theorem move_of_step {connection : Nat} {s : Shared} {o : Outcome} {p : ReadPhase}
    {a : Advance ReadPhase} (h : p.step? connection s o = some a) : p.Move connection s o a := by
  cases p with
  | waiting =>
    simp only [step?] at h
    split at h
    · split at h
      · next hcancelled =>
        obtain rfl := Option.some.inj h
        exact .reads (.stops hcancelled)
      · cases h
    · next text =>
      obtain rfl := Option.some.inj h
      have hdata : (Inbound.text text).isData = true := rfl
      exact .reads (.hears hdata)
    · next data =>
      obtain rfl := Option.some.inj h
      have hdata : (Inbound.binary data).isData = true := rfl
      exact .reads (.hears hdata)
    · obtain rfl := Option.some.inj h
      exact .reads .pinged
    · obtain rfl := Option.some.inj h
      exact .reads .ponged
    · obtain rfl := Option.some.inj h
      exact .reads .closes
    · obtain rfl := Option.some.inj h
      exact .reads .breaks
    · cases h
  | answering data =>
    simp only [step?] at h
    split at h
    · cases h
    · next hfree =>
      split at h
      · next hs =>
        obtain rfl := Option.some.inj h
        exact .reads (.misses hs)
      · next hs =>
        obtain rfl := Option.some.inj h
        exact .reads (.answers hs (Bool.eq_false_iff.mpr hfree))
  | ponging writer data =>
    simp only [step?] at h
    split at h
    · obtain rfl := Option.some.inj h
      exact .reads (.answered (aside_write _ rfl) ⟨rfl, rfl⟩)
    · obtain rfl := Option.some.inj h
      exact .reads (.answered (.refl _) ⟨rfl, rfl⟩)
    · cases h
  | dropping clean =>
    obtain rfl := Option.some.inj h
    exact .drops clean
  | releasing clean =>
    simp only [step?] at h
    split at h
    · cases h
    · obtain rfl := Option.some.inj h
      cases clean with
      | true => exact .reads .leaves
      | false =>
        exact .releases ⟨⟨⟨rfl, rfl, rfl, rfl, rfl, id⟩, rfl⟩,
          ⟨⟨rfl, rfl, rfl⟩, .inr rfl, id⟩, rfl, rfl, rfl⟩
  | scheduling p =>
    obtain rfl := Option.some.inj h
    exact .schedules (SchedulePhase.move_of_step s p)
  | done => cases h

end ReadPhase

namespace RetryPhase

def loops : RetryPhase → Bool
  | start => true
  | pausing _ => true
  | trying _ => true
  | _ => false

/-- Whether the loop has got a connection, and has not yet seen whether that still stands. -/
def reacts : RetryPhase → Bool
  | trying (.done (.ok ())) => true
  | checking => true
  | scheduling _ => true
  | _ => false

/-- An attempt goes on as any other call for a connection does. -/
theorem step?_trying {policy : RetryPolicy} {s : Shared} {o : Outcome} {p : ConnectPhase}
    (hp : p.ended = false) :
    step? policy s o (.trying p) =
      (p.step? s o).map (·.map fun next => (policy, .trying next)) := by
  cases p with
  | done => cases hp
  | _ => rfl

def afterSchedule (policy : RetryPolicy) : Option SchedulePhase → RetryPolicy × RetryPhase
  | some next => (policy, .scheduling next)
  | none => (policy, .done)

inductive Move (policy : RetryPolicy) (s : Shared) :
    RetryPhase → Advance (RetryPolicy × RetryPhase) → Prop where
  | pauses : Move policy s .start ⟨s, (policy.next.1, .pausing (s.now + policy.delay.millis)), []⟩
  | stops {wake : Nat} (hshut : s.shutdown = true) :
      Move policy s (.pausing wake) ⟨{ s with reconnecting := false }, (policy, .done), []⟩
  | wakes {wake : Nat} {s' : Shared} (hs : Aside s s') (hwake : wake ≤ s.now) :
      Move policy s (.pausing wake) ⟨s', (policy, .trying .start), []⟩
  | tries {p : ConnectPhase} {a : Advance ConnectPhase} (hp : p.ended = false) (h : p.Move s a) :
      Move policy s (.trying p) (a.map fun next => (policy, .trying next))
  | connects : Move policy s (.trying (.done (.ok ()))) ⟨{ s with reconnecting := false },
    (policy, .checking), []⟩
  | givesUp :
      Move policy s (.trying (.done (.error .closed))) ⟨{ s with reconnecting := false },
        (policy, .done), []⟩
  | again {e : LinkError} (he : e ≠ .closed) :
    Move policy s (.trying (.done (.error e))) ⟨s, (policy, .start), []⟩
  | rests (hs : s.state = .connected) : Move policy s .checking ⟨s, (policy, .done), []⟩
  | looks : Move policy s .checking ⟨s, (policy, .scheduling .looking), []⟩
  | schedules {p : SchedulePhase} {a : Advance (Option SchedulePhase)} (h : p.Move s a) :
      Move policy s (.scheduling p) (a.map (afterSchedule policy))

theorem move_of_step {policy : RetryPolicy} {s : Shared} {o : Outcome} {p : RetryPhase}
    {a : Advance (RetryPolicy × RetryPhase)} (h : p.step? policy s o = some a) :
    p.Move policy s a := by
  cases p with
  | start =>
    obtain rfl := Option.some.inj h
    exact .pauses
  | pausing wake =>
    simp only [step?] at h
    split at h
    · split at h
      · next hshut =>
        obtain rfl := Option.some.inj h
        exact .stops hshut
      · cases h
    · split at h
      · next hwake =>
        obtain rfl := Option.some.inj h
        have hcounted :
            ({ s with metrics := s.metrics.increment .reconnects } : Shared).tally = s.tally :=
          Shared.tally_increment rfl rfl Counter.noConfusion
        exact .wakes ⟨⟨⟨rfl, rfl, rfl, rfl, rfl, id⟩, rfl⟩,
          ⟨⟨rfl, rfl, rfl⟩, .inl rfl, id⟩, rfl, rfl, hcounted⟩ hwake
      · cases h
    · cases h
  | trying p =>
    cases p with
    | done result =>
      obtain rfl := Option.some.inj h
      match result with
      | .ok () => exact .connects
      | .error .closed => exact .givesUp
      | .error (.connection _) => exact .again nofun
      | .error .notConnected => exact .again nofun
      | .error (.send _) => exact .again nofun
      | .error (.timeout _) => exact .again nofun
    | _ =>
      rw [step?_trying rfl] at h
      obtain ⟨b, hb, rfl⟩ := Option.map_eq_some_iff.mp h
      exact .tries rfl (ConnectPhase.move_of_step hb)
  | checking =>
    obtain rfl := Option.some.inj h
    split
    · next hs => exact .rests hs
    · exact .looks
  | scheduling p =>
    obtain rfl := Option.some.inj h
    exact .schedules (SchedulePhase.move_of_step s p)
  | done => cases h

/-- A retry writes nothing, and has to do with the writer only where its attempt installs one. -/
theorem Move.mute_or {policy : RetryPolicy} {s : Shared} {p : RetryPhase}
    {a : Advance (RetryPolicy × RetryPhase)} (h : p.Move policy s a) :
    Mute s a.shared ∨ ∃ k, a.shared = s.install k ∧ s.closed = false := by
  cases h with
  | wakes hs => exact .inl hs.mute
  | tries _ h => exact h.mute_or
  | schedules h => exact .inl h.mute
  | stops | connects | givesUp => exact .inl ⟨⟨⟨rfl, rfl, rfl⟩, .inl rfl, id⟩, rfl, rfl, rfl⟩
  | _ => exact .inl (.refl s)

end RetryPhase

namespace Task

def meets : Task → Outcome → List Inbound
  | read _ p, o => p.meets o
  | _, _ => []

inductive Move (s : Shared) (o : Outcome) : Task → Advance Task → Prop where
  | connect {p : ConnectPhase} {a : Advance ConnectPhase} (h : p.Move s a) :
      Move s o (.connect p) (a.map .connect)
  | send {operation payload : String} {p : SendPhase} {a : Advance SendPhase}
      (h : p.Move operation payload s a) :
      Move s o (.send operation payload p) (a.map (.send operation payload))
  | close {p : ClosePhase} {a : Advance ClosePhase} (h : p.Move s a) :
    Move s o (.close p) (a.map .close)
  | read {connection : Nat} {p : ReadPhase} {a : Advance ReadPhase} (h : p.Move connection s o a) :
      Move s o (.read connection p) (a.map (.read connection))
  | retry {policy : RetryPolicy} {p : RetryPhase} {a : Advance (RetryPolicy × RetryPhase)}
      (h : p.Move policy s a) :
      Move s o (.retry policy p) (a.map fun next => .retry next.1 next.2)

/-- A task has no other steps than its moves. -/
theorem move_of_step {s : Shared} {o : Outcome} {t : Task} {a : Advance Task}
    (h : t.step? s o = some a) :
    t.Move s o a := by
  cases t with
  | connect p =>
    obtain ⟨b, hb, rfl⟩ := Option.map_eq_some_iff.mp h
    exact .connect (ConnectPhase.move_of_step hb)
  | send operation payload p =>
    obtain ⟨b, hb, rfl⟩ := Option.map_eq_some_iff.mp h
    exact .send (SendPhase.move_of_step hb)
  | close p =>
    obtain ⟨b, hb, rfl⟩ := Option.map_eq_some_iff.mp h
    exact .close (ClosePhase.move_of_step hb)
  | read connection p =>
    obtain ⟨b, hb, rfl⟩ := Option.map_eq_some_iff.mp h
    exact .read (ReadPhase.move_of_step hb)
  | retry policy p =>
    obtain ⟨b, hb, rfl⟩ := Option.map_eq_some_iff.mp h
    exact .retry (RetryPhase.move_of_step hb)

end Task

end VenueGateway.Client
