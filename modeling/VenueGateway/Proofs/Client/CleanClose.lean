import VenueGateway.Proofs.Client.Closing

/-!
A connection that the venue closes cleanly. Its reader gives it up and sees to no retry. Main
statement: the client stays down just where, at that moment, no other task is left that may come to
connect: no call for a connection, no retry on its way, and no reader of another connection.
-/

namespace VenueGateway.Client

def Task.attempts (t : Task) : Bool := t.connecting?.any fun p => !p.ended

def ReadPhase.stirs : ReadPhase → Bool
  | dropping clean => !clean
  | releasing clean => !clean
  | done => false
  | _ => true

def RetryPhase.stirs : RetryPhase → Bool
  | trying (.done (.error .closed)) => false
  | done => false
  | _ => true

theorem RetryPhase.stirs_trying {p : ConnectPhase} (hp : p.ended = false) :
    (trying p).stirs = true := by
  cases p with
  | done => cases hp
  | _ => rfl

theorem RetryPhase.closed_of_not_stirs {e : LinkError}
    (h : (trying (.done (.error e))).stirs = false) :
    e = .closed := by
  cases e with
  | closed => rfl
  | _ => cases h

def Task.stirs : Task → Bool
  | connect p => !p.ended
  | read _ p => p.stirs
  | retry _ p => p.stirs
  | _ => false

def Uncalled (later : List Action) : Prop := ∀ a ∈ later, a ≠ .connect

/-- As long as nobody calls for a connection, none is attempted; and the state is disconnected from
the moment on at which the task at a place, the reader of a connection that was closed cleanly, has
given it up. -/
def StaysDown (c : Client) (i k : Nat) : Prop :=
  ∀ later, Uncalled later → (∀ t ∈ (c.run later).tasks, t.attempts = false) ∧
    ((c.run later).tasks[i]? = some (.read k (.dropping true)) ∨
      (c.run later).shared.state = .disconnected)

def Quiet (c : Client) : Prop := ∀ t ∈ c.tasks, t.stirs = false

instance (c : Client) : Decidable (Quiet c) :=
  inferInstanceAs (Decidable (∀ t ∈ c.tasks, t.stirs = false))

section Quiet

variable {s : Shared} {o : Outcome} {t : Task} {b : Advance Task} {c : Client}

theorem Task.attempts_of_not_stirs (h : t.stirs = false) : t.attempts = false := by
  cases t with
  | connect p => exact h
  | retry policy p =>
    cases p with
    | trying p =>
      cases p with
      | done => rfl
      | _ => cases h
    | _ => rfl
  | _ => rfl

/-- A step after which its task does not stir. It starts no other, and leaves the state as it is or
lets it show that the connection is gone. -/
structure Calm (s : Shared) (b : Advance Task) : Prop where
  phase : b.phase.stirs = false
  started : b.started = []
  state : b.shared.state = s.state ∨ b.shared.state = .disconnected

/-- A task that does not stir makes none that does. -/
theorem Task.Move.calm (h : t.stirs = false) (hm : t.Move s o b) : Calm s b := by
  cases hm with
  | connect hm =>
    cases hm with
    | goesOn _ _ _ _ hp | fails _ _ hp => simp [Task.stirs, hp] at h
    | _ => cases h
  | send hm => exact ⟨rfl, hm.started, .inl hm.line.state⟩
  | close hm =>
    cases hm with
    | begins | announces => exact ⟨rfl, rfl, .inl rfl⟩
    | goesOn _ _ hdown => exact ⟨rfl, rfl, hdown⟩
  | read hm =>
    cases hm with
    | reads hm =>
      cases hm with
      | leaves => exact ⟨rfl, rfl, .inl rfl⟩
      | _ => cases h
    | drops clean => exact ⟨h, rfl, .inr rfl⟩
    | _ => cases h
  | retry hm =>
    cases hm with
    | tries hp => simp [Task.stirs, RetryPhase.stirs_trying hp] at h
    | givesUp => exact ⟨rfl, rfl, .inl rfl⟩
    | again he => exact absurd (RetryPhase.closed_of_not_stirs h) he
    | _ => cases h

/-- Short of a call for a connection nothing disturbs the quiet, and who is disconnected stays
so. -/
theorem Quiet.act (h : Quiet c) {a : Action} (ha : a ≠ .connect) :
    Quiet (c.act a) ∧
    (c.shared.state = .disconnected → (c.act a).shared.state = .disconnected) := by
  have hstart : ∀ t : Task, t.stirs = false → Quiet (c.start t) := by
    intro t ht t' ht'
    obtain ht' | ht' := List.mem_append.mp ht'
    · exact h t' ht'
    · rwa [List.mem_singleton.mp ht']
  cases a with
  | connect => exact absurd rfl ha
  | send operation payload => exact ⟨hstart _ rfl, id⟩
  | close => exact ⟨hstart _ rfl, id⟩
  | listen listener => exact ⟨h, id⟩
  | elapse millis => exact ⟨h, id⟩
  | step i o =>
    obtain ⟨-, hsame⟩ | ⟨t, b, ht, hs⟩ := step_cases c i o
    · rw [Client.act, hsame]
      exact ⟨h, id⟩
    · have hcalm := (Task.move_of_step hs).calm (h t (List.mem_of_getElem? ht))
      rw [Client.act, step_of_task ht hs, hcalm.started, List.append_nil]
      refine ⟨fun t' ht' => ?_, fun hdown => ?_⟩
      · obtain hmem | rfl := List.mem_or_eq_of_mem_set ht'
        · exact h t' hmem
        · exact hcalm.phase
      · exact hcalm.state.elim (fun hsame => hsame.trans hdown) id

/-- Where no task stirs, only the reader is left, and what it has to do is to give the connection
up. -/
theorem Quiet.staysDown (h : Quiet c) {i k : Nat}
    (ht : c.tasks[i]? = some (.read k (.dropping true))) :
    StaysDown c i k := by
  intro later hlater
  suffices hrun : Quiet (c.run later) ∧
      ((c.run later).tasks[i]? = some (.read k (.dropping true)) ∨
        (c.run later).shared.state = .disconnected) from
    ⟨fun t ht => Task.attempts_of_not_stirs (hrun.1 t ht), hrun.2⟩
  induction later using List.reverseRecOn with
  | nil => exact ⟨h, .inl ht⟩
  | append_singleton later a ih =>
    obtain ⟨hquiet, hdown⟩ := ih fun a' ha' => hlater a' (List.mem_append_left _ ha')
    obtain ⟨hquiet', hkept⟩ := hquiet.act (hlater a (List.mem_append_right _ List.mem_cons_self))
    rw [run_append]
    refine ⟨hquiet', ?_⟩
    obtain hreader | hstate := hdown
    · obtain hsame | ⟨o, b, rfl, hs, -⟩ := task_act_of_task hreader a
      · exact .inl hsame
      · obtain rfl := Option.some.inj hs
        exact .inr (congrArg Shared.state (act_step hreader hs).1)
    · exact .inr (hkept hstate)

end Quiet

def Task.scheduling? : Task → Option SchedulePhase
  | read _ (.scheduling p) => some p
  | retry _ (.scheduling p) => some p
  | _ => none

/-- A task that sees to a retry goes on as the seeing does. -/
theorem Task.step?_scheduling {t : Task} {p : SchedulePhase} (ht : t.scheduling? = some p) :
    ∃ around : Option SchedulePhase → Task, (∀ q, (around (some q)).scheduling? = some q) ∧
      ∀ s o, t.step? s o = some ((p.step s).map around) := by
  cases t with
  | read k q =>
    cases q with
    | scheduling q =>
      obtain rfl := Option.some.inj ht
      exact ⟨fun next => .read k (ReadPhase.afterSchedule next), fun _ => rfl, fun _ _ => rfl⟩
    | _ => cases ht
  | retry policy q =>
    cases q with
    | scheduling q =>
      obtain rfl := Option.some.inj ht
      let next := RetryPhase.afterSchedule policy
      exact ⟨fun q => .retry (next q).1 (next q).2, fun _ => rfl, fun _ _ => rfl⟩
    | _ => cases ht
  | _ => cases ht

/-- Whoever holds the writer may fail to write, and gives it back. -/
theorem Task.exists_release {t : Task} (h : t.holds = true) (s : Shared) :
    ∃ b, t.step? s (.fails "") = some b ∧ b.shared = { s with writerHeld := false } := by
  cases t with
  | send operation payload p =>
    cases p with
    | writing => exact ⟨_, rfl, rfl⟩
    | _ => cases h
  | read k p =>
    cases p with
    | ponging => exact ⟨_, rfl, rfl⟩
    | _ => cases h
  | _ => cases h

/-- Though nobody calls for a connection, one may come to be attempted. -/
def MayAttempt (c : Client) : Prop :=
  ∃ later, Uncalled later ∧ ∃ t ∈ (c.run later).tasks, t.attempts = true

/-- A client that some run leads to, which is not closed and has no connection. -/
structure Adrift (c : Client) : Prop where
  reached : ∃ settings as, c = (new settings).run as
  isOpen : c.shared.closed = false
  state : c.shared.state ≠ .connected

section Stirring

variable {c : Client} {j : Nat} {t : Task}

theorem MayAttempt.of_act {a : Action} (h : MayAttempt (c.act a)) (ha : a ≠ .connect) :
    MayAttempt c := by
  obtain ⟨later, hlater, t, ht, hattempts⟩ := h
  refine ⟨a :: later, fun a' ha' => ?_, t, ht, hattempts⟩
  obtain rfl | hmem := List.mem_cons.mp ha'
  · exact ha
  · exact hlater a' hmem

theorem mayAttempt_of_attempts (ht : c.tasks[j]? = some t) (h : t.attempts = true) : MayAttempt c :=
  ⟨[], nofun, t, List.mem_of_getElem? ht, h⟩

namespace Adrift

theorem sound (h : Adrift c) : ∃ lost, Sound c.shared c.tasks lost := by
  obtain ⟨settings, as, rfl⟩ := h.reached
  exact ⟨_, sound_run settings as⟩

theorem heldByOne (h : Adrift c) : HeldByOne c := by
  obtain ⟨settings, as, rfl⟩ := h.reached
  exact heldByOne_run settings as

theorem shutdown (h : Adrift c) : c.shared.shutdown = false := by
  obtain ⟨lost, hsound⟩ := h.sound
  cases hshut : c.shared.shutdown with
  | false => rfl
  | true => exact absurd (hsound.shut hshut) (Bool.eq_false_iff.mp h.isOpen)

theorem act (h : Adrift c) {a : Action} (hclosed : (c.act a).shared.closed = c.shared.closed)
    (hstate : (c.act a).shared.state ≠ .connected) : Adrift (c.act a) where
  reached := by
    obtain ⟨settings, as, rfl⟩ := h.reached
    exact ⟨settings, as ++ [a], by simp⟩
  isOpen := hclosed.trans h.isOpen
  state := hstate

/-- To follow a task by a step of its own. -/
theorem follow (h : Adrift c) (ht : c.tasks[j]? = some t) {o : Outcome} {b : Advance Task}
    (hs : t.step? c.shared o = some b) (hclosed : b.shared.closed = c.shared.closed)
    (hstate : b.shared.state ≠ .connected)
    (hnext : ∀ c', Adrift c' → c'.shared = b.shared → c'.tasks[j]? = some b.phase → MayAttempt c') :
    MayAttempt c := by
  obtain ⟨hshared, hphase⟩ := act_step ht hs
  have hadrift : Adrift (c.act (.step j o)) := h.act (by rw [hshared, hclosed]) (by rwa [hshared])
  exact (hnext _ hadrift hshared hphase).of_act (by rintro ⟨⟩)

/-- To follow a task that waits for the writer: meanwhile whoever holds it gives it back. -/
theorem follow_free (h : Adrift c) (ht : c.tasks[j]? = some t) (hholds : t.holds = false)
    (hnext : ∀ c', Adrift c' → c'.tasks[j]? = some t → c'.shared.writerHeld = false →
      MayAttempt c') :
    MayAttempt c := by
  cases hheld : c.shared.writerHeld with
  | false => exact hnext c h ht hheld
  | true =>
    obtain ⟨t', ht', hholds'⟩ :=
      List.countP_pos_iff.mp (by rw [h.heldByOne, hheld]; exact Nat.one_pos)
    obtain ⟨m, hm⟩ := List.mem_iff_getElem?.mp ht'
    obtain ⟨b, hs, hb⟩ := Task.exists_release hholds' c.shared
    have hshared := (act_step hm hs).1.trans hb
    have hadrift : Adrift (c.act (.step m (.fails ""))) :=
      h.act (by rw [hshared]) (by rw [hshared]; exact h.state)
    have hne : m ≠ j := by
      rintro rfl
      rw [ht] at hm
      rw [Option.some.inj hm, hholds'] at hholds
      cases hholds
    exact (hnext _ hadrift (act_step_ne ht hne _) (by rw [hshared])).of_act (by rintro ⟨⟩)

variable {policy : RetryPolicy}

/-- Once the delay is over, the loop tries. -/
theorem of_pausing (h : Adrift c) {wake : Nat}
    (ht : c.tasks[j]? = some (.retry policy (.pausing wake))) :
    MayAttempt c := by
  have hlater : Adrift (c.act (.elapse wake)) := h.act rfl h.state
  have hs : (Task.retry policy (.pausing wake)).step? (c.act (.elapse wake)).shared .fine =
      some ⟨{ (c.act (.elapse wake)).shared with
          metrics := c.shared.metrics.increment .reconnects },
        .retry policy (.trying .start), []⟩ := by
    have hwake : wake ≤ (c.act (.elapse wake)).shared.now := Nat.le_add_left _ _
    simp only [Task.step?, RetryPhase.step?, if_pos hwake]
    rfl
  exact (hlater.follow ht hs rfl h.state fun _ _ _ ht' =>
    mayAttempt_of_attempts ht' rfl).of_act (by rintro ⟨⟩)

theorem of_start (h : Adrift c) (ht : c.tasks[j]? = some (.retry policy .start)) : MayAttempt c :=
  h.follow (o := .fine) ht rfl rfl h.state fun _ h' _ ht' => h'.of_pausing ht'

/-- Where no loop is under way, whoever claims the mark of it starts one. -/
theorem of_claiming_free (h : Adrift c) (ht : c.tasks[j]? = some t)
    (hp : t.scheduling? = some .claiming) (hfree : c.shared.reconnecting = false) :
    MayAttempt c := by
  obtain ⟨around, -, hstep⟩ := Task.step?_scheduling hp
  have hs : t.step? c.shared .fine = some ⟨{ c.shared with reconnecting := true }, around none,
      [.retry { delay := c.shared.settings.reconnectDelay } .start]⟩ := by
    rw [hstep, SchedulePhase.step, hfree]
    rfl
  have hshared := (act_step ht hs).1
  have hadrift : Adrift (c.act (.step j .fine)) :=
    h.act (by rw [hshared]) (by rw [hshared]; exact h.state)
  have hstarted : (c.act (.step j .fine)).tasks[c.tasks.length]? =
      some (.retry { delay := c.shared.settings.reconnectDelay } .start) := by
    rw [Client.act, step_of_task ht hs]
    simp
  exact (hadrift.of_start hstarted).of_act (by rintro ⟨⟩)

theorem of_looking (h : Adrift c) (ht : c.tasks[j]? = some t) (hp : t.scheduling? = some .looking)
    (hnext : ∀ c' t', Adrift c' → c'.shared = c.shared → c'.tasks[j]? = some t' →
      t'.scheduling? = some .claiming → MayAttempt c') :
    MayAttempt c := by
  obtain ⟨around, haround, hstep⟩ := Task.step?_scheduling hp
  have hs : t.step? c.shared .fine = some ⟨c.shared, around (some .claiming), []⟩ := by
    rw [hstep, SchedulePhase.step, h.shutdown]
    rfl
  exact h.follow ht hs rfl h.state fun c' h' hshared ht' => hnext c' _ h' hshared ht' (haround _)

/-- A loop that has got a connection finds it gone, and has taken its mark back before. -/
theorem of_checking (h : Adrift c) (ht : c.tasks[j]? = some (.retry policy .checking))
    (hnext : ∀ c', Adrift c' → c'.shared = c.shared →
      c'.tasks[j]? = some (.retry policy (.scheduling .looking)) → MayAttempt c') :
    MayAttempt c := by
  have hs : (Task.retry policy .checking).step? c.shared .fine =
      some ⟨c.shared, .retry policy (.scheduling .looking), []⟩ := by
    simp only [Task.step?, RetryPhase.step?, if_neg h.state]
    rfl
  exact h.follow ht hs rfl h.state hnext

/-- A loop of attempts comes to try, wherever it is. -/
theorem of_loops (h : Adrift c) (ht : c.tasks[j]? = some t) (hloops : t.loops = true) :
    MayAttempt c := by
  cases t with
  | retry policy p =>
    cases p with
    | start => exact h.of_start ht
    | pausing wake => exact h.of_pausing ht
    | trying p =>
      cases p with
      | done result =>
        match result with
        | .ok () =>
          refine h.follow (o := .fine) ht rfl rfl h.state fun c₁ h₁ hs₁ ht₁ =>
              h₁.of_checking ht₁ fun c₂ h₂ hs₂ ht₂ =>
            h₂.of_looking ht₂ rfl fun c₃ t₃ h₃ hs₃ ht₃ hp₃ => h₃.of_claiming_free ht₃ hp₃ ?_
          rw [hs₃, hs₂, hs₁]
          rfl
        | .error .closed =>
          obtain ⟨lost, hsound⟩ := h.sound
          exact absurd (hsound.told _ (List.mem_of_getElem? ht) rfl) (Bool.eq_false_iff.mp h.isOpen)
        | .error (.connection _) | .error .notConnected | .error (.send _) | .error (.timeout _) =>
          exact h.follow (o := .fine) ht rfl rfl h.state fun _ h' _ ht' => h'.of_start ht'
      | _ => exact mayAttempt_of_attempts ht rfl
    | _ => cases hloops
  | _ => cases hloops

/-- Whoever claims the mark starts a loop, or finds one that has it. -/
theorem of_claiming (h : Adrift c) (ht : c.tasks[j]? = some t)
    (hp : t.scheduling? = some .claiming) :
    MayAttempt c := by
  cases hclaimed : c.shared.reconnecting with
  | false => exact h.of_claiming_free ht hp hclaimed
  | true =>
    obtain ⟨lost, hsound⟩ := h.sound
    obtain ⟨t', ht', hloops⟩ :=
      List.countP_pos_iff.mp (by rw [hsound.single, hclaimed]; exact Nat.one_pos)
    obtain ⟨m, hm⟩ := List.mem_iff_getElem?.mp ht'
    exact h.of_loops hm hloops

theorem of_scheduling (h : Adrift c) (ht : c.tasks[j]? = some t) {p : SchedulePhase}
    (hp : t.scheduling? = some p) :
    MayAttempt c := by
  cases p with
  | looking => exact h.of_looking ht hp fun _ _ h' _ ht' hp' => h'.of_claiming ht' hp'
  | claiming => exact h.of_claiming ht hp

theorem of_retry (h : Adrift c) {p : RetryPhase} (ht : c.tasks[j]? = some (.retry policy p))
    (hp : p.stirs = true) :
    MayAttempt c := by
  cases p with
  | checking => exact h.of_checking ht fun _ h' _ ht' => h'.of_scheduling ht' rfl
  | scheduling p => exact h.of_scheduling ht rfl
  | done => cases hp
  | _ => exact h.of_loops ht rfl

variable {k : Nat}

theorem of_releasing (h : Adrift c) (ht : c.tasks[j]? = some (.read k (.releasing false))) :
    MayAttempt c := by
  refine h.follow_free ht rfl fun c' h' ht' hfree => ?_
  have hs : (Task.read k (.releasing false)).step? c'.shared .fine =
      some ⟨{ c'.shared with writer := none }, .read k (.scheduling .looking), []⟩ := by
    simp only [Task.step?, ReadPhase.step?, hfree]
    rfl
  exact h'.follow ht' hs rfl h'.state fun _ h'' _ ht'' => h''.of_scheduling ht'' rfl

theorem of_dropping (h : Adrift c) (ht : c.tasks[j]? = some (.read k (.dropping false))) :
    MayAttempt c :=
  h.follow (o := .fine) ht rfl rfl nofun fun _ h' _ ht' => h'.of_releasing ht'

/-- A reader may meet a failure. -/
theorem of_waiting (h : Adrift c) (ht : c.tasks[j]? = some (.read k .waiting)) : MayAttempt c :=
  h.follow (o := .meets .failure) ht rfl rfl h.state fun _ h' _ ht' => h'.of_dropping ht'

theorem of_ponging (h : Adrift c) {w : Nat} {data : List UInt8}
    (ht : c.tasks[j]? = some (.read k (.ponging w data))) : MayAttempt c :=
  h.follow (o := .fails "") ht rfl rfl h.state fun _ h' _ ht' => h'.of_waiting ht'

theorem of_answering (h : Adrift c) {data : List UInt8}
    (ht : c.tasks[j]? = some (.read k (.answering data))) :
    MayAttempt c := by
  refine h.follow_free ht rfl fun c' h' ht' hfree => ?_
  cases hw : c'.shared.writer with
  | none =>
    have hs : (Task.read k (.answering data)).step? c'.shared .fine =
        some ⟨c'.shared, .read k .waiting, []⟩ := by
      simp only [Task.step?, ReadPhase.step?, hfree, hw]
      rfl
    exact h'.follow ht' hs rfl h'.state fun _ h'' _ ht'' => h''.of_waiting ht''
  | some w =>
    have hs : (Task.read k (.answering data)).step? c'.shared .fine =
        some ⟨{ c'.shared with writerHeld := true }, .read k (.ponging w data), []⟩ := by
      simp only [Task.step?, ReadPhase.step?, hfree, hw]
      rfl
    exact h'.follow ht' hs rfl h'.state fun _ h'' _ ht'' => h''.of_ponging ht''

/-- A reader that stirs may fail, and then sees to a retry. -/
theorem of_read (h : Adrift c) {p : ReadPhase} (ht : c.tasks[j]? = some (.read k p))
    (hp : p.stirs = true) :
    MayAttempt c := by
  cases p with
  | waiting => exact h.of_waiting ht
  | answering data => exact h.of_answering ht
  | ponging w data => exact h.of_ponging ht
  | dropping clean =>
    cases clean with
    | false => exact h.of_dropping ht
    | true => cases hp
  | releasing clean =>
    cases clean with
    | false => exact h.of_releasing ht
    | true => cases hp
  | scheduling p => exact h.of_scheduling ht rfl
  | done => cases hp

/-- A task that stirs may bring an attempt about. -/
theorem mayAttempt (h : Adrift c) (ht : c.tasks[j]? = some t) (hstirs : t.stirs = true) :
    MayAttempt c := by
  cases t with
  | connect p => exact mayAttempt_of_attempts ht hstirs
  | read k p => exact h.of_read ht hstirs
  | retry policy p => exact h.of_retry ht hstirs
  | _ => cases hstirs

end Adrift

end Stirring

/-- After a clean end of a connection the client stays down if no other task stirs; and a client
that is not closed stays down only then. -/
theorem stays_down_iff_quiet (settings : ConnectionSettings) (as : List Action) (i k : Nat)
    (code : Option Nat) (hreader : ((new settings).run as).tasks[i]? = some (.read k .waiting))
    (hclean : endsForGood code = true) :
    let c := ((new settings).run as).act (.step i (.meets (.close code)))
    (Quiet c → StaysDown c i k) ∧ (c.shared.closed = false → StaysDown c i k → Quiet c) := by
  intro c
  have hs : (Task.read k .waiting).step? ((new settings).run as).shared (.meets (.close code)) =
      some ⟨((new settings).run as).shared, .read k (.dropping true), []⟩ := by
    simp only [Task.step?, ReadPhase.step?, hclean]
    rfl
  have hdropping : c.tasks[i]? = some (.read k (.dropping true)) := (act_step hreader hs).2
  refine ⟨fun hquiet => hquiet.staysDown hdropping, fun hopen hdown t ht => ?_⟩
  refine Bool.eq_false_iff.mpr fun hstirs => ?_
  obtain ⟨j, hj⟩ := List.mem_iff_getElem?.mp ht
  -- First the connection is given up, so that a loop which has got it finds it gone.
  have hshared := (act_step (o := .fine) hdropping rfl).1
  have hadrift : Adrift (c.act (.step i .fine)) := by
    refine ⟨⟨settings, as ++ [.step i (.meets (.close code)), .step i .fine], by simp [c]⟩, ?_, ?_⟩
    · rw [hshared]
      exact hopen
    · rw [hshared]
      rintro ⟨⟩
  have hne : i ≠ j := by
    rintro rfl
    rw [hdropping] at hj
    rw [← Option.some.inj hj] at hstirs
    cases hstirs
  obtain ⟨later, hlater, t', ht', hattempts⟩ :=
    (hadrift.mayAttempt (act_step_ne hj hne _) hstirs).of_act (by rintro ⟨⟩)
  exact Bool.eq_false_iff.mp ((hdown later hlater).1 t' ht') hattempts

def regained : List Action :=
  [[.connect], List.replicate 5 (.step 0 .fine), [.step 1 (.meets .failure)],
    List.replicate 4 (.step 1 .fine), [.step 2 .fine, .elapse 5000],
    List.replicate 6 (.step 2 .fine)].flatten

/-- When the retry has seen that the connection stands, and that is then closed cleanly, the client
stays down. -/
theorem regained_stays_down :
    let as := regained ++ List.replicate 2 (.step 2 .fine)
    ((new {}).run as).tasks[3]? = some (.read 1 .waiting) ∧ endsForGood (some 1000) = true ∧
      StaysDown (((new {}).run as).act (.step 3 (.meets (.close (some 1000))))) 3 1 := by
  intro as
  exact ⟨rfl, rfl, (stays_down_iff_quiet {} as 3 1 (some 1000) rfl rfl).1 (by decide)⟩

/-- The reader of the second connection gives it up. Only then does the retry look whether that
stands, and so there is another retry, which gets a third one. -/
def thirdConnection : List Action :=
  [List.replicate 2 (.step 3 .fine), List.replicate 4 (.step 2 .fine),
    [.step 4 .fine, .elapse 5000], List.replicate 6 (.step 4 .fine)].flatten

/-- So a client does not stay down when its connection is closed cleanly before the retry has seen
that it stands. -/
theorem clean_close_reconnected :
    let c := (new {}).run regained
    let c' := c.act (.step 3 (.meets (.close (some 1000))))
    c.shared.state = .connected ∧ c.shared.current = some 1 ∧ c.shared.closed = false ∧
      c.tasks[3]? = some (.read 1 .waiting) ∧ endsForGood (some 1000) = true ∧
      Uncalled thirdConnection ∧ (c'.run thirdConnection).shared.state = .connected ∧
      (c'.run thirdConnection).shared.opened = 3 ∧ ¬ StaysDown c' 3 1 := by
  intro c c'
  have huncalled : Uncalled thirdConnection := by
    rintro _ ha rfl
    simp [thirdConnection] at ha
  have hattempts : (c'.run (thirdConnection.take 10)).tasks.any Task.attempts = true := by decide
  refine ⟨rfl, rfl, rfl, rfl, rfl, huncalled, by decide, by decide, fun hdown => ?_⟩
  obtain ⟨t, ht, hattempt⟩ := List.any_eq_true.mp hattempts
  have hnone := (hdown _ fun a ha => huncalled a (List.mem_of_mem_take ha)).1 t ht
  exact Bool.eq_false_iff.mp hnone hattempt

end VenueGateway.Client
