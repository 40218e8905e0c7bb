import Mathlib.Data.List.Perm.Basic
import VenueGateway.Proofs.Client.Moves

/-!
A connection that is lost is pursued. The mark that a retry is under way is set by whoever sees that
the connection is gone and taken back by the loop that the mark stands for, so there is never more
than one loop; and whoever comes late finds either the mark or the connection that the loop has got.
-/

namespace VenueGateway.Client

/-- Whether a connection that ends in this way is to be replaced. -/
def Inbound.breaks : Inbound → Bool
  | .close code => !endsForGood code
  | .failure => true
  | _ => false

namespace Task

def connecting? : Task → Option ConnectPhase
  | connect p => some p
  | retry _ (.trying p) => some p
  | _ => none

/-- The connection that a task has opened, or reads from. -/
def connection? : Task → Option Nat
  | connect p => p.connection?
  | read connection _ => some connection
  | retry _ (.trying p) => p.connection?
  | _ => none

def loops : Task → Bool
  | retry _ p => p.loops
  | _ => false

/-- Whether the task has yet to see what the loss of a connection calls for. -/
def reacts (connection : Nat) : Task → Bool
  | read c p => c == connection && p.reacts
  | retry _ p => p.reacts
  | _ => false

/-- Whether the task could only come to where it is because the client is closed. -/
def knowsClosed : Task → Bool
  | close p => p != .start
  | retry _ (.trying (.done (.error .closed))) => true
  | _ => false

def loses? (o : Outcome) : Task → Option Nat
  | read connection .waiting =>
    match o with
    | .meets what => if what.breaks then some connection else none
    | _ => none
  | _ => none

end Task

def lostAt (c : Client) : Action → Option Nat
  | .step i o => c.tasks[i]?.bind (Task.loses? o)
  | _ => none

def lost (c : Client) : List Action → List Nat
  | [] => []
  | a :: as => (c.lostAt a).toList ++ lost (c.act a) as

/-- The reader that loses a connection is the one that has to give it up. -/
theorem step_of_loses {o : Outcome} {t : Task} {k : Nat} (hl : t.loses? o = some k) (s : Shared) :
    t.step? s o = some ⟨s, .read k (.dropping false), []⟩ := by
  unfold Task.loses? at hl
  split at hl
  · split at hl
    · next connection _ what =>
      split at hl
      · next hbreaks =>
        obtain rfl := Option.some.inj hl
        cases what with
        | close code =>
          have hnot : endsForGood code = false := by simpa [Inbound.breaks] using hbreaks
          simp [Task.step?, ReadPhase.step?, Advance.map, hnot]
        | failure => rfl
        | _ => cases hbreaks
      · cases hl
    · cases hl
  · cases hl

section Moves

variable {s : Shared}

theorem ConnectPhase.Move.settings {p : ConnectPhase} {a : Advance ConnectPhase} (h : p.Move s a) :
    a.shared.settings = s.settings := by
  cases h with
  | goesOn hs => exact hs.settings
  | fails hs => exact hs.settings
  | opens => rfl
  | installs k =>
    unfold Shared.install
    split <;> rfl

theorem ConnectPhase.Move.marks {p : ConnectPhase} {a : Advance ConnectPhase} (h : p.Move s a) :
    a.shared.shutdown = s.shutdown ∧ a.shared.closed = s.closed ∧ a.shared.reconnecting =
      s.reconnecting := by
  cases h with
  | goesOn hs => exact ⟨hs.shutdown, hs.closed, hs.reconnecting⟩
  | fails hs => exact ⟨hs.shutdown, hs.closed, hs.reconnecting⟩
  | opens => exact ⟨rfl, rfl, rfl⟩
  | installs k =>
    unfold Shared.install
    split <;> exact ⟨rfl, rfl, rfl⟩

/-- Only the installing of a connection makes the state connected, or puts another in its place. -/
theorem ConnectPhase.Move.current {p : ConnectPhase} {a : Advance ConnectPhase} (h : p.Move s a) :
    (a.shared.current = s.current ∧ (a.shared.state = .connected → s.state = .connected)) ∨
    ∃ k, p.connection? = some k ∧ a.shared.current = some k := by
  cases h with
  | goesOn hs => exact .inl ⟨hs.current, hs.state⟩
  | fails hs => exact .inl ⟨hs.current, hs.state⟩
  | opens => exact .inl ⟨rfl, id⟩
  | installs k =>
    refine .inr ⟨k, rfl, ?_⟩
    unfold Shared.install
    split <;> rfl

/-- A connection is opened under a new name, and keeps it until it is installed or given up. -/
theorem ConnectPhase.Move.names {p : ConnectPhase} {a : Advance ConnectPhase} (h : p.Move s a) :
    ((a.phase.connection?.toList ++ a.started.filterMap Task.connection?).Sublist
      p.connection?.toList ∧
      a.shared.opened = s.opened) ∨
    (a.phase.connection?.toList ++ a.started.filterMap Task.connection? = [s.opened] ∧
      a.shared.opened = s.opened + 1) := by
  cases h with
  | goesOn hs hname => exact .inl ⟨by simp [hname], hs.opened⟩
  | fails hs => exact .inl ⟨by simp [connection?], hs.opened⟩
  | opens => exact .inr ⟨by simp [connection?], rfl⟩
  | installs k =>
    refine .inl ⟨by simp [connection?, Task.connection?], ?_⟩
    unfold Shared.install
    split <;> rfl

theorem ConnectPhase.Move.started {p : ConnectPhase} {a : Advance ConnectPhase} (h : p.Move s a) :
    a.started.countP Task.loops = 0 ∧ ∀ t ∈ a.started, ∃ k, t = .read k .waiting := by
  cases h with
  | installs k => exact ⟨rfl, fun t ht => ⟨k, List.mem_singleton.mp ht⟩⟩
  | _ => exact ⟨rfl, nofun⟩

theorem SchedulePhase.Move.keeps {p : SchedulePhase} {a : Advance (Option SchedulePhase)}
    (h : p.Move s a) :
    Keeps s a.shared := by
  cases h <;> exact ⟨rfl, rfl, rfl, rfl, rfl, id⟩

/-- A loop is started by setting the mark of it, and only where there is none. -/
theorem SchedulePhase.Move.started {p : SchedulePhase} {a : Advance (Option SchedulePhase)}
    (h : p.Move s a) :
    a.started.countP Task.loops + s.reconnecting.toNat = a.shared.reconnecting.toNat ∧
      ∀ t ∈ a.started, t = .retry { delay := s.settings.reconnectDelay } .start := by
  cases h with
  | claims hfree =>
    exact ⟨by simp [hfree, Task.loops, RetryPhase.loops], fun t => List.mem_singleton.mp⟩
  | _ => exact ⟨by simp, nofun⟩

/-- Whoever has seen to a retry leaves the mark of one behind, unless the client is shut down. -/
theorem SchedulePhase.Move.seen {p : SchedulePhase} {a : Advance (Option SchedulePhase)}
    (h : p.Move s a) :
    s.shutdown = true ∨ a.shared.reconnecting = true ∨ ∃ next, a.phase = some next := by
  cases h with
  | stops hshut => exact .inl hshut
  | goesOn => exact .inr (.inr ⟨_, rfl⟩)
  | leaves hclaimed => exact .inr (.inl hclaimed)
  | claims => exact .inr (.inl rfl)

namespace Task.Move

variable {o : Outcome} {t : Task} {a : Advance Task}

/-- A task that neither connects nor closes keeps the connection, and the others are about nothing
else. -/
theorem keeps_or (h : t.Move s o a) :
    Keeps s a.shared ∨
    (∃ p b, t.connecting? = some p ∧ ConnectPhase.Move s p b ∧ a.shared = b.shared) ∨
    ∃ p b, t = .close p ∧ ClosePhase.Move s p b ∧ a.shared = b.shared := by
  cases h with
  | connect h => exact .inr (.inl ⟨_, _, rfl, h, rfl⟩)
  | send h => exact .inl h.mark.toKeeps
  | close h => exact .inr (.inr ⟨_, _, rfl, h, rfl⟩)
  | read h =>
    cases h with
    | reads hr => exact .inl hr.mark.toKeeps
    | drops clean => exact .inl ⟨rfl, rfl, rfl, rfl, rfl, nofun⟩
    | releases hs => exact .inl hs.toKeeps
    | schedules h => exact .inl h.keeps
  | retry h =>
    cases h with
    | wakes hs => exact .inl hs.toKeeps
    | tries _ h => exact .inr (.inl ⟨_, _, rfl, h, rfl⟩)
    | schedules h => exact .inl h.keeps
    | _ => exact .inl ⟨rfl, rfl, rfl, rfl, rfl, id⟩

theorem settings (h : t.Move s o a) : a.shared.settings = s.settings := by
  obtain hs | ⟨p, b, -, hb, heq⟩ | ⟨p, b, -, hb, heq⟩ := h.keeps_or
  · exact hs.settings
  · rw [heq, hb.settings]
  · rw [heq]
    cases hb with
    | goesOn hs => exact hs.settings
    | _ => rfl

/-- What is closed stays closed, and only a task that knows of it shuts a client down. -/
theorem closed (h : t.Move s o a) :
    (s.closed = true → a.shared.closed = true) ∧
      (a.shared.shutdown = true → s.shutdown = true ∨ t.knowsClosed = true) := by
  obtain hs | ⟨p, b, -, hb, heq⟩ | ⟨p, b, rfl, hb, heq⟩ := h.keeps_or
  · exact ⟨fun hc => hs.closed.trans hc, fun hd => .inl (hs.shutdown.symm.trans hd)⟩
  · obtain ⟨hshut, hclosed, -⟩ := hb.marks
    rw [heq]
    exact ⟨fun hc => hclosed.trans hc, fun hd => .inl (hshut.symm.trans hd)⟩
  · rw [heq]
    cases hb with
    | begins => exact ⟨fun _ => rfl, .inl⟩
    | announces => exact ⟨id, fun _ => .inr rfl⟩
    | goesOn hs => exact ⟨fun hc => hs.closed.trans hc, fun hd => .inl (hs.shutdown.symm.trans hd)⟩

/-- A connection becomes the current one only when it is installed by the task that opened it. -/
theorem current (h : t.Move s o a) :
    (a.shared.current = s.current ∧ (a.shared.state = .connected → s.state = .connected)) ∨
    ∃ p k, t.connecting? = some p ∧ p.connection? = some k ∧ a.shared.current = some k := by
  obtain hs | ⟨p, b, hp, hb, heq⟩ | ⟨p, b, rfl, hb, heq⟩ := h.keeps_or
  · exact .inl ⟨hs.current, hs.state⟩
  · rw [heq]
    obtain hsame | ⟨k, hk, hcurrent⟩ := hb.current
    · exact .inl hsame
    · exact .inr ⟨p, k, hp, hk, hcurrent⟩
  · rw [heq]
    cases hb with
    | goesOn hs => exact .inl ⟨hs.current, hs.state⟩
    | _ => exact .inl ⟨rfl, id⟩

/-- A task that is started is a reader, or a loop with the delay that the settings give. -/
theorem started (h : t.Move s o a) :
    ∀ t' ∈ a.started, (∃ k, t' = .read k .waiting) ∨
    t' = .retry { delay := s.settings.reconnectDelay } .start := by
  intro t' ht'
  cases h with
  | connect h => exact .inl (h.started.2 t' ht')
  | send h =>
    rw [Advance.map, h.started] at ht'
    cases ht'
  | close h => cases h <;> cases ht'
  | read h =>
    cases h with
    | schedules h => exact .inr (h.started.2 t' ht')
    | _ => cases ht'
  | retry h =>
    cases h with
    | tries _ h => exact .inl (h.started.2 t' ht')
    | schedules h => exact .inr (h.started.2 t' ht')
    | _ => cases ht'

/-- A loop keeps its delay. -/
theorem delay (h : t.Move s o a) {policy : RetryPolicy} {p : RetryPhase}
    (hp : a.phase = .retry policy p) :
    ∃ policy' p', t = .retry policy' p' ∧ policy.delay = policy'.delay := by
  cases h with
  | retry h =>
    refine ⟨_, _, rfl, ?_⟩
    obtain ⟨rfl, -⟩ := Task.retry.inj hp
    cases h with
    | schedules h => cases h <;> rfl
    | _ => rfl
  | _ => cases hp

/-- The mark of a retry is set and taken back by the loop that it stands for. -/
theorem loops (h : t.Move s o a) (ht : t.loops = true → s.reconnecting = true) :
    a.phase.loops.toNat + a.started.countP Task.loops + s.reconnecting.toNat =
      t.loops.toNat + a.shared.reconnecting.toNat := by
  cases h with
  | connect h => simp [Advance.map, Task.loops, h.started.1, h.marks.2.2]
  | send h => simp [Advance.map, Task.loops, h.started, h.mark.reconnecting]
  | close h =>
    cases h with
    | goesOn hs => simp [Advance.map, Task.loops, hs.reconnecting]
    | _ => simp [Advance.map, Task.loops]
  | read h =>
    cases h with
    | reads hr => simp [Advance.map, Task.loops, hr.mark.reconnecting]
    | drops clean => rfl
    | releases hs => simp [Advance.map, Task.loops, hs.reconnecting]
    | schedules h => simpa [Advance.map, Task.loops] using h.started.1
  | retry h =>
    cases h with
    | wakes hs => simp [Advance.map, Task.loops, RetryPhase.loops, hs.reconnecting]
    | tries _ h => simp [Advance.map, Task.loops, RetryPhase.loops, h.started.1, h.marks.2.2]
    | schedules h =>
      have hnot : ∀ policy next, (RetryPhase.afterSchedule policy next).2.loops = false :=
          fun _ next => by
        cases next <;> rfl
      have hseeing : ∀ p, (RetryPhase.scheduling p).loops = false := fun _ => rfl
      simpa [Advance.map, Task.loops, hnot, hseeing] using h.started.1
    | stops | connects | givesUp => simp [Advance.map, Task.loops, RetryPhase.loops, ht rfl]
    | pauses | again | rests | looks => simp [Advance.map, Task.loops, RetryPhase.loops]

/-- A name is given to a connection when it is opened, and to no other. -/
theorem names (h : t.Move s o a) :
    ((a.phase.connection?.toList ++ a.started.filterMap Task.connection?).Sublist
      t.connection?.toList ∧
      a.shared.opened = s.opened) ∨
    (a.phase.connection?.toList ++ a.started.filterMap Task.connection? = [s.opened] ∧
      a.shared.opened = s.opened + 1) := by
  have hscheduled : ∀ {p : SchedulePhase} {b : Advance (Option SchedulePhase)}, p.Move s b →
      b.started.filterMap Task.connection? = [] := fun hb =>
    List.filterMap_eq_nil_iff.mpr fun t' ht' => by rw [hb.started.2 t' ht']; rfl
  cases h with
  | connect h => exact h.names
  | send h =>
    rw [Advance.map, h.started]
    exact .inl ⟨.refl _, h.mark.opened⟩
  | close h =>
    cases h with
    | goesOn hs => exact .inl ⟨.refl _, hs.opened⟩
    | _ => exact .inl ⟨.refl _, rfl⟩
  | read h =>
    cases h with
    | reads hr => exact .inl ⟨.refl _, hr.mark.opened⟩
    | drops clean => exact .inl ⟨.refl _, rfl⟩
    | releases hs => exact .inl ⟨.refl _, hs.opened⟩
    | schedules h =>
      exact .inl ⟨by simp [Advance.map, hscheduled h, Task.connection?], h.keeps.opened⟩
  | retry h =>
    cases h with
    | wakes hs => exact .inl ⟨.refl _, hs.opened⟩
    | tries _ h => exact h.names
    | schedules h =>
      have hnone : ∀ policy next, (Task.retry (RetryPhase.afterSchedule policy next).1
          (RetryPhase.afterSchedule policy next).2).connection? = none :=
            fun _ next => by cases next <;> rfl
      exact .inl ⟨by simp [Advance.map, hscheduled h, hnone], h.keeps.opened⟩
    | _ => exact .inl ⟨.refl _, rfl⟩

theorem reader (h : t.Move s o a) {k : Nat} {p : ReadPhase} (ht : t = .read k p) :
    ∃ p', a.phase = .read k p' := by
  subst ht
  cases h with
  | read h => exact ⟨_, rfl⟩

/-- Only a client that is closed lets a task come to where it knows of that. -/
theorem knowsClosed (h : t.Move s o a) (hshut : s.shutdown = true → s.closed = true)
    (ht : t.knowsClosed = true → s.closed = true) (ha : a.phase.knowsClosed = true) :
    s.closed = true ∨ a.shared.closed = true := by
  cases h with
  | @close p b h =>
    cases h with
    | begins => exact .inr rfl
    | announces => exact .inl (ht rfl)
    | goesOn hs hclosed =>
      by_cases hp : p = .start
      · exact .inl (hclosed hp)
      · exact .inl (ht (by simpa [Task.knowsClosed] using hp))
  | retry h =>
    cases h with
    | tries hp h =>
      cases h with
      | @goesOn _ p' s' hs hname hopen =>
        cases p' with
        | done => cases hopen
        | _ => cases ha
      | @fails _ s' e hs he =>
        cases e with
        | closed => exact .inl ((he rfl).elim hshut id)
        | _ => cases ha
      | opens => cases ha
      | installs k => cases ha
    | schedules h => cases h <;> cases ha
    | _ => cases ha
  | _ => cases ha

/-- A task that reacts to a loss goes on to do so until there is the mark of a retry, unless it is
the last look of a loop that finds the state connected. -/
theorem reacts (h : t.Move s o a) {k : Nat} (ht : t.reacts k = true) :
    a.phase.reacts k = true ∨ a.shared.reconnecting = true ∨ s.shutdown = true ∨
      s.state = .connected ∧ ∀ p, t ≠ .read k p := by
  cases h with
  | read h =>
    cases h with
    | reads hr => simp [Task.reacts, hr.reacts] at ht
    | drops clean => exact .inl ht
    | releases hs => exact .inl ht
    | schedules h =>
      obtain hshut | hmark | ⟨next, hnext⟩ := h.seen
      · exact .inr (.inr (.inl hshut))
      · exact .inr (.inl hmark)
      · refine .inl ?_
        simpa [Advance.map, hnext, ReadPhase.afterSchedule, Task.reacts, ReadPhase.reacts] using ht
  | retry h =>
    cases h with
    | @tries p b hp h =>
      cases p with
      | done => cases hp
      | _ => cases ht
    | connects => exact .inl rfl
    | rests hs => exact .inr (.inr (.inr ⟨hs, nofun⟩))
    | looks => exact .inl rfl
    | schedules h =>
      obtain hshut | hmark | ⟨next, hnext⟩ := h.seen
      · exact .inr (.inr (.inl hshut))
      · exact .inr (.inl hmark)
      · refine .inl ?_
        simp [Advance.map, hnext, RetryPhase.afterSchedule, Task.reacts, RetryPhase.reacts]
    | _ => cases ht
  | _ => cases ht

/-- A loop takes the mark back when it has got a connection, and then looks again; otherwise the
client is closed. -/
theorem reconnecting (h : t.Move s o a) (hs : s.reconnecting = true) (k : Nat) :
    a.shared.reconnecting = true ∨ a.phase.reacts k = true ∨ s.shutdown = true ∨
      t.knowsClosed = true := by
  cases h with
  | connect h => exact .inl (h.marks.2.2.trans hs)
  | send h => exact .inl (h.mark.reconnecting.trans hs)
  | close h =>
    cases h with
    | goesOn hk => exact .inl (hk.reconnecting.trans hs)
    | _ => exact .inl hs
  | read h =>
    cases h with
    | reads hr => exact .inl (hr.mark.reconnecting.trans hs)
    | drops => exact .inl hs
    | releases hk => exact .inl (hk.reconnecting.trans hs)
    | schedules h =>
      cases h with
      | claims => exact .inl rfl
      | _ => exact .inl hs
  | retry h =>
    cases h with
    | stops hshut => exact .inr (.inr (.inl hshut))
    | wakes hk => exact .inl (hk.reconnecting.trans hs)
    | tries _ h => exact .inl (h.marks.2.2.trans hs)
    | connects => exact .inr (.inl rfl)
    | givesUp => exact .inr (.inr (.inr rfl))
    | schedules h =>
      cases h with
      | claims => exact .inl rfl
      | _ => exact .inl hs
    | _ => exact .inl hs

end Task.Move

end Moves

theorem countP_cons_toNat (p : Task → Bool) (t : Task) (ts : List Task) :
    (t :: ts).countP p = (p t).toNat + ts.countP p := by
  cases ht : p t <;> simp [ht, Nat.add_comm]

/-- What holds of the marks, the tasks, and the connections that have been lost. -/
structure Sound (s : Shared) (tasks : List Task) (lost : List Nat) : Prop where
  /-- The mark of a retry stands for the one loop that is under way. -/
  single : tasks.countP Task.loops = s.reconnecting.toNat
  delays : ∀ policy p, .retry policy p ∈ tasks → policy.delay = s.settings.reconnectDelay
  shut : s.shutdown = true → s.closed = true
  told : ∀ t ∈ tasks, t.knowsClosed = true → s.closed = true
  distinct : (tasks.filterMap Task.connection?).Nodup
  named : ∀ k ∈ tasks.filterMap Task.connection?, k < s.opened
  readers : ∀ k ∈ lost, ∃ p, .read k p ∈ tasks
  /-- Once its reader has given it up, the state shows that the connection is lost. -/
  noticed : ∀ k ∈ lost, s.current = some k → s.state = .connected →
    .read k (.dropping false) ∈ tasks
  pursued : ∀ k ∈ lost, s.current = some k → s.closed = false →
    s.reconnecting = true ∨ ∃ t ∈ tasks, t.reacts k = true

namespace Sound

variable {s : Shared} {tasks tasks' rest : List Task} {lost : List Nat} {o : Outcome} {t : Task}
  {a : Advance Task}

/-- The order of the tasks is of no account. -/
theorem perm (h : Sound s tasks lost) (hp : tasks.Perm tasks') : Sound s tasks' lost where
  single := hp.countP_eq _ ▸ h.single
  delays := fun policy p hm => h.delays policy p (hp.mem_iff.mpr hm)
  shut := h.shut
  told := fun t ht => h.told t (hp.mem_iff.mpr ht)
  distinct := (hp.filterMap _).nodup_iff.mp h.distinct
  named := fun k hk => h.named k ((hp.filterMap _).mem_iff.mpr hk)
  readers := fun k hk => (h.readers k hk).imp fun _ => hp.mem_iff.mp
  noticed := fun k hk hc hs => hp.mem_iff.mp (h.noticed k hk hc hs)
  pursued := fun k hk hc hn => (h.pursued k hk hc hn).imp_right fun ⟨t, ht, hr⟩ =>
    ⟨t, hp.mem_iff.mp ht, hr⟩

/-- A connection that a task is about to install has not been lost: whoever loses one reads from
it. -/
theorem not_lost (h : Sound s (t :: rest) lost) {p : ConnectPhase} (hp : t.connecting? = some p)
    {k : Nat} (hk : p.connection? = some k) : k ∉ lost := by
  intro hl
  obtain ⟨q, hq⟩ := h.readers k hl
  have hname : t.connection? = some k := by
    cases t with
    | connect => exact Option.some.inj hp ▸ hk
    | retry policy phase =>
      cases phase with
      | trying => exact Option.some.inj hp ▸ hk
      | _ => cases hp
    | _ => cases hp
  have hreader : Task.read k q ∈ rest := by
    rcases List.mem_cons.mp hq with rfl | hr
    · cases hp
    · exact hr
  have hdistinct := h.distinct
  rw [List.filterMap_cons_some hname, List.nodup_cons] at hdistinct
  exact hdistinct.1 (List.mem_filterMap.mpr ⟨_, hreader, rfl⟩)

/-- There is a loop just where the mark is set, also after a step. -/
theorem single_step (h : Sound s (t :: rest) lost) (hm : t.Move s o a) :
    (a.phase :: (a.started ++ rest)).countP Task.loops = a.shared.reconnecting.toNat := by
  have hsingle := h.single
  rw [countP_cons_toNat] at hsingle
  have hmark : t.loops = true → s.reconnecting = true := by
    intro hl
    cases hr : s.reconnecting with
    | true => rfl
    | false => simp [hl, hr] at hsingle
  have hbalance := hm.loops hmark
  rw [countP_cons_toNat, List.countP_append]
  omega

theorem delays_step (h : Sound s (t :: rest) lost) (hm : t.Move s o a) {policy : RetryPolicy}
    {p : RetryPhase} (hp : .retry policy p ∈ a.phase :: (a.started ++ rest)) :
    policy.delay = a.shared.settings.reconnectDelay := by
  rw [hm.settings]
  rcases List.mem_cons.mp hp with hp | hp
  · obtain ⟨policy', p', rfl, hd⟩ := hm.delay hp.symm
    exact hd.trans (h.delays policy' p' List.mem_cons_self)
  · rcases List.mem_append.mp hp with hp | hp
    · obtain ⟨k, hk⟩ | hr := hm.started _ hp
      · cases hk
      · obtain ⟨rfl, -⟩ := Task.retry.inj hr
        rfl
    · exact h.delays policy p (List.mem_cons_of_mem _ hp)

theorem told_step (h : Sound s (t :: rest) lost) (hm : t.Move s o a) {t' : Task}
    (ht' : t' ∈ a.phase :: (a.started ++ rest)) (hk : t'.knowsClosed = true) :
    a.shared.closed = true := by
  rcases List.mem_cons.mp ht' with rfl | ht'
  · exact (hm.knowsClosed h.shut (h.told t List.mem_cons_self) hk).elim hm.closed.1 id
  · rcases List.mem_append.mp ht' with ht' | ht'
    · obtain ⟨k, rfl⟩ | rfl := hm.started t' ht' <;> cases hk
    · exact hm.closed.1 (h.told t' (List.mem_cons_of_mem _ ht') hk)

/-- A new name is larger than all that were given before. -/
theorem names_step (h : Sound s (t :: rest) lost) (hm : t.Move s o a) :
    ((a.phase :: (a.started ++ rest)).filterMap Task.connection?).Nodup ∧
      ∀ k ∈ (a.phase :: (a.started ++ rest)).filterMap Task.connection?, k < a.shared.opened := by
  have hparts : ∀ (t' : Task) ts, (t' :: ts).filterMap Task.connection? =
      t'.connection?.toList ++ ts.filterMap Task.connection? := by
    intro t' ts
    cases hc : t'.connection? <;> simp [hc]
  have hdistinct := h.distinct
  have hnamed := h.named
  rw [hparts] at hdistinct hnamed
  rw [hparts, List.filterMap_append, ← List.append_assoc]
  obtain ⟨hsub, hopened⟩ | ⟨hnew, hopened⟩ := hm.names
  · have hall := hsub.append_right (rest.filterMap Task.connection?)
    rw [hopened]
    exact ⟨hdistinct.sublist hall, fun k hk => hnamed k (hall.subset hk)⟩
  · have hold : ∀ k ∈ rest.filterMap Task.connection?, k < s.opened := fun k hk =>
      hnamed k (List.mem_append_right _ hk)
    rw [hnew, hopened, List.singleton_append]
    refine ⟨List.nodup_cons.mpr ⟨fun hk => Nat.lt_irrefl _ (hold _ hk),
      (List.nodup_append.mp hdistinct).2.1⟩, fun k hk => ?_⟩
    rcases List.mem_cons.mp hk with rfl | hk
    · exact Nat.lt_succ_self _
    · exact Nat.lt_succ_of_lt (hold k hk)

/-- Where a connection that was lost is still the one installed, nothing was installed in its
place. -/
theorem current_step (h : Sound s (t :: rest) lost) (hm : t.Move s o a) {k : Nat} (hk : k ∈ lost)
    (hc : a.shared.current = some k) :
    s.current = some k ∧ (a.shared.state = .connected → s.state = .connected) := by
  obtain ⟨hsame, hstate⟩ | ⟨p, k', hp, hk', hc'⟩ := hm.current
  · exact ⟨hsame ▸ hc, hstate⟩
  · obtain rfl : k' = k := Option.some.inj (hc'.symm.trans hc)
    exact absurd hk (h.not_lost hp hk')

theorem noticed_step (h : Sound s (t :: rest) lost) (hs : t.step? s o = some a) {k : Nat}
    (hk : k ∈ lost) (hc : a.shared.current = some k) (hstate : a.shared.state = .connected) :
    .read k (.dropping false) ∈ a.phase :: (a.started ++ rest) := by
  obtain ⟨hc', hstate'⟩ := h.current_step (Task.move_of_step hs) hk hc
  rcases List.mem_cons.mp (h.noticed k hk hc' (hstate' hstate)) with rfl | hm
  · -- The reader takes this very step, and then the state is not connected.
    obtain rfl := Option.some.inj hs
    cases hstate
  · exact List.mem_cons_of_mem _ (List.mem_append_right _ hm)

/-- A lost connection goes on being pursued: by the mark, or by a task that has yet to see to it. -/
theorem pursued_step (h : Sound s (t :: rest) lost) (hm : t.Move s o a) {k : Nat} (hk : k ∈ lost)
    (hc : a.shared.current = some k) (hopen : a.shared.closed = false) :
    a.shared.reconnecting = true ∨ ∃ t' ∈ a.phase :: (a.started ++ rest), t'.reacts k = true := by
  have hopen' : s.closed ≠ true := fun hclosed => by
    rw [hm.closed.1 hclosed] at hopen
    cases hopen
  have hkept : ∀ {t'}, t' ∈ rest → t' ∈ a.phase :: (a.started ++ rest) := fun ht' =>
    List.mem_cons_of_mem _ (List.mem_append_right _ ht')
  obtain ⟨hc', -⟩ := h.current_step hm hk hc
  rcases h.pursued k hk hc' (Bool.eq_false_iff.mpr hopen') with hmark | ⟨t', ht', hreacts⟩
  · rcases hm.reconnecting hmark k with hmark | hreacts | hshut | hknows
    · exact .inl hmark
    · exact .inr ⟨_, List.mem_cons_self, hreacts⟩
    · exact absurd (h.shut hshut) hopen'
    · exact absurd (h.told t List.mem_cons_self hknows) hopen'
  · rcases List.mem_cons.mp ht' with rfl | ht'
    · rcases hm.reacts hreacts with hreacts | hmark | hshut | ⟨hstate, hother⟩
      · exact .inr ⟨_, List.mem_cons_self, hreacts⟩
      · exact .inl hmark
      · exact absurd (h.shut hshut) hopen'
      · -- A loop that finds the state connected comes before the reader, which has yet to give the
        -- connection up.
        rcases List.mem_cons.mp (h.noticed k hk hc' hstate) with hreader | hreader
        · exact absurd hreader.symm (hother _)
        · exact .inr ⟨_, hkept hreader, by simp [Task.reacts, ReadPhase.reacts]⟩
    · exact .inr ⟨t', hkept ht', hreacts⟩

/-- A step of a task keeps all of it. -/
theorem step (h : Sound s (t :: rest) lost) (hs : t.step? s o = some a) :
    Sound a.shared (a.phase :: (a.started ++ rest)) (lost ++ (t.loses? o).toList) := by
  have hm := Task.move_of_step hs
  have hnew : ∀ {k}, k ∈ (t.loses? o).toList → a.phase = .read k (.dropping false) := by
    intro k hk
    have hstep := step_of_loses (Option.mem_toList.mp hk) s
    rw [← Option.some.inj (hstep.symm.trans hs)]
  constructor
  case single => exact h.single_step hm
  case delays => exact fun policy p hp => h.delays_step hm hp
  case shut =>
    intro hshut
    exact hm.closed.1 ((hm.closed.2 hshut).elim h.shut (h.told t List.mem_cons_self))
  case told => exact fun t' ht' hk => h.told_step hm ht' hk
  case distinct => exact (h.names_step hm).1
  case named => exact (h.names_step hm).2
  case readers =>
    intro k hk
    rcases List.mem_append.mp hk with hk | hk
    · obtain ⟨p, hp⟩ := h.readers k hk
      rcases List.mem_cons.mp hp with hp | hp
      · obtain ⟨p', hp'⟩ := hm.reader hp.symm
        exact ⟨p', hp' ▸ List.mem_cons_self⟩
      · exact ⟨p, List.mem_cons_of_mem _ (List.mem_append_right _ hp)⟩
    · exact ⟨.dropping false, List.mem_cons.mpr (.inl (hnew hk).symm)⟩
  case noticed =>
    intro k hk hc hstate
    rcases List.mem_append.mp hk with hk | hk
    · exact h.noticed_step hs hk hc hstate
    · exact List.mem_cons.mpr (.inl (hnew hk).symm)
  case pursued =>
    intro k hk hc hopen
    rcases List.mem_append.mp hk with hk | hk
    · exact h.pursued_step hm hk hc hopen
    · exact .inr ⟨_, List.mem_cons_self, by simp [hnew hk, Task.reacts, ReadPhase.reacts]⟩

/-- A task that is started has yet to do anything. -/
theorem start (h : Sound s tasks lost)
    (ht : t.loops = false ∧ t.knowsClosed = false ∧ t.connection? = none)
    (hd : ∀ policy p, t ≠ .retry policy p) : Sound s (tasks ++ [t]) lost where
  single := by simp [h.single, ht.1]
  delays := fun policy p hp => by
    rcases List.mem_append.mp hp with hp | hp
    · exact h.delays policy p hp
    · exact absurd (List.mem_singleton.mp hp).symm (hd policy p)
  shut := h.shut
  told := fun t' ht' hk => by
    rcases List.mem_append.mp ht' with ht' | ht'
    · exact h.told t' ht' hk
    · rw [List.mem_singleton.mp ht', ht.2.1] at hk
      cases hk
  distinct := by simpa [List.filterMap_append, ht.2.2] using h.distinct
  named := by simpa [List.filterMap_append, ht.2.2] using h.named
  readers := fun k hk => (h.readers k hk).imp fun _ => List.mem_append_left _
  noticed := fun k hk hc hs => List.mem_append_left _ (h.noticed k hk hc hs)
  pursued := fun k hk hc hn =>
    (h.pursued k hk hc hn).imp_right fun ⟨t', ht', hr⟩ => ⟨t', List.mem_append_left _ ht', hr⟩

/-- Soundness is kept at every action. -/
theorem act {c : Client} (h : Sound c.shared c.tasks lost) (a : Action) :
    Sound (c.act a).shared (c.act a).tasks (lost ++ (c.lostAt a).toList) := by
  have hnone : ∀ {s ts}, Sound s ts lost → Sound s ts (lost ++ []) := fun h => by
    rwa [List.append_nil]
  cases a with
  | connect => exact hnone (h.start ⟨rfl, rfl, rfl⟩ nofun)
  | send operation payload => exact hnone (h.start ⟨rfl, rfl, rfl⟩ nofun)
  | close => exact hnone (h.start ⟨rfl, rfl, rfl⟩ nofun)
  | listen listener => exact hnone ⟨h.1, h.2, h.3, h.4, h.5, h.6, h.7, h.8, h.9⟩
  | elapse millis => exact hnone ⟨h.1, h.2, h.3, h.4, h.5, h.6, h.7, h.8, h.9⟩
  | step i o =>
    cases ht : c.tasks[i]? with
    | none =>
      have hstep : c.step i o = c := by simp [Client.step, advance?, ht]
      simpa [Client.act, hstep, lostAt, ht] using h
    | some t =>
      obtain ⟨hi, rfl⟩ := List.getElem?_eq_some_iff.mp ht
      have hlost : c.lostAt (.step i o) = c.tasks[i].loses? o := by simp [lostAt, ht]
      rw [hlost]
      cases hs : c.tasks[i].step? c.shared o with
      | none =>
        have hstep : c.step i o = c := by simp [Client.step, advance?, ht, hs]
        cases hl : c.tasks[i].loses? o with
        | none => simpa [Client.act, hstep] using h
        | some k => simp [step_of_loses hl] at hs
      | some a =>
        have hstep : c.step i o = ⟨a.shared, c.tasks.set i a.phase ++ a.started⟩ := by
          simp [Client.step, advance?, ht, hs]
        have hbefore := h.perm (List.getElem_cons_eraseIdx_perm hi).symm
        have hafter := (List.set_perm_cons_eraseIdx hi a.phase).append_right a.started
        rw [Client.act, hstep]
        refine (hbefore.step hs).perm ?_
        exact ((List.perm_append_comm.cons _).trans hafter.symm)

theorem run {c : Client} (h : Sound c.shared c.tasks lost) (as : List Action) :
    Sound (c.run as).shared (c.run as).tasks (lost ++ c.lost as) := by
  induction as generalizing c lost with
  | nil => rwa [Client.lost, List.append_nil]
  | cons a as ih =>
    rw [Client.lost, ← List.append_assoc]
    exact ih (h.act a)

end Sound

theorem sound_new (settings : ConnectionSettings) :
    Sound (new settings).shared (new settings).tasks [] where
  single := rfl
  delays := nofun
  shut := nofun
  told := nofun
  distinct := List.nodup_nil
  named := nofun
  readers := nofun
  noticed := nofun
  pursued := nofun

theorem sound_run (settings : ConnectionSettings) (as : List Action) :
    Sound ((new settings).run as).shared ((new settings).run as).tasks ((new settings).lost as) :=
  (sound_new settings).run as

end VenueGateway.Client
