import Mathlib.Data.List.Induction
import VenueGateway.Proofs.Client.Pursuit

/-!
Reconnecting over a whole run. What a task is at now is traced back to the step that led it there: a
pause to the start of the wait, a loop that has ended to the installing of its connection.
-/

namespace VenueGateway.Client

variable {c : Client}

/-- What holds at the end of a run and not at its start came to hold by one of the actions, and has
held since. -/
theorem exists_since {P : Client → Prop} (hc : ¬P c) {as : List Action} (h : P (c.run as)) :
    ∃ first a middle, as = first ++ a :: middle ∧ ¬P (c.run first) ∧
      ∀ m, m <+: middle → P (c.run (first ++ a :: m)) := by
  induction as using List.reverseRecOn with
  | nil => exact absurd h hc
  | append_singleton as a ih =>
    by_cases hlast : P (c.run as)
    · obtain ⟨first, a', middle, rfl, hfirst, hsince⟩ := ih hlast
      refine ⟨first, a', middle ++ [a], by simp, hfirst, fun m hm => ?_⟩
      rcases List.prefix_concat_iff.mp hm with rfl | hm
      · simpa using h
      · exact hsince m hm
    · refine ⟨as, a, [], rfl, hlast, fun m hm => ?_⟩
      rw [List.prefix_nil.mp hm]
      exact h

def Task.fresh : Task → Prop
  | connect p => p = .start
  | send _ _ p => p = .start
  | close p => p = .start
  | read _ p => p = .waiting
  | retry _ p => p = .start

/-- What a step of a task does to the client. -/
theorem step_of_advance {i : Nat} {o : Outcome} {b : Advance Task} (h : c.advance? i o = some b) :
    c.step i o = ⟨b.shared, c.tasks.set i b.phase ++ b.started⟩ := by
  rw [Client.step, h]

/-- A task is as it was, has taken a step, or has just been started. -/
theorem task_act {a : Action} {i : Nat} {t : Task} (h : (c.act a).tasks[i]? = some t) :
    c.tasks[i]? = some t ∨
    (∃ o t' b, a = .step i o ∧ c.tasks[i]? = some t' ∧ t'.step? c.shared o = some b ∧ b.phase = t) ∨
    t.fresh := by
  have hstart : ∀ t', t'.fresh → (c.start t').tasks[i]? = some t →
      c.tasks[i]? = some t ∨ t.fresh := by
    intro t' hfresh ht
    rw [Client.start, List.getElem?_append] at ht
    split at ht
    · exact .inl ht
    · obtain rfl := List.mem_singleton.mp (List.mem_of_getElem? ht)
      exact .inr hfresh
  cases a with
  | connect => exact (hstart (.connect .start) rfl h).imp_right .inr
  | send operation payload => exact (hstart (.send operation payload .start) rfl h).imp_right .inr
  | close => exact (hstart (.close .start) rfl h).imp_right .inr
  | listen listener => exact .inl h
  | elapse millis => exact .inl h
  | step j o =>
    rw [Client.act] at h
    cases hb : c.advance? j o with
    | none =>
      rw [Client.step, hb] at h
      exact .inl h
    | some b =>
      obtain ⟨t', ht', hstep⟩ := Option.bind_eq_some_iff.mp hb
      rw [step_of_advance hb, List.getElem?_append] at h
      split at h
      · rw [List.getElem?_set] at h
        split at h
        · next hij =>
          subst hij
          split at h
          · exact .inr (.inl ⟨o, t', b, rfl, ht', hstep, Option.some.inj h⟩)
          · cases h
        · exact .inl h
      · refine .inr (.inr ?_)
        obtain ⟨k, rfl⟩ | rfl :=
          (Task.move_of_step hstep).started t (List.mem_of_getElem? h) <;> rfl

/-- A task is never given up: it is as it was, or has taken a step. -/
theorem task_act_of_task {i : Nat} {t : Task} (h : c.tasks[i]? = some t) (a : Action) :
    (c.act a).tasks[i]? = some t ∨
    ∃ o b, a = .step i o ∧ t.step? c.shared o = some b ∧ (c.act a).tasks[i]? = some b.phase := by
  have hi := (List.getElem?_eq_some_iff.mp h).1
  have hstart : ∀ t', (c.start t').tasks[i]? = some t := fun t' => by
    rw [Client.start, List.getElem?_append_left hi, h]
  cases a with
  | connect => exact .inl (hstart _)
  | send operation payload => exact .inl (hstart _)
  | close => exact .inl (hstart _)
  | listen listener => exact .inl h
  | elapse millis => exact .inl h
  | step j o =>
    rw [Client.act]
    cases hb : c.advance? j o with
    | none =>
      rw [Client.step, hb]
      exact .inl h
    | some b =>
      have hset : i < (c.tasks.set j b.phase).length := by rwa [List.length_set]
      rw [step_of_advance hb, List.getElem?_append_left hset]
      by_cases hji : j = i
      · subst hji
        obtain ⟨t', ht', hstep⟩ := Option.bind_eq_some_iff.mp hb
        obtain rfl : t = t' := Option.some.inj (h.symm.trans ht')
        exact .inr ⟨o, b, rfl, hstep, List.getElem?_set_self hi⟩
      · exact .inl (by rw [List.getElem?_set_ne hji, h])

theorem settings_act (c : Client) (a : Action) : (c.act a).shared.settings = c.shared.settings := by
  cases a with
  | step i o =>
    rw [Client.act]
    cases hb : c.advance? i o with
    | none => rw [Client.step, hb]
    | some b =>
      obtain ⟨t, -, hstep⟩ := Option.bind_eq_some_iff.mp hb
      rw [step_of_advance hb]
      exact (Task.move_of_step hstep).settings
  | _ => rfl

theorem settings_run (c : Client) (as : List Action) :
    (c.run as).shared.settings = c.shared.settings := by
  induction as generalizing c with
  | nil => rfl
  | cons a as ih => rw [run_cons, ih, settings_act]

/-- The task at a place waits to wake at a time. -/
def Pauses (i wake : Nat) (c : Client) : Prop :=
  ∃ policy, c.tasks[i]? = some (.retry policy (.pausing wake))

/-- The task at a place is a loop that has got a connection. -/
def HasConnected (i : Nat) (c : Client) : Prop :=
  ∃ policy, c.tasks[i]? = some (.retry policy (.trying (.done (.ok ()))))

section Runs

variable (settings : ConnectionSettings) (as : List Action)

/-- The loop at a place began its wait in this run, to wake after the delay that the settings give,
and has waited since. -/
def Waited (i wake : Nat) : Prop :=
  ∃ first o middle, as = first ++ .step i o :: middle ∧
    (∃ policy, ((new settings).run first).tasks[i]? = some (.retry policy .start)) ∧
    wake = ((new settings).run first).shared.now + settings.reconnectDelay.millis ∧
    ∀ m, m <+: middle → Pauses i wake ((new settings).run (first ++ .step i o :: m))

/-- The loop at a place installed a connection in this run, which was its last step. -/
def Connected (i : Nat) : Prop :=
  ∃ first o middle k, as = first ++ .step i o :: middle ∧
    (∃ policy,
      ((new settings).run first).tasks[i]? = some (.retry policy (.trying (.installing k)))) ∧
    ((new settings).run (first ++ [.step i o])).shared.current = some k ∧
    ((new settings).run (first ++ [.step i o])).shared.state = .connected ∧
    ∀ m, m <+: middle → HasConnected i ((new settings).run (first ++ .step i o :: m))

/-- What a client keeps to after a run, whatever it does next. -/
structure Persists (c : Client) : Prop where
  /-- There is never more than one loop. -/
  single : c.tasks.countP Task.loops ≤ 1
  /-- When all that it calls for is done, the loss of the connection that was installed last has
  left a loop behind, or the client is closed. -/
  pursued : ∀ k ∈ (new settings).lost as, c.shared.current = some k → c.shared.closed = false →
    (∀ t ∈ c.tasks, t.reacts k = false) → c.shared.state ≠ .connected ∧
      ∃ t ∈ c.tasks, t.loops = true
  /-- An attempt is made after a wait that has lasted for the delay. -/
  delayed : ∀ i o b policy, c.advance? i o = some b → b.phase = .retry policy (.trying .start) →
    ∃ wake, Waited settings as i wake ∧ wake ≤ c.shared.now
  /-- It is made as soon as the wait has lasted that long. -/
  due : ∀ i policy wake, c.tasks[i]? = some (.retry policy (.pausing wake)) →
    ((∃ b, c.advance? i .fine = some b ∧ b.phase = .retry policy (.trying .start)) ↔
      wake ≤ c.shared.now)
  /-- A loop goes on, unless it has connected or the client is closed. -/
  goesOn : ∀ i policy p a, c.tasks[i]? = some (.retry policy p) → p.loops = true →
    (∃ policy' p', (c.act a).tasks[i]? = some (.retry policy' p') ∧ p'.loops = true) ∨
    Connected settings as i ∨ c.shared.closed = true

variable {settings as}

/-- A pause begins with the wait. -/
theorem Task.Move.of_pausing {s : Shared} {t : Task} {o : Outcome} {b : Advance Task}
    (h : t.Move s o b) {policy : RetryPolicy} {wake : Nat}
    (hb : b.phase = .retry policy (.pausing wake)) :
    ∃ policy', t = .retry policy' .start ∧ wake = s.now + policy'.delay.millis := by
  cases h with
  | @retry policy' _ _ h =>
    obtain ⟨-, hp⟩ := Task.retry.inj hb
    cases h with
    | pauses => exact ⟨policy', rfl, (RetryPhase.pausing.inj hp).symm⟩
    | schedules h => cases h <;> cases hp
    | _ => cases hp
  | _ => cases hb

/-- An attempt follows a pause that is over. -/
theorem Task.Move.of_trying {s : Shared} {t : Task} {o : Outcome} {b : Advance Task}
    (h : t.Move s o b) {policy : RetryPolicy} (hb : b.phase = .retry policy (.trying .start)) :
    ∃ wake, t = .retry policy (.pausing wake) ∧ wake ≤ s.now := by
  cases h with
  | retry h =>
    obtain ⟨rfl, hp⟩ := Task.retry.inj hb
    cases h with
    | @wakes wake _ _ hwake => exact ⟨wake, rfl, hwake⟩
    | tries _ h =>
      cases h with
      | goesOn _ _ _ hon => exact absurd (RetryPhase.trying.inj hp) hon
      | _ => cases hp
    | schedules h => cases h <;> cases hp
    | _ => cases hp
  | _ => cases hb

/-- An attempt that connects ends with the installing of its connection. -/
theorem Task.Move.of_connected {s : Shared} {t : Task} {o : Outcome} {b : Advance Task}
    (h : t.Move s o b) {policy : RetryPolicy}
    (hb : b.phase = .retry policy (.trying (.done (.ok ())))) :
    ∃ k, t = .retry policy (.trying (.installing k)) ∧ b.shared = s.install k := by
  cases h with
  | retry h =>
    obtain ⟨rfl, hp⟩ := Task.retry.inj hb
    cases h with
    | tries _ h =>
      cases h with
      | goesOn _ _ hopen =>
        obtain rfl := RetryPhase.trying.inj hp
        cases hopen
      | installs k => exact ⟨k, rfl, rfl⟩
      | _ => cases hp
    | schedules h => cases h <;> cases hp
    | _ => cases hp
  | _ => cases hb

/-- By induction on the run, from the step that began the wait. -/
theorem waited_of_pauses {i wake : Nat} (h : Pauses i wake ((new settings).run as)) :
    Waited settings as i wake := by
  obtain ⟨first, a, middle, rfl, hnot, hsince⟩ :=
    exists_since (c := new settings) (by rintro ⟨_, h⟩; cases h) h
  obtain ⟨policy, hp⟩ := hsince [] List.nil_prefix
  rw [run_append] at hp
  obtain hsame | ⟨o, t, b, rfl, ht, hstep, hb⟩ | hfresh := task_act hp
  · exact absurd ⟨policy, hsame⟩ hnot
  · obtain ⟨policy', rfl, hwake⟩ := (Task.move_of_step hstep).of_pausing hb
    refine ⟨first, o, middle, rfl, ⟨policy', ht⟩, ?_, hsince⟩
    rw [hwake, (sound_run settings first).delays policy' _ (List.mem_of_getElem? ht), settings_run]
    rfl
  · cases hfresh

/-- By induction on the run, from the step that installed the connection. -/
theorem connected_of_hasConnected {i : Nat} (h : HasConnected i ((new settings).run as)) :
    Connected settings as i := by
  obtain ⟨first, a, middle, rfl, hnot, hsince⟩ :=
    exists_since (c := new settings) (by rintro ⟨_, h⟩; cases h) h
  obtain ⟨policy, hp⟩ := hsince [] List.nil_prefix
  rw [run_append] at hp
  obtain hsame | ⟨o, t, b, rfl, ht, hstep, hb⟩ | hfresh := task_act hp
  · exact absurd ⟨policy, hsame⟩ hnot
  · obtain ⟨k, rfl, hshared⟩ := (Task.move_of_step hstep).of_connected hb
    have hact : (((new settings).run first).step i o).shared =
        ((new settings).run first).shared.install k := by
      rw [step_of_advance (b := b) (by rw [advance?, ht]; exact hstep), hshared]
    refine ⟨first, o, middle, k, rfl, ⟨policy, ht⟩, ?_, ?_, hsince⟩
    · rw [run_append, run_cons, run_nil, Client.act, hact, Shared.install]
      split <;> rfl
    · rw [run_append, run_cons, run_nil, Client.act, hact, Shared.install]
      split <;> rfl
  · cases hfresh

/-- A loop of attempts goes on, or ends because it has connected or the client is closed. -/
theorem goesOn_act {i : Nat} {policy : RetryPolicy} {p : RetryPhase} (a : Action)
    (h : ((new settings).run as).tasks[i]? = some (.retry policy p)) (hp : p.loops = true) :
    (∃ policy' p', (((new settings).run as).act a).tasks[i]? = some (.retry policy' p') ∧
      p'.loops = true) ∨
    Connected settings as i ∨ ((new settings).run as).shared.closed = true := by
  have hsound := sound_run settings as
  obtain hsame | ⟨o, b, -, hstep, hb⟩ := task_act_of_task h a
  · exact .inl ⟨policy, p, hsame, hp⟩
  · cases Task.move_of_step hstep with
    | retry hmove =>
      cases hmove with
      | pauses => exact .inl ⟨_, _, hb, rfl⟩
      | stops hshut => exact .inr (.inr (hsound.shut hshut))
      | wakes => exact .inl ⟨_, _, hb, rfl⟩
      | tries => exact .inl ⟨_, _, hb, rfl⟩
      | connects => exact .inr (.inl (connected_of_hasConnected ⟨policy, h⟩))
      | givesUp => exact .inr (.inr (hsound.told _ (List.mem_of_getElem? h) rfl))
      | again => exact .inl ⟨_, _, hb, rfl⟩
      | _ => cases hp

end Runs

/-- However the steps of readers, loops and callers fall between one another, and however
connections open, fail and end: no loss is forgotten, and none is pursued twice. -/
theorem persists (settings : ConnectionSettings) (as : List Action) :
    Persists settings as ((new settings).run as) where
  single := by
    rw [(sound_run settings as).single]
    exact Bool.toNat_le _
  pursued := by
    intro k hk hc hopen hdone
    have hsound := sound_run settings as
    have hquiet : ∀ t ∈ ((new settings).run as).tasks, t.reacts k ≠ true := fun t ht => by
      simp [hdone t ht]
    refine ⟨fun hstate => ?_, ?_⟩
    · exact hquiet _ (hsound.noticed k hk hc hstate) (by simp [Task.reacts, ReadPhase.reacts])
    · rcases hsound.pursued k hk hc hopen with hmark | ⟨t, ht, hreacts⟩
      · have hcount := hsound.single
        rw [hmark] at hcount
        exact List.countP_pos_iff.mp (by rw [hcount]; exact Nat.one_pos)
      · exact absurd hreacts (hquiet t ht)
  delayed := by
    intro i o b policy hb hphase
    obtain ⟨t, ht, hstep⟩ := Option.bind_eq_some_iff.mp hb
    obtain ⟨wake, rfl, hwake⟩ := (Task.move_of_step hstep).of_trying hphase
    exact ⟨wake, waited_of_pauses ⟨policy, ht⟩, hwake⟩
  due := by
    intro i policy wake ht
    have hstep : ((new settings).run as).advance? i .fine =
        (Task.retry policy (.pausing wake)).step?
        ((new settings).run as).shared .fine := by rw [advance?, ht]; rfl
    rw [hstep, Task.step?, RetryPhase.step?]
    split <;> simp_all [Advance.map]
  goesOn := fun i policy p a h hp => goesOn_act a h hp

/-- A connection that a loop has got may be lost before the loop has taken its mark back. Its reader
then leaves things to the loop, and that starts another. -/
example :
    let opens : Nat → List Action := fun i => List.replicate 5 (.step i .fine)
    let loses : Nat → List Action :=
      fun i => .step i (.meets .failure) :: List.replicate 4 (.step i .fine)
    let as := .connect :: opens 0 ++ loses 1 ++ [.step 2 .fine, .elapse 5000, .step 2 .fine] ++
      opens 2 ++ loses 3
    let before := (new {}).run as
    let after := before.run (List.replicate 4 (.step 2 .fine))
    (new {}).lost as = [0, 1] ∧ before.tasks.length = 4 ∧ before.shared.reconnecting = true ∧
      after.tasks.length = 5 ∧ after.tasks.countP Task.loops = 1 := by
  decide +kernel

end VenueGateway.Client
