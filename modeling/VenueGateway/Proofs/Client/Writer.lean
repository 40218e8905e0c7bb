import VenueGateway.Proofs.Client.Reconnect

/-!
Who writes to the venue. A task that writes to the connection holds the writer from the step that
takes it to the step that gives it back, so no two tasks are in the middle of writing at once, and
what nobody holds is free. Only the sending of requests puts requests on the wire or moves the
sequence number.
-/

namespace VenueGateway.Client

namespace SendPhase

def holds : SendPhase → Bool
  | writing .. => true
  | _ => false

end SendPhase

namespace ReadPhase

def holds : ReadPhase → Bool
  | ponging .. => true
  | _ => false

end ReadPhase

namespace Task

/-- Whether the task is in the middle of writing to a connection. -/
def holds : Task → Bool
  | send _ _ p => p.holds
  | read _ p => p.holds
  | _ => false

def idle : Task → Bool
  | send .. => false
  | read _ p => !p.holds
  | _ => true

theorem not_holds_of_idle {t : Task} (h : t.idle = true) : t.holds = false := by
  cases t with
  | send => cases h
  | read k p => exact (Bool.not_eq_true' _).mp h
  | _ => rfl

/-- What a step does about writing. Senders, readers that answer a ping, and whoever installs a
connection apart, all leave it alone. -/
inductive Writes (s : Shared) : Task → Advance Task → Prop where
  | rests {t t' : Task} {s' : Shared} {started : List Task} (hs : KeepsWriting s s')
      (ht : t.idle = true)
      (ht' : t'.idle = true) : Writes s t ⟨s', t', started⟩
  | installs {t t' : Task} {s' : Shared} {started : List Task} {k : Nat} (hs : s' = s.install k)
      (hopen : s.closed = false) (ht : t.idle = true) (ht' : t'.idle = true) :
        Writes s t ⟨s', t', started⟩
  | answers {k w : Nat} {data : List UInt8} (hs : s.writer = some w)
      (hfree : s.writerHeld = false) :
      Writes s (.read k (.answering data)) ⟨{ s with writerHeld := true },
        .read k (.ponging w data), []⟩
  | answered {k w : Nat} {data : List UInt8} {s' : Shared} (hr : s'.requests = s.requests)
      (hl : s'.lastSequence = s.lastSequence) (hfree : s'.writerHeld = false) :
      Writes s (.read k (.ponging w data)) ⟨s', .read k .waiting, []⟩
  | sends {operation payload : String} {p : SendPhase} {a : Advance SendPhase}
      (h : p.Move operation payload s a) :
      Writes s (.send operation payload p) (a.map (.send operation payload))

end Task

section Steps

variable {s : Shared} {o : Outcome}

theorem ReadPhase.Move.writes {connection : Nat} {p : ReadPhase} {a : Advance ReadPhase}
    (h : p.Move connection s o a) :
    (Task.read connection p).Writes s (a.map (.read connection)) := by
  cases h with
  | reads h =>
    cases h with
    | hears hdata => exact .rests (reports_meet s hdata).writing rfl rfl
    | answers hs hfree => exact .answers hs hfree
    | answered hs => exact .answered hs.mute.requests hs.mute.lastSequence hs.mute.held
    | leaves => exact .rests ⟨⟨rfl, rfl, rfl⟩, .inr rfl, id⟩ rfl rfl
    | _ => exact .rests (Mute.refl s).toKeepsWriting rfl rfl
  | drops clean => exact .rests ⟨⟨rfl, rfl, rfl⟩, .inl rfl, nofun⟩ rfl rfl
  | releases hs => exact .rests hs.mute.toKeepsWriting rfl rfl
  | schedules h =>
    have hmute := h.mute.toKeepsWriting
    cases h <;> exact .rests hmute rfl rfl

/-- A move has no other way with the writer and the requests. -/
theorem Task.Move.writes {t : Task} {a : Advance Task} (h : t.Move s o a) : t.Writes s a := by
  cases h with
  | connect h =>
    obtain hs | ⟨k, hs, hopen⟩ := h.mute_or
    · exact .rests hs.toKeepsWriting rfl rfl
    · exact .installs hs hopen rfl rfl
  | send h => exact .sends h
  | close h => exact .rests h.mute.toKeepsWriting rfl rfl
  | read h => exact h.writes
  | retry h =>
    obtain hs | ⟨k, hs, hopen⟩ := h.mute_or
    · exact .rests hs.toKeepsWriting rfl rfl
    · exact .installs hs hopen rfl rfl

theorem Task.writes_of_step {t : Task} {a : Advance Task} (h : t.step? s o = some a) :
    t.Writes s a :=
  (Task.move_of_step h).writes

end Steps

/-- What a task that holds the writer gives back, no other can have taken: the count of holders is
that of the mark. -/
theorem Task.Writes.holds {s : Shared} {t : Task} {a : Advance Task} (h : t.Writes s a)
    (hmark : t.holds = true → s.writerHeld = true) :
    a.phase.holds.toNat + s.writerHeld.toNat = t.holds.toNat + a.shared.writerHeld.toNat := by
  cases h with
  | rests hs ht ht' => simp [hs.held, Task.not_holds_of_idle ht, Task.not_holds_of_idle ht']
  | installs hs _ ht ht' =>
    simp [hs, (keepsRequests_install s _).held, Task.not_holds_of_idle ht,
      Task.not_holds_of_idle ht']
  | answers hs hfree => simp [hfree, Task.holds, ReadPhase.holds]
  | answered hr hl hfree => simp [hfree, hmark rfl, Task.holds, ReadPhase.holds]
  | sends h =>
    cases h with
    | takes hs hfree => simp [hfree, Advance.map, Task.holds, SendPhase.holds]
    | writes => simp [hmark rfl, Shared.write, Advance.map, Task.holds, SendPhase.holds]
    | fails => simp [hmark rfl, Advance.map, Task.holds, SendPhase.holds]
    | passes | refused | numbers | misses => simp [Advance.map, Task.holds, SendPhase.holds]

section Clients

variable {c : Client} {i : Nat} {o : Outcome} {t : Task} {b : Advance Task}

theorem step_of_task (ht : c.tasks[i]? = some t) (hs : t.step? c.shared o = some b) :
    c.step i o = ⟨b.shared, c.tasks.set i b.phase ++ b.started⟩ :=
  step_of_advance (by rw [advance?, ht]; exact hs)

/-- A step is that of a task, or changes nothing. -/
theorem step_cases (c : Client) (i : Nat) (o : Outcome) :
    (c.advance? i o = none ∧ c.step i o = c) ∨ ∃ t b, c.tasks[i]? = some t ∧
      t.step? c.shared o = some b := by
  cases hb : c.advance? i o with
  | none => exact .inl ⟨rfl, by rw [Client.step, hb]⟩
  | some b =>
    obtain ⟨t, ht, hs⟩ := Option.bind_eq_some_iff.mp hb
    exact .inr ⟨t, b, ht, hs⟩

/-- What a step of a task makes of the client. -/
theorem act_step (ht : c.tasks[i]? = some t) (hs : t.step? c.shared o = some b) :
    (c.act (.step i o)).shared = b.shared ∧ (c.act (.step i o)).tasks[i]? = some b.phase := by
  have hi := (List.getElem?_eq_some_iff.mp ht).1
  rw [Client.act, step_of_task ht hs]
  refine ⟨rfl, ?_⟩
  rw [List.getElem?_append_left (by rwa [List.length_set])]
  exact List.getElem?_set_self hi

theorem act_step_ne (ht : c.tasks[i]? = some t) {j : Nat} (hj : j ≠ i) (o : Outcome) :
    (c.act (.step j o)).tasks[i]? = some t := by
  obtain hsame | ⟨o', b, heq, -⟩ := task_act_of_task ht (.step j o)
  · exact hsame
  · exact absurd (Action.step.inj heq).1 hj

/-- A kind of tasks that none is of when it is started has after a step as many as before, but for
the task that takes it. -/
theorem countP_act_step (ht : c.tasks[i]? = some t) (hs : t.step? c.shared o = some b)
    (p : Task → Bool) (hread : ∀ k, p (.read k .waiting) = false)
    (hretry : ∀ policy, p (.retry policy .start) = false) :
    ∃ n, c.tasks.countP p = (p t).toNat + n ∧ (c.act (.step i o)).tasks.countP p =
      (p b.phase).toNat + n := by
  obtain ⟨hi, rfl⟩ := List.getElem?_eq_some_iff.mp ht
  have hstarted : b.started.countP p = 0 := by
    refine List.countP_eq_zero.mpr fun t' ht' => ?_
    obtain ⟨k, rfl⟩ | rfl := (Task.move_of_step hs).started t' ht' <;> simp [hread, hretry]
  refine ⟨(c.tasks.eraseIdx i).countP p, ?_, ?_⟩
  · rw [← (List.getElem_cons_eraseIdx_perm hi).countP_eq, countP_cons_toNat]
  · rw [Client.act, step_of_task ht hs, List.countP_append, hstarted, Nat.add_zero,
      (List.set_perm_cons_eraseIdx hi b.phase).countP_eq, countP_cons_toNat]

end Clients

/-- The mark that the writer is held stands for the one task that holds it. -/
def HeldByOne (c : Client) : Prop := c.tasks.countP Task.holds = c.shared.writerHeld.toNat

namespace HeldByOne

variable {c : Client}

theorem mark (h : HeldByOne c) {t : Task} (ht : t ∈ c.tasks) (hholds : t.holds = true) :
    c.shared.writerHeld = true := by
  have hpos : 0 < c.tasks.countP Task.holds := List.countP_pos_iff.mpr ⟨t, ht, hholds⟩
  rw [h] at hpos
  cases hm : c.shared.writerHeld with
  | true => rfl
  | false => rw [hm] at hpos; exact absurd hpos (Nat.lt_irrefl 0)

theorem not_holds (h : HeldByOne c) (hfree : c.shared.writerHeld = false) {t : Task}
    (ht : t ∈ c.tasks) :
    t.holds = false := by
  cases hholds : t.holds with
  | false => rfl
  | true => rw [h.mark ht hholds] at hfree; cases hfree

theorem start (h : HeldByOne c) {t : Task} (ht : t.holds = false) : HeldByOne (c.start t) := by
  rw [HeldByOne, Client.start, List.countP_append, List.countP_singleton, ht]
  exact h

/-- One task at most holds the writer, at every action. -/
theorem act (h : HeldByOne c) (a : Action) : HeldByOne (c.act a) := by
  cases a with
  | connect => exact h.start rfl
  | send operation payload => exact h.start rfl
  | close => exact h.start rfl
  | listen listener => exact h
  | elapse millis => exact h
  | step i o =>
    obtain ⟨-, hsame⟩ | ⟨t, b, ht, hs⟩ := step_cases c i o
    · rwa [Client.act, hsame]
    · obtain ⟨n, hbefore, hafter⟩ := countP_act_step ht hs Task.holds (fun _ => rfl) fun _ => rfl
      have hbalance := (Task.writes_of_step hs).holds (h.mark (List.mem_of_getElem? ht))
      rw [HeldByOne, hbefore] at h
      rw [HeldByOne, hafter, (act_step ht hs).1]
      omega

end HeldByOne

theorem heldByOne_run (settings : ConnectionSettings) (as : List Action) :
    HeldByOne ((new settings).run as) := by
  induction as using List.reverseRecOn with
  | nil => rfl
  | append_singleton as a ih =>
    rw [run_append]
    exact ih.act a

end VenueGateway.Client
