import VenueGateway.Proofs.Client.Writer

/-!
A client that was closed stays closed. Closing sets one mark, then the other, and then takes the
writer away; from there on nothing of what it has taken comes back, whichever calls are still under
way. Main statement: what a client keeps to from the moment on at which the call that closed it has
returned.
-/

namespace VenueGateway.Client

section Steps

variable {s : Shared} {o : Outcome} {t : Task} {a : Advance Task}

/-- Who is told to stop is never told otherwise. -/
theorem Task.Move.shutdown (h : t.Move s o a) (hs : s.shutdown = true) :
    a.shared.shutdown = true := by
  obtain hk | ⟨p, b, -, hb, heq⟩ | ⟨p, b, rfl, hb, heq⟩ := h.keeps_or
  · exact hk.shutdown.trans hs
  · rw [heq, hb.marks.1]
    exact hs
  · rw [heq]
    cases hb with
    | begins => exact hs
    | announces => rfl
    | goesOn hk => exact hk.shutdown.trans hs

/-- Nothing is installed in a client that is closed. -/
theorem Task.Move.of_installed (h : t.Move s o a)
    (ha : a.phase.connecting? = some (.done (.ok ()))) :
    s.closed = false := by
  cases h with
  | connect h =>
    cases h with
    | goesOn _ _ hopen =>
      obtain rfl := Option.some.inj ha
      cases hopen
    | installs _ hopen => exact hopen
    | _ => cases ha
  | retry h =>
    cases h with
    | tries _ h =>
      cases h with
      | goesOn _ _ hopen =>
      obtain rfl := Option.some.inj ha
      cases hopen
      | installs _ hopen => exact hopen
      | _ => cases ha
    | schedules h => cases h <;> cases ha
    | _ => cases ha
  | _ => cases ha

/-- What closing has brought about once it has taken the writer away. -/
structure Sealed (s : Shared) : Prop where
  closed : s.closed = true
  shutdown : s.shutdown = true
  state : s.state ≠ .connected
  writer : s.writer = none
  free : s.writerHeld = false

/-- All of it stays, and no request is written any more. -/
theorem Sealed.step (h : Sealed s) (ht : t.holds = false) (hs : t.step? s o = some a) :
    Sealed a.shared ∧ a.shared.requests = s.requests := by
  have hm := Task.move_of_step hs
  have hclosed := hm.closed.1 h.closed
  have hshutdown := hm.shutdown h.shutdown
  cases Task.writes_of_step hs with
  | rests hk =>
    have hwriter := hk.writer.elim (fun hw => hw.trans h.writer) id
    exact ⟨⟨hclosed, hshutdown, fun hc => h.state (hk.state hc), hwriter, hk.held.trans h.free⟩,
      hk.requests⟩
  | installs _ hopen => rw [h.closed] at hopen; cases hopen
  | answers hw => rw [h.writer] at hw; cases hw
  | answered => cases ht
  | sends hsend =>
    cases hsend with
    | passes hconnected => exact absurd hconnected h.state
    | takes hw => rw [h.writer] at hw; cases hw
    | writes => cases ht
    | fails => cases ht
    | refused | numbers | misses => exact ⟨⟨h.closed, h.shutdown, h.state, h.writer, h.free⟩, rfl⟩

end Steps

section Clients

variable {c : Client}

/-- What closing has brought about stays, and nothing more is written. -/
theorem Sealed.act (h : Sealed c.shared) (hheld : HeldByOne c) (a : Action) :
    Sealed (c.act a).shared ∧ (c.act a).shared.requests = c.shared.requests := by
  cases a with
  | listen listener => exact ⟨⟨h.closed, h.shutdown, h.state, h.writer, h.free⟩, rfl⟩
  | elapse millis => exact ⟨⟨h.closed, h.shutdown, h.state, h.writer, h.free⟩, rfl⟩
  | step i o =>
    obtain ⟨-, hsame⟩ | ⟨t, b, ht, hs⟩ := step_cases c i o
    · rw [Client.act, hsame]
      exact ⟨h, rfl⟩
    · rw [(act_step ht hs).1]
      exact h.step (hheld.not_holds h.free (List.mem_of_getElem? ht)) hs
  | _ => exact ⟨h, rfl⟩

theorem Sealed.run (h : Sealed c.shared) (hheld : HeldByOne c) (as : List Action) :
    Sealed (c.run as).shared ∧ HeldByOne (c.run as) ∧ (c.run as).shared.requests =
      c.shared.requests := by
  induction as using List.reverseRecOn with
  | nil => exact ⟨h, hheld, rfl⟩
  | append_singleton as a ih =>
    obtain ⟨hsealed, hheld, hrequests⟩ := ih
    obtain ⟨hsealed', hrequests'⟩ := hsealed.act hheld a
    rw [run_append]
    exact ⟨hsealed', hheld.act a, hrequests'.trans hrequests⟩

/-- How far closing has come when the call that does it is in a phase. -/
def ClosePhase.Reached (s : Shared) : ClosePhase → Prop
  | start => False
  | announcing => s.closed = true
  | waiting => s.closed = true ∧ s.shutdown = true
  | parting _ => Sealed s
  | done => Sealed s

/-- Closing gets further with every step of its call. -/
theorem ClosePhase.Reached.step {p : ClosePhase} {s : Shared} {o : Outcome} {b : Advance ClosePhase}
    (h : p.Reached s) (hs : p.step? s o = some b) : b.phase.Reached b.shared := by
  cases p with
  | start => cases h
  | announcing =>
    obtain rfl := Option.some.inj hs
    exact ⟨h, rfl⟩
  | waiting =>
    simp only [step?] at hs
    split at hs
    · cases hs
    · next hfree =>
      have hfree' := Bool.eq_false_iff.mpr hfree
      split at hs <;> cases hs <;> exact ⟨h.1, h.2, by rintro ⟨⟩, rfl, hfree'⟩
  | parting k =>
    have hsealed : Sealed s := h
    simp only [step?] at hs
    split at hs
    · obtain rfl := Option.some.inj hs
      exact ⟨hsealed.closed, hsealed.shutdown, hsealed.state, hsealed.writer, hsealed.free⟩
    · obtain rfl := Option.some.inj hs
      exact hsealed
    · obtain rfl := Option.some.inj hs
      exact hsealed
    · cases hs
  | done => cases hs

/-- No action takes back that a client is closed, or that its tasks are told to stop. -/
theorem marks_act (c : Client) (a : Action) :
    (c.shared.closed = true → (c.act a).shared.closed = true) ∧
      (c.shared.shutdown = true → (c.act a).shared.shutdown = true) := by
  cases a with
  | step i o =>
    obtain ⟨-, hsame⟩ | ⟨t, b, ht, hs⟩ := step_cases c i o
    · rw [Client.act, hsame]
      exact ⟨id, id⟩
    · rw [(act_step ht hs).1]
      exact ⟨(Task.move_of_step hs).closed.1, (Task.move_of_step hs).shutdown⟩
  | _ => exact ⟨id, id⟩

/-- Whatever the other tasks do meanwhile, closing loses nothing of what it has reached. -/
theorem ClosePhase.Reached.act {p : ClosePhase} (h : p.Reached c.shared) (hheld : HeldByOne c)
    {i : Nat} (ht : c.tasks[i]? = some (.close p)) (a : Action) :
    ∃ p', (c.act a).tasks[i]? = some (.close p') ∧ p'.Reached (c.act a).shared := by
  obtain hsame | ⟨o, b, rfl, hs, hb⟩ := task_act_of_task ht a
  · refine ⟨p, hsame, ?_⟩
    cases p with
    | start => cases h
    | announcing => exact (marks_act c a).1 h
    | waiting => exact ⟨(marks_act c a).1 h.1, (marks_act c a).2 h.2⟩
    | parting k => exact (Sealed.act h hheld a).1
    | done => exact (Sealed.act h hheld a).1
  · obtain ⟨b, hstep, rfl⟩ := Option.map_eq_some_iff.mp hs
    refine ⟨b.phase, hb, ?_⟩
    rw [(act_step ht hs).1]
    exact h.step hstep

theorem ClosePhase.Reached.run {p : ClosePhase} (h : p.Reached c.shared) (hheld : HeldByOne c)
    {i : Nat} (ht : c.tasks[i]? = some (.close p)) (as : List Action) :
    ∃ p', (c.run as).tasks[i]? = some (.close p') ∧ p'.Reached (c.run as).shared := by
  induction as generalizing c p with
  | nil => exact ⟨p, ht, h⟩
  | cons a as ih =>
    obtain ⟨p', ht', h'⟩ := h.act hheld ht a
    exact ih h' (hheld.act a) ht'

/-- The step that closes a client is the first of a call for that. -/
theorem reached_of_closes {i : Nat} {o : Outcome} (hopen : c.shared.closed = false)
    (hclosed : (c.act (.step i o)).shared.closed = true) :
    (c.act (.step i o)).tasks[i]? = some (.close .announcing) := by
  obtain ⟨-, hsame⟩ | ⟨t, b, ht, hs⟩ := step_cases c i o
  · rw [Client.act, hsame, hopen] at hclosed
    cases hclosed
  · obtain ⟨hshared, hphase⟩ := act_step ht hs
    rw [hshared] at hclosed
    rw [hphase]
    have hkept : ∀ s', s'.closed = c.shared.closed → b.shared = s' → False := by
      intro s' hs' heq
      rw [heq, hs', hopen] at hclosed
      cases hclosed
    have hm := Task.move_of_step hs
    obtain hk | ⟨p, b', -, hb', heq⟩ | ⟨p, b', rfl, hb', heq⟩ := hm.keeps_or
    · exact (hkept _ hk.closed rfl).elim
    · exact (hkept _ hb'.marks.2.1 heq).elim
    · cases hm with
      | close h =>
        cases h with
        | begins => rfl
        | announces => exact (hkept { c.shared with shutdown := true } rfl rfl).elim
        | goesOn hk => exact (hkept _ hk.closed rfl).elim

/-- Whatever comes of it, the next step of the task at a place changes nothing but the task. -/
def Settles (c : Client) (i : Nat) (t : Task) : Prop := ∀ o, c.advance? i o = some ⟨c.shared, t, []⟩

/-- What a task can be that was started when the client was closed for good: turned away, if it has
begun. -/
def Task.late : Task → Prop
  | connect p => p = .start ∨ p = .done (.error .closed)
  | send _ _ p => p = .start ∨ p = .done (.error .notConnected)
  | close p => p = .start ∨ p = .done
  | _ => True

theorem Task.late_of_fresh {t : Task} (h : t.fresh) : t.late := by
  cases t with
  | connect p => exact .inl h
  | send operation payload p => exact .inl h
  | close p => exact .inl h
  | _ => trivial

/-- A task that comes too late gets no further than to be turned away. -/
theorem Task.late.step {t : Task} (h : t.late) {s : Shared} (hs : Sealed s) {o : Outcome}
    {b : Advance Task} (hstep : t.step? s o = some b) : b.phase.late := by
  cases t with
  | connect p =>
    rcases h with rfl | rfl
    · simp only [Task.step?, ConnectPhase.step?, hs.shutdown, if_true] at hstep
      obtain rfl := Option.some.inj hstep
      exact .inr rfl
    · cases hstep
  | send operation payload p =>
    rcases h with rfl | rfl
    · simp only [Task.step?, SendPhase.step?, hs.state, if_false] at hstep
      obtain rfl := Option.some.inj hstep
      exact .inr rfl
    · cases hstep
  | close p =>
    rcases h with rfl | rfl
    · simp only [Task.step?, ClosePhase.step?, hs.closed, if_true] at hstep
      obtain rfl := Option.some.inj hstep
      exact .inr rfl
    · cases hstep
  | read k p =>
    obtain ⟨b, -, rfl⟩ := Option.map_eq_some_iff.mp hstep
    trivial
  | retry policy p =>
    obtain ⟨b, -, rfl⟩ := Option.map_eq_some_iff.mp hstep
    trivial

theorem late_run (h : Sealed c.shared) (hheld : HeldByOne c) {as : List Action} {i : Nat}
    (hi : c.tasks.length ≤ i) {t : Task} (ht : (c.run as).tasks[i]? = some t) : t.late := by
  induction as using List.reverseRecOn generalizing t with
  | nil => rw [run_nil, List.getElem?_eq_none hi] at ht; cases ht
  | append_singleton as a ih =>
    rw [run_append] at ht
    obtain hsame | ⟨o, t', b, rfl, ht', hs, rfl⟩ | hfresh := task_act ht
    · exact ih hsame
    · exact (ih ht').step (h.run hheld as).1 hs
    · exact Task.late_of_fresh hfresh

/-- A connection that shows to be installed was so when the client was closed. -/
theorem installed_run (h : Sealed c.shared) (hheld : HeldByOne c) {as : List Action} {i : Nat}
    {t : Task} (ht : (c.run as).tasks[i]? = some t) (hok : t.connecting? = some (.done (.ok ()))) :
    c.tasks[i]? = some t := by
  induction as using List.reverseRecOn generalizing t with
  | nil => exact ht
  | append_singleton as a ih =>
    rw [run_append] at ht
    obtain hsame | ⟨o, t', b, rfl, ht', hs, rfl⟩ | hfresh := task_act ht
    · exact ih hsame hok
    · have hopen := (Task.move_of_step hs).of_installed hok
      rw [(h.run hheld as).1.closed] at hopen
      cases hopen
    · cases t with
      | connect p =>
        obtain rfl := Option.some.inj hok
        cases hfresh
      | retry policy p =>
        obtain rfl : p = .start := hfresh
        cases hok
      | _ => cases hok

/-- A task that connects goes on as the connecting does. -/
theorem Task.step?_connecting {t : Task} {p : ConnectPhase} (ht : t.connecting? = some p)
    (hp : p.ended = false) :
    ∃ around : ConnectPhase → Task, (∀ q, (around q).connecting? = some q) ∧
      ∀ s o, t.step? s o = (p.step? s o).map (·.map around) := by
  cases t with
  | connect q =>
    obtain rfl := Option.some.inj ht
    exact ⟨.connect, fun _ => rfl, fun _ _ => rfl⟩
  | retry policy q =>
    cases q with
    | trying q =>
      obtain rfl := Option.some.inj ht
      refine ⟨fun q => .retry policy (.trying q), fun _ => rfl, fun s o => ?_⟩
      rw [Task.step?, RetryPhase.step?_trying hp, Option.map_map]
      rfl
    | _ => cases ht
  | _ => cases ht

/-- The call for a connection at a place, if it is left to itself, is told that the client is
closed. -/
def EndsClosed (c : Client) (i : Nat) : Prop :=
  ∃ n t, (c.run (List.replicate n (.step i .fine))).tasks[i]? = some t ∧
    t.connecting? = some (.done (.error .closed))

theorem EndsClosed.of_step {i : Nat} (h : EndsClosed (c.act (.step i .fine)) i) :
    EndsClosed c i := by
  obtain ⟨n, t, ht, hclosed⟩ := h
  refine ⟨n + 1, t, ?_, hclosed⟩
  rw [List.replicate_succ, run_cons]
  exact ht

theorem endsClosed_of_step {i : Nat} {t : Task} {p : ConnectPhase} (ht : c.tasks[i]? = some t)
    (hp : t.connecting? = some p) (hon : p.ended = false) {b : Advance ConnectPhase}
    (hs : p.step? c.shared .fine = some b)
    (hnext : ∀ c' t', c'.shared = b.shared → c'.tasks[i]? = some t' →
      t'.connecting? = some b.phase → EndsClosed c' i) :
    EndsClosed c i := by
  obtain ⟨around, haround, hstep⟩ := Task.step?_connecting hp hon
  have hs' : t.step? c.shared .fine = some (b.map around) := by rw [hstep, hs]; rfl
  obtain ⟨hshared, htask⟩ := act_step ht hs'
  exact (hnext _ _ hshared htask (haround _)).of_step

/-- Each place at which connecting looks whether the client was closed tells it so. -/
theorem endsClosed (h : Sealed c.shared) {i : Nat} {t : Task} {p : ConnectPhase}
    (ht : c.tasks[i]? = some t) (hp : t.connecting? = some p) (hon : p.ended = false) :
    EndsClosed c i := by
  have hlast : ∀ (c' : Client) (t' : Task), c'.tasks[i]? = some t' →
      t'.connecting? = some (.done (.error .closed)) → EndsClosed c' i :=
        fun c' t' ht' hp' => ⟨0, t', ht', hp'⟩
  have hopened : ∀ (c' : Client) (t' : Task) k, c'.shared.shutdown = true → c'.tasks[i]? = some t' →
      t'.connecting? = some (.opened k) → EndsClosed c' i := by
    intro c' t' k hshut ht' hp'
    exact endsClosed_of_step ht' hp' rfl (by simp only [ConnectPhase.step?, hshut, if_true]; rfl)
      fun c'' t'' _ ht'' hp'' => hlast c'' t'' ht'' hp''
  have hhandshake : ∀ (c' : Client) (t' : Task), c'.shared.shutdown = true →
      c'.tasks[i]? = some t' →
      t'.connecting? = some .handshake → EndsClosed c' i := by
    intro c' t' hshut ht' hp'
    exact endsClosed_of_step ht' hp' rfl rfl
      fun c'' t'' hs'' ht'' hp'' => hopened c'' t'' _ (by rw [hs'']; exact hshut) ht'' hp''
  cases p with
  | start =>
    exact endsClosed_of_step ht hp rfl (by simp only [ConnectPhase.step?, h.shutdown, if_true]; rfl)
      fun c'' t'' _ ht'' hp'' => hlast c'' t'' ht'' hp''
  | announcing =>
    exact endsClosed_of_step ht hp rfl rfl
      fun c'' t'' hs'' ht'' hp'' => hhandshake c'' t'' (by rw [hs'']; exact h.shutdown) ht'' hp''
  | handshake => exact hhandshake c t h.shutdown ht hp
  | opened k => exact hopened c t k h.shutdown ht hp
  | installing k =>
    exact endsClosed_of_step ht hp
      rfl (by simp only [ConnectPhase.step?, h.free, h.closed, if_true]; rfl)
      fun c'' t'' _ ht'' hp'' => hlast c'' t'' ht'' hp''
  | done => cases hon

/-- The task at a place is the call that closed the client in this run, and has returned. -/
def ClosedBy (settings : ConnectionSettings) (as : List Action) (i : Nat) : Prop :=
  (∃ first o rest, as = first ++ .step i o :: rest ∧
    ((new settings).run first).shared.closed = false ∧
    ((new settings).run (first ++ [.step i o])).shared.closed = true) ∧
  ((new settings).run as).tasks[i]? = some (.close .done)

theorem ClosedBy.sealed {settings : ConnectionSettings} {as : List Action} {i : Nat}
    (h : ClosedBy settings as i) :
    Sealed ((new settings).run as).shared := by
  obtain ⟨⟨first, o, rest, rfl, hopen, hclosed⟩, hdone⟩ := h
  rw [run_append, run_cons, run_nil] at hclosed
  have hannounces := reached_of_closes hopen hclosed
  have hheld := (heldByOne_run settings first).act (.step i o)
  obtain ⟨p, ht, hreached⟩ :=
    ClosePhase.Reached.run (p := .announcing) hclosed hheld hannounces rest
  rw [run_append, run_cons] at hdone ⊢
  rw [hdone] at ht
  obtain rfl := Task.close.inj (Option.some.inj ht)
  exact hreached

end Clients

/-- What a closed client keeps to, whatever is still under way and whatever is called for later. -/
structure Final (c : Client) : Prop where
  /-- It is never connected again, has nothing to write to, and writes no more requests. -/
  silent : ∀ later, (c.run later).shared.state ≠ .connected ∧ (c.run later).shared.writer = none ∧
    (c.run later).shared.requests = c.shared.requests
  /-- A request that is yet to be sent is refused by the first step, which takes no number. -/
  sends : ∀ later i operation payload, (c.run later).tasks[i]? =
    some (.send operation payload .start) →
    (c.run later).Settles i (.send operation payload (.done (.error .notConnected)))
  /-- A connection that is yet to be made is refused by the first step, without a handshake. -/
  connects : ∀ later i, (c.run later).tasks[i]? = some (.connect .start) →
    (c.run later).Settles i (.connect (.done (.error .closed)))
  /-- So is the next attempt of a loop. -/
  retries : ∀ later i policy, (c.run later).tasks[i]? = some (.retry policy (.trying .start)) →
    (c.run later).Settles i (.retry policy (.trying (.done (.error .closed))))
  /-- To close it again changes nothing. -/
  closes : ∀ later i, (c.run later).tasks[i]? = some (.close .start) →
    (c.run later).Settles i (.close .done)
  /-- Whatever is called for later has yet to begin, or was turned away in this manner. -/
  late : ∀ later (i : Nat) (t : Task), c.tasks.length ≤ i → (c.run later).tasks[i]? =
    some t → t.late
  /-- What was on its way to a connection does not get it, -/
  installs : ∀ later (i : Nat) (t : Task), (c.run later).tasks[i]? = some t → t.connecting? =
    some (.done (.ok ())) →
    c.tasks[i]? = some t
  /-- and is told of the closing, if at any time it is left to itself. -/
  ends : ∀ later (i : Nat) (t : Task) p, (c.run later).tasks[i]? = some t → t.connecting? = some p →
    p.ended = false →
    EndsClosed (c.run later) i

/-- Once the call that closes a client has returned, the client is closed for good. -/
theorem closed_for_good (settings : ConnectionSettings) (as : List Action) (i : Nat)
    (h : ClosedBy settings as i) :
    Final ((new settings).run as) := by
  have hheld := heldByOne_run settings as
  have hsealed : ∀ later, Sealed (((new settings).run as).run later).shared := fun later =>
    (h.sealed.run hheld later).1
  constructor
  case silent =>
    intro later
    exact ⟨(hsealed later).state, (hsealed later).writer, (h.sealed.run hheld later).2.2⟩
  case sends =>
    intro later i operation payload ht o
    simp [advance?, ht, Task.step?, SendPhase.step?, (hsealed later).state, Advance.map]
  case connects =>
    intro later i ht o
    simp [advance?, ht, Task.step?, ConnectPhase.step?, (hsealed later).shutdown, Advance.map]
  case retries =>
    intro later i policy ht o
    simp [advance?, ht, Task.step?, RetryPhase.step?, ConnectPhase.step?,
      (hsealed later).shutdown, Advance.map]
  case closes =>
    intro later i ht o
    simp [advance?, ht, Task.step?, ClosePhase.step?, (hsealed later).closed, Advance.map]
  case late =>
    intro later i t hi ht
    exact late_run h.sealed hheld hi ht
  case installs =>
    intro later i t ht hok
    exact installed_run h.sealed hheld ht hok
  case ends =>
    intro later i t p ht hp hon
    exact endsClosed (hsealed later) ht hp hon

/-- A client that is closed while a request waits for the writer and a second connection shakes
hands. -/
theorem busy_closed_for_good :
    let as : List Action := [[.connect], List.replicate 5 (.step 0 .fine), [.send "LogOut" "{}"],
      List.replicate 2 (.step 2 .fine), [.connect, .step 3 .fine, .step 3 .fine, .close],
      List.replicate 4 (.step 4 .fine)].flatten
    ClosedBy {} as 4 ∧ Final ((new {}).run as) := by
  intro as
  have h : ClosedBy {} as 4 := by
    refine ⟨⟨as.take 13, .fine, as.drop 14, rfl, rfl, rfl⟩, rfl⟩
  exact ⟨h, closed_for_good {} as 4 h⟩

end VenueGateway.Client
