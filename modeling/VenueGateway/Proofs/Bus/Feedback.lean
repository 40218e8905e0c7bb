import VenueGateway.Proofs.Bus.OnceInOrder
import VenueGateway.Proofs.Bus.Totals

/-!
How long dispatchers can go on where handlers answer some events with one other at most, of a kind
that nobody answers. An event in a queue stands for itself and, where its handler may answer it, for
one delivery to each subscription to that kind. The sum of these never rises, and falls by one
whenever a handler is run or a queue is dropped. So from every state, whether in service or being
shut down, in whatever order dispatchers run, the sum says how often handlers are run before nothing
is left to do.
-/

namespace VenueGateway

/-- Handlers answer no more than the events given, each with one other at most, of a kind that is
not answered. -/
structure Reactor.Answers {H W : Type} (react : Reactor H W) (answers : H → Event → Bool)
    (last : EventKind) : Prop where
  single : ∀ handler e w m, (react handler e w m).offers.length ≤ 1
  kind : ∀ handler e w m, ∀ e' ∈ (react handler e w m).offers, e'.kind = last
  silent : ∀ handler e w m, answers handler e = false → (react handler e w m).offers = []
  final : ∀ handler e, e.kind = last → answers handler e = false

namespace Bus

variable {H : Type} {b : Bus H} {answers : H → Event → Bool} {last : EventKind}

/-- The number of events in queues that their handlers may answer. -/
def answerable (answers : H → Event → Bool) (b : Bus H) : Nat :=
  b.total fun s => s.queue.countP (answers s.handler)

/-- The number of deliveries that the events in queues can give rise to, their own included. -/
def effort (answers : H → Event → Bool) (last : EventKind) (b : Bus H) : Nat :=
  b.pending + b.answerable answers * b.audience last

theorem audience_post (b : Bus H) (e : Event) (kind : EventKind) :
    (b.post e).1.audience kind = b.audience kind := by
  rw [post_fst_eq, audience, audience, List.countP_map]
  refine List.countP_congr fun s _ => ?_
  simp [Subscription.wants]

theorem audience_set {i : Nat} {s : Subscription H} (hs : b.subscriptions[i]? = some s)
    (s' : Subscription H) (hk : s'.kind = s.kind) (hsub : s'.subscribed = s.subscribed)
    (kind : EventKind) :
    ({ b with subscriptions := b.subscriptions.set i s' } : Bus H).audience kind =
      b.audience kind := by
  obtain ⟨hlt, rfl⟩ := List.getElem?_eq_some_iff.mp hs
  have hwants : s'.wants kind = b.subscriptions[i].wants kind := by
    simp [Subscription.wants, hk, hsub]
  have hafter := (List.set_perm_cons_eraseIdx hlt s').countP_eq (·.wants kind)
  have hbefore := (List.getElem_cons_eraseIdx_perm hlt).countP_eq (·.wants kind)
  rw [List.countP_cons, hwants, ← List.countP_cons, hbefore] at hafter
  exact hafter

/-- An event that nobody answers adds nothing to what may be answered. -/
theorem answerable_post {e : Event} (he : ∀ handler, answers handler e = false) (b : Bus H) :
    (b.post e).1.answerable answers = b.answerable answers := by
  rw [post_fst_eq, answerable, answerable, total, total, List.map_map]
  refine congrArg List.sum (List.map_congr_left fun s _ => ?_)
  simp only [Function.comp_apply, Subscription.handler_receive, Subscription.queue_receive,
    List.countP_append]
  split <;> simp [he]

theorem accepted_le_audience (b : Bus H) (e : Event) : (b.post e).2.1 ≤ b.audience e.kind := by
  rw [Bus.post, offerAll_counts b e _ (b.nodup_recipients e.kind), ← length_recipients]
  exact List.countP_le_length

/-- Who is published to adds one delivery for each subscription at most. -/
theorem effort_post_le {e : Event} (hk : e.kind = last) (he : ∀ handler, answers handler e = false)
    (b : Bus H) :
    (b.post e).1.effort answers last ≤ b.effort answers last + b.audience last := by
  have haccepted := b.accepted_le_audience e
  rw [effort, effort, audience_post, answerable_post he, pending_post, ← hk]
  omega

/-- Where an event may be answered, it stands for the deliveries of the answer too. -/
theorem effort_take? {i : Nat} {handler : H} {e : Event} {b' : Bus H}
    (ht : b.take? i = some (handler, e, b')) :
    b.effort answers last =
      b'.effort answers last + 1 + if answers handler e then b'.audience last else 0 := by
  obtain ⟨s, rest, hs, rfl, -, hq, rfl⟩ := take?_eq_some ht
  have hpending := pending_take? ht
  have hanswerable :=
    total_set (fun s => s.queue.countP (answers s.handler)) hs { s with queue := rest }
  have haudience := audience_set hs { s with queue := rest } rfl rfl last
  generalize ({ b with subscriptions := b.subscriptions.set i { s with queue := rest } } : Bus H) =
    b' at *
  change b'.answerable answers + _ = b.answerable answers + _ at hanswerable
  simp only [hq, List.countP_cons] at hanswerable
  have hsum : b.answerable answers = b'.answerable answers + if answers s.handler e then 1
    else 0 := by omega
  rw [effort, effort, hpending, haudience, hsum, Nat.add_mul]
  split <;> omega

/-- A queue that is dropped takes its events with it. -/
theorem effort_halt_le (b : Bus H) (i : Nat) :
    (b.halt i).effort answers last + (if b.stopping then (b.queue i).length else 0) ≤
      b.effort answers last := by
  cases hs : b.subscriptions[i]? with
  | none => simp [halt, queue, hs]
  | some s =>
    cases hstop : b.stopping with
    | false => simp [halt, hs, hstop]
    | true =>
      have hpending :=
        total_set (fun s => s.queue.length) hs { s with dispatching := false, queue := [] }
      have hanswerable := total_set (fun s => s.queue.countP (answers s.handler)) hs
        { s with dispatching := false, queue := [] }
      have haudience := audience_set hs { s with dispatching := false, queue := [] } rfl rfl last
      have hhalt : b.halt i =
          { b with
            subscriptions :=
              b.subscriptions.set i { s with dispatching := false, queue := [] } } := by
        simp only [halt, hs, hstop, if_true]
      rw [← hhalt] at hpending hanswerable haudience
      rw [← pending_eq_total, ← pending_eq_total, List.length_nil] at hpending
      change (b.halt i).answerable answers + _ = b.answerable answers + _ at hanswerable
      rw [List.countP_nil] at hanswerable
      have hfewer := Nat.mul_le_mul_right (b.audience last)
        (show (b.halt i).answerable answers ≤ b.answerable answers by omega)
      have hqueue : b.queue i = s.queue := by simp [queue, hs]
      rw [effort, effort, haudience, if_pos rfl, hqueue]
      omega

def Quiet (b : Bus H) : Prop := ∀ s ∈ b.subscriptions, s.dispatching = true → s.queue = []

theorem exists_take?_of_not_quiet (hq : ¬ b.Quiet) : ∃ i, (b.take? i).isSome = true := by
  simp only [Quiet, not_forall] at hq
  obtain ⟨s, hmem, hd, hqueue⟩ := hq
  obtain ⟨i, hs⟩ := List.mem_iff_getElem?.mp hmem
  obtain ⟨e, rest, hcons⟩ := List.exists_cons_of_ne_nil hqueue
  exact ⟨i, by simp only [take?, hs, hd, hcons, Option.isSome_some]⟩

end Bus

namespace Hub

variable {H W : Type} {react : Reactor H W} {answers : H → Event → Bool} {last : EventKind}

def Action.isDispatching : Action H → Bool
  | .dispatch _ => true
  | .halt _ => true
  | _ => false

/-- A dispatcher that has something to do does it: it takes an event, or drops its queue. -/
def Busy (h : Hub H W) : Action H → Prop
  | .dispatch i => (h.bus.take? i).isSome = true
  | .halt i => h.bus.stopping = true ∧ (h.bus.take? i).isSome = true
  | _ => False

/-- Dispatchers work one after another, each of which has something to do. -/
def Works (react : Reactor H W) (h : Hub H W) : List (Action H) → Prop
  | [] => True
  | a :: as => h.Busy a ∧ Works react (h.act react a).1 as

theorem works_append {h : Hub H W} {as bs : List (Action H)} :
    Works react h (as ++ bs) ↔ Works react h as ∧ Works react (h.run react as).1 bs := by
  induction as generalizing h with
  | nil => exact ⟨fun hw => ⟨trivial, hw⟩, And.right⟩
  | cons a as ih =>
    rw [List.cons_append, Works, Works, ih, and_assoc]
    rfl

/-- What a handler publishes is accounted for by the event that it answers. -/
theorem effort_dispatch (ha : react.Answers answers last) {h : Hub H W} {i : Nat} {handler : H}
    {e : Event} {b : Bus H} (ht : h.bus.take? i = some (handler, e, b)) :
    (h.dispatch react i).bus.effort answers last + 1 ≤ h.bus.effort answers last := by
  have htaken : h.bus.effort answers last = b.effort answers last + 1 + _ := Bus.effort_take? ht
  have hsingle := ha.single handler e h.world h.metrics
  have hkind := ha.kind handler e h.world h.metrics
  have hsilent := ha.silent handler e h.world h.metrics
  rw [dispatch_of_take ht, bus_invoke]
  change (b.postAll (react handler e h.world h.metrics).offers).effort answers last + 1 ≤ _
  cases ho : (react handler e h.world h.metrics).offers with
  | nil =>
    rw [Bus.postAll_nil]
    omega
  | cons e' es =>
    rw [ho] at hsingle hkind hsilent
    obtain rfl : es = [] := by simpa using hsingle
    have hk := hkind e' List.mem_cons_self
    have hpost := Bus.effort_post_le hk (fun handler => ha.final handler e' hk) b
    have hanswered : answers handler e = true := by
      cases hanswers : answers handler e with
      | true => rfl
      | false => cases hsilent hanswers
    rw [hanswered, if_pos rfl] at htaken
    rw [Bus.postAll_cons, Bus.postAll_nil]
    omega

/-- Dispatchers never make the sum larger, and each handler that is run makes it smaller. -/
theorem effort_act (ha : react.Answers answers last) (h : Hub H W) {a : Action H}
    (hd : a.isDispatching = true) :
    (h.act react a).1.bus.effort answers last + (h.invoked a).length ≤
      h.bus.effort answers last := by
  cases a with
  | dispatch i =>
    change (h.dispatch react i).bus.effort answers last + _ ≤ _
    cases ht : h.bus.take? i with
    | none => simp [dispatch_of_none ht, invoked, taken?, ht]
    | some r =>
      have hdispatch := effort_dispatch ha ht
      simpa [invoked, taken?, ht] using hdispatch
  | halt i => exact Nat.le_trans (Nat.le_add_right _ _) (h.bus.effort_halt_le i)
  | _ => cases hd

/-- A dispatcher that does something lowers the effort, since what it offers is answered by
nobody. -/
theorem effort_busy (ha : react.Answers answers last) {h : Hub H W} {a : Action H} (hb : h.Busy a) :
    (h.act react a).1.bus.effort answers last + 1 ≤ h.bus.effort answers last := by
  cases a with
  | dispatch i =>
    obtain ⟨⟨handler, e, b⟩, ht⟩ := Option.isSome_iff_exists.mp hb
    exact effort_dispatch ha ht
  | halt i =>
    obtain ⟨hstop, hbusy⟩ := hb
    obtain ⟨⟨handler, e, b⟩, ht⟩ := Option.isSome_iff_exists.mp hbusy
    have hhalt : (h.bus.halt i).effort answers last + _ ≤ h.bus.effort answers last :=
      h.bus.effort_halt_le i
    rw [if_pos hstop, Bus.queue_take? ht, List.length_cons] at hhalt
    change (h.bus.halt i).effort answers last + 1 ≤ _
    omega
  | _ => exact hb.elim

theorem length_le_effort (ha : react.Answers answers last) {h : Hub H W} {as : List (Action H)}
    (hw : Works react h as) :
    (h.run react as).1.bus.effort answers last + as.length ≤ h.bus.effort answers last := by
  induction as generalizing h with
  | nil => exact Nat.le_refl _
  | cons a as ih =>
    have hfirst := effort_busy ha hw.1
    have hrest := ih hw.2
    change ((h.act react a).1.run react as).1.bus.effort answers last + (as.length + 1) ≤ _
    omega

/-- Handlers are run no more often than the sum says, whoever dispatches, with or without something
to do. -/
theorem invocations_le_effort (ha : react.Answers answers last) {h : Hub H (W × List (H × Event))}
    {as : List (Action H)} (hd : ∀ a ∈ as, a.isDispatching = true) :
    (h.run react.logged as).1.world.2.length ≤ h.world.2.length + h.bus.effort answers last := by
  have hlogged : react.logged.Answers answers last :=
    ⟨fun handler e w => ha.single handler e w.1, fun handler e w => ha.kind handler e w.1,
      fun handler e w => ha.silent handler e w.1, ha.final⟩
  induction as generalizing h with
  | nil => exact Nat.le_add_right _ _
  | cons a as ih =>
    have hfirst := effort_act hlogged h (hd a List.mem_cons_self)
    have hrest :=
      ih (h := (h.act react.logged a).1) fun a' ha' => hd a' (List.mem_cons_of_mem _ ha')
    rw [act_logged, List.length_append] at hrest
    change ((h.act react.logged a).1.run react.logged as).1.world.2.length ≤ _
    omega

/-- Dispatchers can go on until none has anything to take. -/
theorem exists_quiet (ha : react.Answers answers last) (h : Hub H W) :
    ∃ more, Works react h more ∧ (h.run react more).1.bus.Quiet := by
  induction hn : h.bus.effort answers last using Nat.strongRecOn generalizing h with
  | ind n ih =>
    by_cases hquiet : h.bus.Quiet
    · exact ⟨[], trivial, hquiet⟩
    · obtain ⟨i, hi⟩ := Bus.exists_take?_of_not_quiet hquiet
      have hbusy : h.Busy (.dispatch i) := hi
      have hless := effort_busy ha hbusy
      obtain ⟨more, hmore, hend⟩ := ih _ (by omega) (h.act react (.dispatch i)).1 rfl
      exact ⟨.dispatch i :: more, ⟨hbusy, hmore⟩, hend⟩

/-- A hub where from now on is written down who handled which event. -/
def logging (h : Hub H W) : Hub H (W × List (H × Event)) :=
  { bus := h.bus, world := (h.world, []), metrics := h.metrics, broadcasts := h.broadcasts }

/-- Dispatchers run out of work, in whatever order they run. -/
structure Quiets (react : Reactor H W) (h : Hub H W) (bound : Nat) : Prop where
  /-- No run in which each of them has something to do is longer. -/
  bounded : ∀ as, Works react h as → as.length ≤ bound
  /-- Every such run goes on until there is nothing left to take. -/
  ends : ∀ as, Works react h as →
    ∃ more, Works react h (as ++ more) ∧ (h.run react (as ++ more)).1.bus.Quiet
  /-- No more handlers are run, whether or not dispatchers that run have something to do. -/
  invoked : ∀ as, (∀ a ∈ as, a.isDispatching = true) →
    (h.logging.run react.logged as).1.world.2.length ≤ bound

/-- The effort bounds how long dispatchers can go on, in whatever order. -/
theorem quiets_of_answers (ha : react.Answers answers last) (h : Hub H W) :
    Quiets react h (h.bus.effort answers last) where
  bounded := by
    intro as hw
    exact Nat.le_trans (Nat.le_add_left _ _) (length_le_effort ha hw)
  ends := by
    intro as hw
    obtain ⟨more, hmore, hend⟩ := exists_quiet ha (h.run react as).1
    refine ⟨more, works_append.mpr ⟨hw, hmore⟩, ?_⟩
    rwa [run_append]
  invoked := by
    intro as hd
    have hlength := invocations_le_effort ha (h := h.logging) hd
    rwa [logging, List.length_nil, Nat.zero_add] at hlength

end Hub

end VenueGateway
