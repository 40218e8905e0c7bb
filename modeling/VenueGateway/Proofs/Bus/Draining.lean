import Mathlib.Algebra.Order.BigOperators.Group.List
import Mathlib.Algebra.Order.Group.Nat
import VenueGateway.Proofs.Bus.Feedback

/-!
Draining a bus. Where handlers answer an event with one other at most, and that other with none,
dispatchers that go on working run out of work, in whatever order they take turns: each turn leaves
fewer deliveries that the events in queues can still give rise to.
-/

namespace VenueGateway

/-- Handlers answer an event with one other at most, of a kind that they do not answer. -/
structure Reactor.Calm {H W : Type} (react : Reactor H W) (last : EventKind) : Prop where
  single : ∀ handler e w m, (react handler e w m).offers.length ≤ 1
  kind : ∀ handler e w m, ∀ e' ∈ (react handler e w m).offers, e'.kind = last
  silent : ∀ handler e w m, e.kind = last → (react handler e w m).offers = []

/-- An event of the last kind is not answered, and every other may be. -/
theorem Reactor.Calm.answers {H W : Type} {react : Reactor H W} {last : EventKind}
    (hc : react.Calm last) :
    react.Answers (fun _ e => e.kind ≠ last) last where
  single := hc.single
  kind := hc.kind
  silent handler e w m he := hc.silent handler e w m (by simpa using he)
  final _ e he := by simp [he]

namespace Bus

variable {H : Type} {b : Bus H} {answers : H → Event → Bool} {last : EventKind}

theorem mem_busy {i : Nat} : i ∈ b.busy ↔ (b.take? i).isSome = true := by
  rw [busy, List.mem_filter, List.mem_range, and_iff_right_iff_imp]
  intro h
  obtain ⟨⟨handler, e, b'⟩, ht⟩ := Option.isSome_iff_exists.mp h
  obtain ⟨s, -, hs, -⟩ := take?_eq_some ht
  exact (List.getElem?_eq_some_iff.mp hs).1

theorem quiet_of_busy (h : b.busy = []) : b.Quiet := by
  by_contra hquiet
  obtain ⟨i, hi⟩ := exists_take?_of_not_quiet hquiet
  have hmem := mem_busy.mpr hi
  rw [h] at hmem
  cases hmem

/-- In service, where no dispatcher has anything to take, nothing waits. -/
theorem InService.pending_of_quiet (h : b.InService) (hq : b.Quiet) : b.pending = 0 := by
  refine pending_eq_zero fun i => ?_
  rw [queue]
  cases hs : b.subscriptions[i]? with
  | none => rfl
  | some s =>
    have hmem := List.mem_of_getElem? hs
    exact hq s hmem (h.dispatching s hmem)

theorem effort_le (answers : H → Event → Bool) (last : EventKind) (b : Bus H) :
    b.effort answers last ≤ b.pending * (1 + b.subscriptions.length) := by
  have hanswerable : b.answerable answers ≤ b.pending := by
    rw [pending_eq_total]
    exact List.sum_le_sum fun s _ => List.countP_le_length
  have haudience : b.audience last ≤ b.subscriptions.length := List.countP_le_length
  rw [effort, Nat.mul_add, Nat.mul_one]
  exact Nat.add_le_add_left (Nat.mul_le_mul hanswerable haudience) _

end Bus

namespace Hub

variable {H W : Type} {react : Reactor H W} {last : EventKind}

def dispatches (react : Reactor H W) (h : Hub H W) (steps : List Nat) : Hub H W :=
  steps.foldl (fun h i => h.dispatch react i) h

@[simp] theorem dispatches_nil (h : Hub H W) : h.dispatches react [] = h := rfl
@[simp] theorem dispatches_cons (h : Hub H W) (i : Nat) (steps : List Nat) :
    h.dispatches react (i :: steps) = (h.dispatch react i).dispatches react steps := rfl

def reactions (react : Reactor H W) (h : Hub H W) (i : Nat) : List Event :=
  match h.bus.take? i with
  | some (handler, e, _) => (react handler e h.world h.metrics).offers
  | none => []

def allReactions (react : Reactor H W) (h : Hub H W) : List Nat → List Event
  | [] => []
  | i :: steps => h.reactions react i ++ allReactions react (h.dispatch react i) steps

theorem inService_dispatch {h : Hub H W} (hs : h.bus.InService) (i : Nat) :
    (h.dispatch react i).bus.InService := by
  cases ht : h.bus.take? i with
  | none => rwa [dispatch_of_none ht]
  | some r =>
    obtain ⟨handler, e, b⟩ := r
    rw [dispatch_of_take ht, bus_invoke]
    exact (hs.take? ht).postAll _

theorem inService_dispatches {h : Hub H W} (hs : h.bus.InService) (steps : List Nat) :
    (h.dispatches react steps).bus.InService := by
  induction steps generalizing h with
  | nil => exact hs
  | cons i steps ih => exact ih (inService_dispatch hs i)

/-- Whoever has the turn has something to do. -/
theorem busy_of_next? {turns : Turns} {h : Hub H W} {n : Nat} {a : Action H}
    (ha : h.next? turns n = some a) :
    h.Busy a := by
  unfold next? at ha
  split at ha
  · cases ha
  · next i is hbusy =>
    obtain rfl := Option.some.inj ha
    have hmem := turns.pick_mem n i is
    rw [← hbusy, Bus.mem_busy, hbusy] at hmem
    split
    · next hstop => exact ⟨(Bool.and_eq_true_iff.mp hstop).1, hmem⟩
    · exact hmem

theorem quiet_of_next? {turns : Turns} {h : Hub H W} {n : Nat} (hn : h.next? turns n = none) :
    h.bus.Quiet := by
  unfold next? at hn
  split at hn
  · next hbusy => exact Bus.quiet_of_busy hbusy
  · cases hn

/-- Dispatchers that take turns for long enough leave nothing that they could take. -/
theorem quiet_drain {answers : H → Event → Bool} (ha : react.Answers answers last) (turns : Turns)
    {h : Hub H W} {fuel : Nat} (hf : h.bus.effort answers last ≤ fuel) :
    (h.drain turns react fuel).bus.Quiet := by
  induction fuel generalizing h with
  | zero =>
    by_contra hquiet
    obtain ⟨i, hi⟩ := Bus.exists_take?_of_not_quiet hquiet
    have hless := effort_busy ha (show h.Busy (.dispatch i) from hi)
    omega
  | succ fuel ih =>
    rw [drain]
    split
    · next a hn =>
      have hless := effort_busy ha (busy_of_next? hn)
      exact ih (by omega)
    · next hn => exact quiet_of_next? hn

theorem haltAll_of_inService {h : Hub H W} (hs : h.bus.InService) : h.haltAll = h := by
  have hsame : ∀ is : List Nat, is.foldl (fun b i => b.halt i) h.bus = h.bus := by
    intro is
    induction is with
    | nil => rfl
    | cons i is ih => rw [List.foldl_cons, hs.halt_eq, ih]
  rw [haltAll, hsame]

/-- In service nobody stops, so whoever has the turn dispatches. -/
theorem next?_of_inService {turns : Turns} {h : Hub H W} (hs : h.bus.InService) {n : Nat}
    {a : Action H} (ha : h.next? turns n = some a) : ∃ i, a = .dispatch i := by
  unfold next? at ha
  split at ha
  · cases ha
  · simp only [hs.lasting, Bool.false_and, Bool.false_eq_true, if_false] at ha
    exact ⟨_, (Option.some.inj ha).symm⟩

/-- To drain is to let dispatchers work in some order, whatever the turns are. -/
theorem exists_drain_eq (turns : Turns) (react : Reactor H W) {h : Hub H W} (hs : h.bus.InService)
    (fuel : Nat) :
    ∃ steps, h.drain turns react fuel = h.dispatches react steps := by
  induction fuel generalizing h with
  | zero => exact ⟨[], rfl⟩
  | succ fuel ih =>
    rw [drain]
    split
    · next a hn =>
      obtain ⟨i, rfl⟩ := next?_of_inService hs hn
      obtain ⟨steps, hsteps⟩ := ih (inService_dispatch hs i)
      exact ⟨i :: steps, hsteps⟩
    · exact ⟨[], rfl⟩

/-- A bus in service is drained, in whatever order dispatchers take turns. -/
theorem settle_eq_dispatches (hc : react.Calm last) (turns : Turns) {h : Hub H W}
    (hs : h.bus.InService) :
    ∃ steps, h.settle turns react = h.dispatches react steps ∧
    (h.dispatches react steps).bus.pending = 0 := by
  obtain ⟨steps, hsteps⟩ := exists_drain_eq turns react hs h.drainBound
  have hquiet := quiet_drain hc.answers turns (h.bus.effort_le _ last)
  rw [← drainBound, hsteps] at hquiet
  rw [settle, haltAll_of_inService hs]
  exact ⟨steps, hsteps, (inService_dispatches hs steps).pending_of_quiet hquiet⟩

/-- A bus in service can always be drained. -/
theorem exists_drained (hc : react.Calm last) {h : Hub H W} (hs : h.bus.InService) :
    ∃ steps, (h.dispatches react steps).bus.pending = 0 := by
  obtain ⟨steps, -, hidle⟩ := settle_eq_dispatches hc .inOrder hs
  exact ⟨steps, hidle⟩

end Hub

end VenueGateway
