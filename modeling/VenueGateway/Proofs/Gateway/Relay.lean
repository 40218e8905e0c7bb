import VenueGateway.Gateway.Basic
import VenueGateway.Proofs.Bus.Delivery
import VenueGateway.Proofs.Bus.Draining
import VenueGateway.Proofs.Tracker.Change

/-!
How the outbox hears of the end of an order. The tracker learns of it from one queue and the outbox
from another, both of which are bounded, so the outbox hears of the end if there was room for it in
its own queue; where there was none, the drop is counted.
-/

namespace VenueGateway

namespace Listener

/-- Listeners offer nothing but the cancellations that a tracker announces. -/
theorem kind_of_offered {order : VisitOrder Tracker.Entry} {listener : Listener} {e e' : Event}
    {w : Floor} {m : Metrics} (h : e' ∈ (react order listener e w m).offers) :
    e'.kind = .orderCanceled := by
  cases listener with
  | tracker =>
    change e' ∈ (w.tracker.handle order e m).offers at h
    rcases w.tracker.handle_offers order e m with hnone | ⟨id, key, -, hone⟩
    · rw [hnone] at h
      cases h
    · rw [hone] at h
      rw [List.mem_singleton.mp h]
      rfl
  | outbox => cases h
  | observer => cases h

/-- A cancellation changes no tracker and is not answered, and listeners apart from trackers answer
nothing. -/
theorem react_of_idle (order : VisitOrder Tracker.Entry) {listener : Listener} {e : Event}
    (h : listener = .tracker → e.kind = .orderCanceled) (w : Floor) (m : Metrics) :
    (react order listener e w m).world.tracker = w.tracker ∧
      (react order listener e w m).offers = [] := by
  cases listener with
  | tracker =>
    cases e with
    | orderCanceled key => exact ⟨rfl, rfl⟩
    | _ => cases h rfl
  | outbox => exact ⟨rfl, rfl⟩
  | observer name panics => exact ⟨rfl, rfl⟩

/-- Only the tracker answers, with one cancellation. -/
theorem calm (order : VisitOrder Tracker.Entry) : (react order).Calm .orderCanceled where
  single := by
    intro listener e w m
    cases listener with
    | tracker =>
      rcases w.tracker.handle_offers order e m with hnone | ⟨id, key, -, hone⟩
      · simp [react, hnone]
      · simp [react, hone]
    | outbox => simp [react]
    | observer name panics => simp [react]
  kind := fun _ _ _ _ _ => kind_of_offered
  silent := fun _ _ w m he => (react_of_idle order (fun _ => he) w m).2

end Listener

namespace Hub

open Listener (react)

variable {order : VisitOrder Tracker.Entry}

/-- The tracker at work changes only by the event that it takes. -/
theorem tracker_dispatch {h : Hub Listener Floor} {i : Nat} {e : Event} {b : Bus Listener}
    (ht : h.bus.take? i = some (.tracker, e, b)) :
    (h.dispatch (react order) i).world.tracker =
      (h.world.tracker.handle order e h.metrics).world := by
  rw [dispatch_of_take ht, world_invoke]
  rfl

/-- Where an attempted cancel ends the tracking of an order, its cancellation is published there and
then. -/
theorem dispatch_of_canceled {h : Hub Listener Floor} {i : Nat} {id : Int64} {b : Bus Listener}
    {key : String} (ht : h.bus.take? i = some (.tracker, .attemptedCancel id, b))
    (hk : h.world.tracker.Holds key) (hl : ¬ (h.dispatch (react order) i).world.tracker.Holds key) :
    ∃ w m, m.counters = h.metrics.counters ∧
      h.dispatch (react order) i =
        (({ h with bus := b, world := w, metrics := m } : Hub Listener Floor).post
        (.orderCanceled key)).1 := by
  rw [tracker_dispatch ht] at hl
  have hr := Tracker.handle_canceled_of_lost hk hl
  refine ⟨{ h.world with tracker := h.world.tracker.untrack key },
    h.metrics.setTracked (h.world.tracker.untrack key).trades.size, rfl, ?_⟩
  rw [dispatch_of_take ht]
  simp only [invoke, react, hr, Tracker.moved, List.foldl_cons, List.foldl_nil]

/-- The cancellation that a tracker announces is relayed to the outbox. -/
theorem relays_canceled {h : Hub Listener Floor} {i k : Nat} {id : Int64} {b : Bus Listener}
    {key : String} (hs : h.bus.Seated k .outbox .orderCanceled)
    (ht : h.bus.take? i = some (.tracker, .attemptedCancel id, b)) (hk : h.world.tracker.Holds key)
    (hl : ¬ (h.dispatch (react order) i).world.tracker.Holds key) {as : List (Action Listener)}
    (ha : ∀ a ∈ as, a.isRoutine = true)
    (hempty : ((h.dispatch (react order) i).run (react order) as).1.bus.queue k = []) :
    Relays (react order) h (h.dispatch (react order) i) k .outbox (.orderCanceled key) as := by
  -- The tracker's dispatcher is not the outbox's, so the queue of the outbox is as it was when it
  -- published.
  have hik : i ≠ k := by
    rintro rfl
    cases handler_of_seated hs ht
  obtain ⟨w, m, hm, hd⟩ := dispatch_of_canceled ht hk hl
  have hcount : m.count (.eventsDropped .orderCanceled) =
      h.metrics.count (.eventsDropped .orderCanceled) := by
    rw [Metrics.count, hm]
    rfl
  rw [hd] at hempty ⊢
  obtain ⟨hdelivered, hlost, hcounted⟩ := relays_post (hs.take? ht) ha hempty
  have hqueue : b.queue k = h.bus.queue k := Bus.queue_take?_ne ht hik
  have hcapacity := Bus.capacity_take? ht
  refine ⟨?_, ?_, ?_⟩
  · intro hroom
    exact hdelivered (by rwa [hqueue, hcapacity])
  · intro hfull
    rw [hlost (by rwa [hqueue, hcapacity]), hqueue]
  · intro hfull
    have hless := hcounted (by rwa [hqueue, hcapacity])
    exact lt_of_eq_of_lt hcount.symm hless

/-- The outbox hears of every order that is untracked: of a cancel as the tracker announces it, and
of a fill by the publication that the tracker itself heard of. Only a full queue keeps it from
hearing, and that counts. -/
theorem outcome_relayed_or_counted (order : VisitOrder Tracker.Entry) (h₀ : Hub Listener Floor)
    (before after : List (Action Listener)) (i j k : Nat)
    (hroutine : ∀ a ∈ before ++ .dispatch i :: after, a.isRoutine = true)
    (hfills : h₀.bus.Seated j .outbox .fillArrived)
    (hcancels : h₀.bus.Seated k .outbox .orderCanceled) (hstart : h₀.bus.pending = 0)
    (hend : (h₀.run (react order) (before ++ .dispatch i :: after)).1.bus.pending = 0) :
    let h := (h₀.run (react order) before).1
    let h' := h.dispatch (react order) i
    ∀ e key, h.taken? (.dispatch i) = some ⟨i, .tracker, e⟩ →
      h.world.tracker.Holds key → ¬ h'.world.tracker.Holds key →
        (∃ id, e = .attemptedCancel id ∧
          Relays (react order) h h' k .outbox (.orderCanceled key) after) ∨
        ∃ f before' between, e = .fillArrived f ∧
          PostedAt (react order) h₀ i before 0 e before' between ∧
          Relays (react order) (h₀.run (react order) before').1
            ((h₀.run (react order) before').1.post e).1 j
            .outbox e (between ++ .dispatch i :: after) := by
  intro h h' e key htaken hk hl
  have hbefore : ∀ a ∈ before, a.isRoutine = true :=
    fun a ha => hroutine a (List.mem_append_left _ ha)
  have hafter : ∀ a ∈ after, a.isRoutine = true := fun a ha =>
    hroutine a (List.mem_append_right _ (List.mem_cons_of_mem _ ha))
  obtain ⟨b, ht⟩ := taken?_dispatch_eq_some htaken
  have hc : Tracker.Change h.world.tracker e h'.world.tracker := by
    rw [tracker_dispatch ht]
    exact Tracker.change_handle _ _ _ _
  rcases hc.canceled_or_filled_of_lost hk hl with ⟨id, rfl⟩ | ⟨f, rfl⟩
  · left
    refine ⟨id, rfl, relays_canceled (seated_run hbefore hcancels) ht hk hl hafter ?_⟩
    rw [run_append] at hend
    exact Bus.queue_eq_nil_of_pending hend k
  · right
    have hoffers : ∀ listener e w m, ∀ e' ∈ (react order listener e w m).offers,
        e'.kind ≠ .fillArrived := by
      intro listener e w m e' he'
      rw [Listener.kind_of_offered he']
      decide
    -- The tracker took the fill from the head of its queue, which names the publication it came
    -- from.
    have hhead : (h.bus.queue i)[0]? = some (.fillArrived f) := by
      rw [Bus.queue_take? ht]
      rfl
    obtain ⟨before', between, hp⟩ :=
      exists_postedAt hbefore (Bus.queue_eq_nil_of_pending hstart i) hoffers hhead rfl
    have hall := hp.split
    refine ⟨f, before', between, rfl, hp, relays_post ?_ ?_ ?_⟩
    · exact seated_run (fun a ha =>
        hbefore a (by rw [hall]; exact List.mem_append_left _ ha)) hfills
    · intro a ha
      refine hroutine a ?_
      rw [hall, List.append_assoc]
      exact List.mem_append_right _ (List.mem_cons_of_mem _ ha)
    · rw [hall, List.append_assoc, run_append] at hend
      exact Bus.queue_eq_nil_of_pending hend j

/-- Tracker and outbox on a bus whose queues take one event each. -/
def narrow : Hub Listener Floor := { bus := Gateway.newBus 1 [], world := {} }

/-- Two orders are submitted, the first is given up, and the venue gives up the second before the
outbox has heard of the first. -/
def crowding : List (Action Listener) :=
  [.post (.orderSubmitted ⟨1, 9, 1⟩ "a"), .dispatch 0, .post (.orderSubmitted ⟨1, 9, 2⟩ "b"),
    .dispatch 0, .post (.attemptedCancel 1), .dispatch 1, .post (.attemptedCancel 2)]

theorem second_cancel_counted :
    let h := (narrow.run (react .asKept) crowding).1
    let h' := h.dispatch (react .asKept) 1
    h.world.tracker.Holds "b" ∧ ¬ h'.world.tracker.Holds "b" ∧
      h.metrics.count (.eventsDropped .orderCanceled) <
        h'.metrics.count (.eventsDropped .orderCanceled) := by
  intro h h'
  have hk : h.world.tracker.Holds "b" := by decide
  have hl : ¬ h'.world.tracker.Holds "b" := by decide
  refine ⟨hk, hl, ?_⟩
  rcases outcome_relayed_or_counted .asKept narrow crowding [.dispatch 4] 1 3 4 (by decide)
    ⟨_, rfl, rfl, rfl, rfl, rfl⟩ ⟨_, rfl, rfl, rfl, rfl,
      rfl⟩ (by decide) (by decide) (.attemptedCancel 2) "b"
    (by decide) hk hl with ⟨id, -, hr⟩ | ⟨f, before', between, hf, -⟩
  · exact hr.counted (by decide)
  · cases hf

/-- With room for one event the outbox may never hear that an order is no longer tracked. -/
theorem second_cancel_unheard :
    let h := (narrow.run (react .asKept) crowding).1
    let h' := h.dispatch (react .asKept) 1
    h.taken? (.dispatch 1) = some ⟨1, .tracker, .attemptedCancel 2⟩ ∧
      h.world.tracker.Tracks "b" ⟨1, 9, 2⟩ ∧ ¬ h'.world.tracker.Holds "b" ∧
      (h'.run (react .asKept) [.dispatch 4]).1.bus.pending = 0 ∧
      ∀ d ∈ narrow.deliveries (react .asKept) (crowding ++ [.dispatch 1, .dispatch 4]),
        d.handler = .outbox → d.event ≠ .orderCanceled "b" := by
  decide

end Hub

end VenueGateway
