import VenueGateway.Proofs.Bus.Counting
import VenueGateway.Proofs.Gateway.Relay
import VenueGateway.Proofs.Tracker.Closing

/-!
How a tracker on a bus hears of the end of an order. From the publication until the bus is idle
again, dispatchers may work in any order and the tracker may be handed the event more than once; in
the end it has closed the entry of that order, and all that listeners have published is what this
announces.
-/

namespace VenueGateway

namespace Bus

variable {H : Type} {b : Bus H}

theorem mem_queue_of_take? {i j : Nat} {handler : H} {e e' : Event} {b' : Bus H}
    (ht : b.take? i = some (handler, e, b')) (he : e' ∈ b'.queue j) : e' ∈ b.queue j := by
  by_cases hij : i = j
  · subst hij
    rw [queue_take? ht]
    exact List.mem_cons_of_mem _ he
  · rwa [queue_take?_ne ht hij] at he

theorem seated_subscribe (b : Bus H) (kind : EventKind) (handler : H) :
    (b.subscribe kind handler).1.Seated b.subscriptions.length handler kind :=
  ⟨{ kind, handler }, by simp [subscribe], rfl, rfl, rfl, rfl⟩

theorem Seated.subscribe {i : Nat} {handler : H} {kind : EventKind} (h : b.Seated i handler kind)
    (kind' : EventKind) (handler' : H) : (b.subscribe kind' handler').1.Seated i handler kind := by
  obtain ⟨s, hs, hseat⟩ := h
  refine ⟨s, ?_, hseat⟩
  rw [Bus.subscribe, List.getElem?_append_left (List.getElem?_eq_some_iff.mp hs).1, hs]

end Bus

/-- What subscriptions keep, a listener that subscribes to several kinds keeps. -/
theorem Listener.subscribeTo_keeps {P : Bus Listener → Prop}
    (hP : ∀ b kind listener, P b → P (b.subscribe kind listener).1) (listener : Listener)
    (kinds : List EventKind) {b : Bus Listener} (h : P b) : P (listener.subscribeTo kinds b) := by
  induction kinds generalizing b with
  | nil => exact h
  | cons kind kinds ih => exact ih (hP b kind listener h)

/-- A listener is seated for every kind that it subscribes to. -/
theorem Listener.seated_subscribeTo (listener : Listener) {kinds : List EventKind}
    {kind : EventKind} (hk : kind ∈ kinds) (b : Bus Listener) :
    ∃ i, (listener.subscribeTo kinds b).Seated i listener kind := by
  induction kinds generalizing b with
  | nil => cases hk
  | cons kind' kinds ih =>
    rcases List.mem_cons.mp hk with rfl | hk
    · exact subscribeTo_keeps (P := fun b => ∃ i, b.Seated i listener kind)
        (fun _ kind' other ⟨i, hi⟩ => ⟨i, hi.subscribe kind' other⟩) listener kinds ⟨_,
          b.seated_subscribe kind listener⟩
    · exact ih hk _

namespace Gateway

theorem newBus_keeps {P : Bus Listener → Prop}
    (hP : ∀ b kind listener, P b → P (b.subscribe kind listener).1) (capacity : Nat)
    (observers : List EventKind) (h : P (Bus.new capacity)) : P (newBus capacity observers) := by
  have hobservers : ∀ (os : List (EventKind × Nat)) (b : Bus Listener), P b →
      P (os.foldl (fun b o => (b.subscribe o.1 (.observer o.2 false)).1) b) := by
    intro os
    induction os with
    | nil => exact fun b hb => hb
    | cons o os ih => exact fun b hb => ih _ (hP b o.1 _ hb)
  exact Listener.subscribeTo_keeps hP _ _ (Listener.subscribeTo_keeps hP _ _ (hobservers _ _ h))

/-- On the bus of a gateway the tracker listens to all that it subscribes to. -/
theorem seated_newBus (capacity : Nat) (observers : List EventKind) {kind : EventKind}
    (hk : kind ∈ Tracker.subscribedKinds) :
    ∃ i, (newBus capacity observers).Seated i .tracker kind :=
  Listener.subscribeTo_keeps (P := fun b => ∃ i, b.Seated i .tracker kind)
    (fun _ kind' listener ⟨i, hi⟩ => ⟨i, hi.subscribe kind' listener⟩) _ _
      (Listener.seated_subscribeTo .tracker hk _)

end Gateway

namespace Hub

open Listener (react)

variable {order : VisitOrder Tracker.Entry} {t : Tracker} {id : Int64} {givenUp : Bool} {e : Event}
  {i : Nat}
  {h : Hub Listener Floor} {said : List Event}

/-- How far a tracker is with an event that was published for it: the event still waits at its
place, or was handled, and then the listeners have said what was to be said about it. -/
structure Hears (order : VisitOrder Tracker.Entry) (t : Tracker) (e : Event) (i : Nat)
    (h : Hub Listener Floor) (said : List Event) : Prop where
  seat : h.bus.Seated i .tracker e.kind
  others : ∀ j, ∀ e' ∈ h.bus.queue j, e' = e ∨ e'.kind = .orderCanceled
  progress : (h.world.tracker = t ∧ said = [] ∧ e ∈ h.bus.queue i) ∨
    ∃ m, h.world.tracker = (t.handle order e m).world ∧ said = (t.handle order e m).offers

/-- On an idle bus a publication puts its event at the end of the empty queue of a tracker. -/
theorem hears_post (order : VisitOrder Tracker.Entry) (hidle : h.bus.pending = 0)
    (hs : h.bus.Seated i .tracker e.kind) :
    Hears order h.world.tracker e i (h.post e).1 [] where
  seat := hs.post e
  others := by
    intro j e' he'
    change e' ∈ (h.bus.post e).1.queue j at he'
    obtain ⟨new, hnew, hmem⟩ := h.bus.queue_postAll j [e]
    rw [Bus.postAll_cons, Bus.postAll_nil, Bus.queue_eq_nil_of_pending hidle,
      List.nil_append] at hnew
    rw [hnew] at he'
    exact .inl (List.mem_singleton.mp (hmem e' he'))
  progress := by
    have hroom : (h.bus.queue i).length < h.bus.capacity := by
      rw [Bus.queue_eq_nil_of_pending hidle]
      exact h.bus.capacity_pos
    refine .inl ⟨rfl, rfl, ?_⟩
    change e ∈ (h.bus.post e).1.queue i
    rw [Bus.queue_post_of_admits (hs.admits_iff.mpr hroom)]
    exact List.mem_append_right _ List.mem_cons_self

/-- One dispatcher at work. -/
theorem Hears.dispatch (hh : Hears order t e i h said) (hc : t.Closes id givenUp e)
    (hd : t.Distinct) (j : Nat) :
    Hears order t e i (h.dispatch (react order) j) (said ++ h.reactions (react order) j) := by
  cases ht : h.bus.take? j with
  | none => simpa [dispatch_of_none ht, reactions, ht] using hh
  | some r =>
    obtain ⟨listener, e', b⟩ := r
    have hqueue := queue_dispatch (react order) ht
    have htracker : (h.dispatch (react order) j).world.tracker =
        (react order listener e' h.world h.metrics).world.tracker := by
      rw [dispatch_of_take ht, world_invoke]
    have hreactions : h.reactions (react order) j =
        (react order listener e' h.world h.metrics).offers := by
      simp only [reactions, ht]
    have htaken : e' = e ∨ e'.kind = .orderCanceled := by
      refine hh.others j e' ?_
      rw [Bus.queue_take? ht]
      exact List.mem_cons_self
    refine ⟨?_, ?_, ?_⟩
    · rw [dispatch_of_take ht, bus_invoke]
      exact (hh.seat.take? ht).postAll _
    · intro k e'' he''
      obtain ⟨new, hnew, hmem⟩ := hqueue k
      rw [hnew] at he''
      rcases List.mem_append.mp he'' with hold | hoffered
      · exact hh.others k e'' (Bus.mem_queue_of_take? ht hold)
      · exact .inr (Listener.kind_of_offered (hmem e'' hoffered))
    · rw [htracker, hreactions]
      by_cases hheard : listener = .tracker ∧ e' = e
      · -- The tracker is handed the event, for the first time or again.
        obtain ⟨rfl, rfl⟩ := hheard
        right
        rcases hh.progress with ⟨hworld, rfl, -⟩ | ⟨m, hworld, rfl⟩
        · exact ⟨h.metrics, by rw [← hworld]; rfl, by rw [← hworld]; rfl⟩
        · obtain ⟨hsame, hsilent⟩ := Tracker.handle_again hc hd hworld h.metrics
          refine ⟨m, hworld ▸ hsame, ?_⟩
          change _ ++ (h.world.tracker.handle order e' h.metrics).offers = _
          rw [hsilent, List.append_nil]
      · have hidle : listener = .tracker → e'.kind = .orderCanceled := fun hl =>
          htaken.resolve_left fun he => hheard ⟨hl, he⟩
        obtain ⟨hsame, hsilent⟩ := Listener.react_of_idle order hidle h.world h.metrics
        rw [hsame, hsilent, List.append_nil]
        refine hh.progress.imp_left fun ⟨hworld, hsaid, hwaits⟩ => ⟨hworld, hsaid, ?_⟩
        obtain ⟨new, hnew, -⟩ := hqueue i
        rw [hnew]
        refine List.mem_append_left _ ?_
        by_cases hji : j = i
        · subst hji
          rw [Bus.queue_take? ht] at hwaits
          exact (List.mem_cons.mp hwaits).resolve_left fun he =>
            hheard ⟨handler_of_seated hh.seat ht, he.symm⟩
        · rwa [Bus.queue_take?_ne ht hji]

theorem Hears.dispatches (hh : Hears order t e i h said) (hc : t.Closes id givenUp e)
    (hd : t.Distinct) (steps : List Nat) :
    Hears order t e i (h.dispatches (react order) steps)
      (said ++ h.allReactions (react order) steps) := by
  induction steps generalizing h said with
  | nil => simpa [allReactions] using hh
  | cons j steps ih =>
    have hrest := ih (hh.dispatch hc hd j)
    rwa [List.append_assoc] at hrest

/-- A bus that was idle, and is idle again after a report of the end of an order, has closed its
entry. -/
theorem closed_of_drained (hidle : h.bus.pending = 0) (hs : h.bus.Seated i .tracker e.kind)
    (hc : h.world.tracker.Closes id givenUp e) (hd : h.world.tracker.Distinct) {steps : List Nat}
    (hdrained : ((h.post e).1.dispatches (react order) steps).bus.pending = 0) :
    ∃ r, Tracker.Closed h.world.tracker id givenUp r ∧
      ((h.post e).1.dispatches (react order) steps).world.tracker = r.world ∧
      (h.post e).1.allReactions (react order) steps = r.offers := by
  have hheard := (hears_post order hidle hs).dispatches hc hd steps
  rcases hheard.progress with ⟨-, -, hwaits⟩ | ⟨m, hworld, hsaid⟩
  · rw [Bus.queue_eq_nil_of_pending hdrained] at hwaits
    cases hwaits
  · exact ⟨_, Tracker.closed_handle hc order m, hworld, hsaid⟩

end Hub

end VenueGateway
