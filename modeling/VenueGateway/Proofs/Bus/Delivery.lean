import Mathlib.Data.List.Induction
import VenueGateway.Bus.Hub
import VenueGateway.Proofs.Bus.Posting

/-!
What dispatchers hand out in a run of publications and dispatches. An event that waits in a queue is
handed out in the run or waits still at its end, and one that waits at the end was put into the
queue by a publication of the run, which its place in the queue tells apart from all others.
-/

namespace VenueGateway

/-- An event that the dispatcher of a subscription took and gave to its handler. -/
structure Delivery (H : Type) where
  place : Nat
  handler : H
  event : Event
  deriving DecidableEq, Repr

namespace Hub

variable {H W : Type} {react : Reactor H W}

/-- Whether an action is a publication that does not wait, or a dispatcher at work. -/
def Action.isRoutine : Action H → Bool
  | .post _ => true
  | .dispatch _ => true
  | _ => false

def taken? (h : Hub H W) : Action H → Option (Delivery H)
  | .dispatch i => (h.bus.take? i).map fun r => ⟨i, r.1, r.2.1⟩
  | _ => none

def deliveries (react : Reactor H W) (h : Hub H W) : List (Action H) → List (Delivery H)
  | [] => []
  | a :: as => (h.taken? a).toList ++ deliveries react (h.act react a).1 as

theorem taken?_dispatch_eq_some {h : Hub H W} {i : Nat} {d : Delivery H}
    (hd : h.taken? (.dispatch i) = some d) :
    ∃ b, h.bus.take? i = some (d.handler, d.event, b) := by
  obtain ⟨⟨handler, e, b⟩, ht, rfl⟩ := Option.map_eq_some_iff.mp hd
  exact ⟨b, ht⟩

theorem run_append (h : Hub H W) (as bs : List (Action H)) :
    (h.run react (as ++ bs)).1 = ((h.run react as).1.run react bs).1 := by
  induction as generalizing h with
  | nil => rfl
  | cons a as ih => exact ih (h.act react a).1

theorem deliveries_append (h : Hub H W) (as bs : List (Action H)) :
    h.deliveries react (as ++ bs) = h.deliveries react as ++
      (h.run react as).1.deliveries react bs := by
  induction as generalizing h with
  | nil => rfl
  | cons a as ih =>
    simp only [List.cons_append, deliveries, ih, List.append_assoc]
    rfl

theorem bus_foldl_post (h : Hub H W) (es : List Event) :
    (es.foldl (fun h e => (h.post e).1) h).bus = h.bus.postAll es := by
  induction es generalizing h with
  | nil => rfl
  | cons e es ih => exact ih (h.post e).1

theorem world_foldl_post (h : Hub H W) (es : List Event) :
    (es.foldl (fun h e => (h.post e).1) h).world = h.world := by
  induction es generalizing h with
  | nil => rfl
  | cons e es ih => exact ih (h.post e).1

theorem bus_invoke (h : Hub H W) (handler : H) (e : Event) :
    (h.invoke react handler e).bus = h.bus.postAll (react handler e h.world h.metrics).offers :=
  bus_foldl_post _ _

theorem world_invoke (h : Hub H W) (handler : H) (e : Event) :
    (h.invoke react handler e).world = (react handler e h.world h.metrics).world :=
  world_foldl_post _ _

/-- A publication counts what it dropped, and never counts back. -/
theorem count_dropped_post (h : Hub H W) (e : Event) (kind : EventKind) :
    (h.post e).1.metrics.count (.eventsDropped kind) =
      h.metrics.count (.eventsDropped kind) + if e.kind = kind then (h.bus.post e).2.2 else 0 := by
  simp only [post, Metrics.count_add, reduceCtorEq, ↓reduceIte, Counter.eventsDropped.injEq]
  split
  · next hk => rw [hk]
  · rfl

theorem dispatch_of_take {h : Hub H W} {i : Nat} {handler : H} {e : Event} {b : Bus H}
    (ht : h.bus.take? i = some (handler, e, b)) :
    h.dispatch react i = ({ h with bus := b } : Hub H W).invoke react handler e := by
  simp [dispatch, ht]

theorem dispatch_of_none {h : Hub H W} {i : Nat} (ht : h.bus.take? i = none) :
    h.dispatch react i = h := by
  simp [dispatch, ht]

end Hub

namespace Bus

variable {H : Type}

theorem Seated.postAll {b : Bus H} {i : Nat} {handler : H} {kind : EventKind}
    (h : b.Seated i handler kind) (es : List Event) : (b.postAll es).Seated i handler kind := by
  induction es generalizing b with
  | nil => exact h
  | cons e es ih => exact ih (h.post e)

/-- Publications put events behind what waits, and only such events. -/
theorem queue_postAll (b : Bus H) (i : Nat) (es : List Event) :
    ∃ new, (b.postAll es).queue i = b.queue i ++ new ∧ ∀ e ∈ new, e ∈ es := by
  induction es generalizing b with
  | nil => exact ⟨[], by simp⟩
  | cons e es ih =>
    obtain ⟨new, hnew, hmem⟩ := ih (b.post e).1
    by_cases ha : b.admits i e
    · refine ⟨e :: new, by simp [hnew, queue_post_of_admits ha], ?_⟩
      intro e' he'
      rcases List.mem_cons.mp he' with rfl | he'
      · exact List.mem_cons_self
      · exact List.mem_cons_of_mem _ (hmem e' he')
    · refine ⟨new, by simp [hnew, queue_post_of_not_admits ha], ?_⟩
      exact fun e' he' => List.mem_cons_of_mem _ (hmem e' he')

end Bus

namespace Hub

variable {H W : Type} {react : Reactor H W}

/-- The dispatcher that works takes the head of its queue; every queue may get new events behind its
others. -/
theorem queue_dispatch (react : Reactor H W) {h : Hub H W} {i : Nat} {handler : H} {e : Event}
    {b : Bus H} (ht : h.bus.take? i = some (handler, e, b)) (j : Nat) :
    ∃ new, (h.dispatch react i).bus.queue j = b.queue j ++ new ∧
      ∀ e' ∈ new, e' ∈ (react handler e h.world h.metrics).offers := by
  rw [dispatch_of_take ht, bus_invoke]
  exact b.queue_postAll j _

/-- Routine takes nobody's seat. -/
theorem seated_act {h : Hub H W} {a : Action H} (ha : a.isRoutine = true) {i : Nat} {handler : H}
    {kind : EventKind} (hs : h.bus.Seated i handler kind) :
    (h.act react a).1.bus.Seated i handler kind := by
  cases a with
  | post e => exact hs.post e
  | dispatch j =>
    change (h.dispatch react j).bus.Seated i handler kind
    cases ht : h.bus.take? j with
    | none => rwa [dispatch_of_none ht]
    | some r =>
      obtain ⟨other, e, b⟩ := r
      rw [dispatch_of_take ht, bus_invoke]
      exact (hs.take? ht).postAll _
  | _ => cases ha

theorem seated_run {h : Hub H W} {as : List (Action H)} (ha : ∀ a ∈ as, a.isRoutine = true)
    {i : Nat} {handler : H} {kind : EventKind} (hs : h.bus.Seated i handler kind) :
    (h.run react as).1.bus.Seated i handler kind := by
  induction as generalizing h with
  | nil => exact hs
  | cons a as ih =>
    exact ih (fun a' ha' => ha a' (List.mem_cons_of_mem _ ha'))
      (seated_act (ha a List.mem_cons_self) hs)

theorem handler_of_seated {h : Hub H W} {i : Nat} {handler other : H} {kind : EventKind} {e : Event}
    {b : Bus H} (hs : h.bus.Seated i handler kind) (ht : h.bus.take? i = some (other, e, b)) :
    other = handler := by
  obtain ⟨s, hs, rfl, -⟩ := hs
  obtain ⟨s', _, hs', rfl, -⟩ := Bus.take?_eq_some ht
  rw [hs] at hs'
  rw [Option.some.inj hs']

/-- One action hands an event out that waits in a queue, or leaves it waiting there. -/
theorem taken_or_waiting (react : Reactor H W) {h : Hub H W} {a : Action H}
    (ha : a.isRoutine = true) {i : Nat} {handler : H} {kind : EventKind} {e : Event}
    (hs : h.bus.Seated i handler kind) (he : e ∈ h.bus.queue i) :
    h.taken? a = some ⟨i, handler, e⟩ ∨ e ∈ (h.act react a).1.bus.queue i := by
  cases a with
  | post e' =>
    right
    change e ∈ (h.bus.post e').1.queue i
    obtain ⟨new, hnew, -⟩ := h.bus.queue_postAll i [e']
    rw [Bus.postAll_cons, Bus.postAll_nil] at hnew
    rw [hnew]
    exact List.mem_append_left _ he
  | dispatch j =>
    change _ ∨ e ∈ (h.dispatch react j).bus.queue i
    cases ht : h.bus.take? j with
    | none =>
      rw [dispatch_of_none ht]
      exact .inr he
    | some r =>
      obtain ⟨other, e', b⟩ := r
      obtain ⟨new, hnew, -⟩ := queue_dispatch react ht i
      rw [hnew]
      by_cases hij : j = i
      · subst hij
        rw [Bus.queue_take? ht] at he
        rcases List.mem_cons.mp he with rfl | he
        · left
          simp [taken?, ht, handler_of_seated hs ht]
        · exact .inr (List.mem_append_left _ he)
      · rw [Bus.queue_take?_ne ht hij]
        exact .inr (List.mem_append_left _ he)
  | _ => cases ha

/-- An event that waits in a queue is handed out in a run, or waits still at its end. -/
theorem delivered_or_waiting (react : Reactor H W) {h : Hub H W} {as : List (Action H)}
    (ha : ∀ a ∈ as, a.isRoutine = true) {i : Nat} {handler : H} {kind : EventKind} {e : Event}
    (hs : h.bus.Seated i handler kind) (he : e ∈ h.bus.queue i) :
    ⟨i, handler, e⟩ ∈ h.deliveries react as ∨ e ∈ (h.run react as).1.bus.queue i := by
  induction as generalizing h with
  | nil => exact .inr he
  | cons a as ih =>
    have ha₀ := ha a List.mem_cons_self
    rw [deliveries]
    rcases taken_or_waiting react ha₀ hs he with htaken | hwaiting
    · left
      simp [htaken]
    · rcases ih (fun a' ha' => ha a' (List.mem_cons_of_mem _ ha'))
        (seated_act ha₀ hs) hwaiting with hd | hw
      · exact .inl (List.mem_append_right _ hd)
      · exact .inr hw

/-- How many events the dispatcher of a subscription takes at an action. -/
def taken (h : Hub H W) (i : Nat) (a : Action H) : Nat :=
  (h.taken? a).toList.countP fun d => d.place = i

def takenFrom (react : Reactor H W) (h : Hub H W) (i : Nat) (as : List (Action H)) : Nat :=
  (h.deliveries react as).countP fun d => d.place = i

theorem takenFrom_append (h : Hub H W) (i : Nat) (as : List (Action H)) (a : Action H) :
    h.takenFrom react i (as ++ [a]) = h.takenFrom react i as + (h.run react as).1.taken i a := by
  simp [takenFrom, taken, deliveries_append, deliveries]

/-- An event that waits in a queue after an action was just published, or waited before, behind what
was taken. Handlers do not offer events of its kind. -/
theorem published_or_waited {h : Hub H W} {a : Action H} (ha : a.isRoutine = true) {i : Nat}
    {kind : EventKind}
    (hoffers : ∀ handler e w m, ∀ e' ∈ (react handler e w m).offers, e'.kind ≠ kind) {p : Nat}
    {e : Event} (he : ((h.act react a).1.bus.queue i)[p]? = some e) (hk : e.kind = kind) :
    (a = .post e ∧ h.bus.admits i e ∧ p = (h.bus.queue i).length) ∨
      (h.bus.queue i)[h.taken i a + p]? = some e := by
  cases a with
  | post e' =>
    change ((h.bus.post e').1.queue i)[p]? = some e at he
    have hnone : h.taken i (.post e') = 0 := rfl
    rw [hnone, Nat.zero_add]
    by_cases hadmits : h.bus.admits i e'
    · rw [Bus.queue_post_of_admits hadmits] at he
      rcases Nat.lt_trichotomy p (h.bus.queue i).length with hlt | heq | hgt
      · exact .inr (by rwa [List.getElem?_append_left hlt] at he)
      · subst heq
        obtain rfl : e' = e := by simpa using he
        exact .inl ⟨rfl, hadmits, rfl⟩
      · have hlen : (h.bus.queue i ++ [e']).length ≤ p := by simpa using Nat.succ_le_of_lt hgt
        rw [List.getElem?_eq_none hlen] at he
        cases he
    · exact .inr (by rwa [Bus.queue_post_of_not_admits hadmits] at he)
  | dispatch j =>
    right
    change ((h.dispatch react j).bus.queue i)[p]? = some e at he
    cases ht : h.bus.take? j with
    | none =>
      rw [dispatch_of_none ht] at he
      simpa [taken, taken?, ht] using he
    | some r =>
      obtain ⟨handler, e', b⟩ := r
      obtain ⟨new, hnew, hmem⟩ := queue_dispatch react ht i
      have hold : (b.queue i)[p]? = some e := by
        rw [hnew] at he
        rcases Nat.lt_or_ge p (b.queue i).length with hlt | hge
        · rwa [List.getElem?_append_left hlt] at he
        · rw [List.getElem?_append_right hge] at he
          exact absurd hk (hoffers _ _ _ _ e (hmem e (List.mem_of_getElem? he)))
      by_cases hij : j = i
      · subst hij
        have htaken : h.taken j (.dispatch j) = 1 := by simp [taken, taken?, ht]
        rw [htaken, Bus.queue_take? ht, Nat.add_comm]
        exact hold
      · rw [Bus.queue_take?_ne ht hij] at hold
        simpa [taken, taken?, ht, hij] using hold
  | _ => cases ha

/-- The event at a position of a queue after a run was put there by a publication of the run: what
was taken from the queue and what stands in front of the event is all that was taken or waiting when
it was published. -/
structure PostedAt (react : Reactor H W) (h : Hub H W) (i : Nat) (as : List (Action H)) (p : Nat)
    (e : Event) (before rest : List (Action H)) : Prop where
  split : as = before ++ .post e :: rest
  admitted : (h.run react before).1.bus.admits i e
  position : h.takenFrom react i before + ((h.run react before).1.bus.queue i).length =
    h.takenFrom react i as + p

/-- What waits in a queue after a run that began with the queue empty was published in the run. -/
theorem exists_postedAt {h : Hub H W} {as : List (Action H)} (ha : ∀ a ∈ as, a.isRoutine = true)
    {i : Nat} (hempty : h.bus.queue i = []) {kind : EventKind}
    (hoffers : ∀ handler e w m, ∀ e' ∈ (react handler e w m).offers, e'.kind ≠ kind) {p : Nat}
    {e : Event} (he : ((h.run react as).1.bus.queue i)[p]? = some e) (hk : e.kind = kind) :
    ∃ before rest, PostedAt react h i as p e before rest := by
  -- By the last action, since the place in the queue is the one at the end of the run.
  induction as using List.reverseRecOn generalizing p with
  | nil =>
    change (h.bus.queue i)[p]? = some e at he
    simp [hempty] at he
  | append_singleton as a ih =>
    rw [run_append] at he
    have hroutine : a.isRoutine = true := ha a (List.mem_append_right _ List.mem_cons_self)
    rcases published_or_waited hroutine hoffers he hk with ⟨rfl, hadmits, rfl⟩ | hold
    · refine ⟨as, [], rfl, hadmits, ?_⟩
      rw [takenFrom_append]
      rfl
    · obtain ⟨before, rest, hp⟩ := ih (fun a' ha' => ha a' (List.mem_append_left _ ha')) hold
      refine ⟨before, rest ++ [a], by simp [hp.split], hp.admitted, ?_⟩
      rw [hp.position, takenFrom_append, Nat.add_assoc]

/-- How a publication, which turned one hub into another, ends for a handler that listens: with room
in its queue the event is handed to it in the run that follows, and without room its queue does not
get the event and the drop is counted. -/
structure Relays (react : Reactor H W) (h h' : Hub H W) (i : Nat) (handler : H) (e : Event)
    (as : List (Action H)) : Prop where
  delivered : (h.bus.queue i).length < h.bus.capacity → ⟨i, handler, e⟩ ∈ h'.deliveries react as
  lost : ¬ (h.bus.queue i).length < h.bus.capacity → h'.bus.queue i = h.bus.queue i
  counted : ¬ (h.bus.queue i).length < h.bus.capacity →
    h.metrics.count (.eventsDropped e.kind) < h'.metrics.count (.eventsDropped e.kind)

/-- A publication ends in one of the two ways, once the queue is empty again. -/
theorem relays_post {h : Hub H W} {e : Event} {i : Nat} {handler : H}
    (hs : h.bus.Seated i handler e.kind) {as : List (Action H)} (ha : ∀ a ∈ as, a.isRoutine = true)
    (hempty : ((h.post e).1.run react as).1.bus.queue i = []) :
    Relays react h (h.post e).1 i handler e as where
  delivered := by
    intro hroom
    have hwaits : e ∈ (h.post e).1.bus.queue i := by
      change e ∈ (h.bus.post e).1.queue i
      rw [Bus.queue_post_of_admits (hs.admits_iff.mpr hroom)]
      exact List.mem_append_right _ List.mem_cons_self
    rcases delivered_or_waiting react ha (hs.post e) hwaits with hd | hw
    · exact hd
    · rw [hempty] at hw
      cases hw
  lost hfull := Bus.queue_post_of_not_admits fun ha => hfull (hs.admits_iff.mp ha)
  counted := by
    intro hfull
    have hdropped := hs.dropped_pos hfull
    rw [count_dropped_post, if_pos rfl]
    omega

end Hub

end VenueGateway
