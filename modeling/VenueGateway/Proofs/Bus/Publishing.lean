import VenueGateway.Proofs.Bus.Draining
import VenueGateway.Proofs.Bus.Ledger
import VenueGateway.Proofs.Bus.Totals

/-!
A publication that waits for room, from its beginning to its end. Where handlers answer an event
with one other at most, and that other with none, dispatchers that run make room wherever it is
missing, so whoever publishes gets through. What happens meanwhile is a run of steps like any other,
of dispatchers and of the publication itself, the last of which tells the caller that everybody was
reached.
-/

namespace VenueGateway

namespace Broadcast

/-- A publication that has served everybody, and reached some of them. -/
def done (b : Broadcast) (reached : Nat) : Broadcast :=
  { b with targets := [], reached := b.reached + reached }

end Broadcast

namespace Hub

variable {H W : Type} {react : Reactor H W} {last : EventKind}

/-- A hub with other publications under way. -/
def besides (h : Hub H W) (bs : List Broadcast) : Hub H W := { h with broadcasts := bs }

theorem foldl_post_besides (h : Hub H W) (bs : List Broadcast) (es : List Event) :
    es.foldl (fun h e => (h.post e).1) (h.besides bs) =
      (es.foldl (fun h e => (h.post e).1) h).besides bs := by
  induction es generalizing h with
  | nil => rfl
  | cons e es ih => exact ih (h.post e).1

theorem invoke_besides (h : Hub H W) (bs : List Broadcast) (handler : H) (e : Event) :
    (h.besides bs).invoke react handler e = (h.invoke react handler e).besides bs := by
  let r := react handler e h.world h.metrics
  exact foldl_post_besides { h with world := r.world, metrics := r.metrics } bs r.offers

theorem dispatch_besides (h : Hub H W) (bs : List Broadcast) (i : Nat) :
    (h.besides bs).dispatch react i = (h.dispatch react i).besides bs := by
  cases ht : h.bus.take? i with
  | none => rw [dispatch_of_none ht, dispatch_of_none (h := h.besides bs) ht]
  | some r =>
    rw [dispatch_of_take ht, dispatch_of_take (h := h.besides bs) ht, ← invoke_besides]
    rfl

theorem act_besides (h : Hub H W) (bs : List Broadcast) {a : Action H}
    (ha : a.isDispatching = true) :
    ((h.besides bs).act react a).1 = (h.act react a).1.besides bs := by
  cases a with
  | dispatch i => exact h.dispatch_besides bs i
  | halt i => rfl
  | _ => cases ha

/-- What dispatchers leave as it is. -/
theorem act_kept (react : Reactor H W) (h : Hub H W) {a : Action H} (ha : a.isDispatching = true) :
    (h.act react a).1.bus.subscriptions.length = h.bus.subscriptions.length ∧
      (h.act react a).1.broadcasts = h.broadcasts := by
  cases a with
  | dispatch i =>
    change (h.dispatch react i).bus.subscriptions.length = _ ∧ (h.dispatch react i).broadcasts = _
    cases ht : h.bus.take? i with
    | none =>
      rw [dispatch_of_none ht]
      exact ⟨rfl, rfl⟩
    | some r =>
      rw [dispatch_of_take ht, bus_invoke, broadcasts_invoke, Bus.length_subscriptions_postAll]
      exact ⟨Bus.length_subscriptions_take? ht, rfl⟩
  | halt i => exact ⟨h.bus.length_subscriptions_halt i, rfl⟩
  | _ => cases ha

theorem Busy.isDispatching {h : Hub H W} {a : Action H} (hb : h.Busy a) :
    a.isDispatching = true := by
  cases a with
  | dispatch i => rfl
  | halt i => rfl
  | _ => exact hb.elim

/-- A hub when an event was put into the queue of a subscription. -/
def given (h : Hub H W) (i : Nat) (s : Subscription H) (e : Event) : Hub H W :=
  let subscriptions := h.bus.subscriptions.set i { s with queue := s.queue ++ [e] }
  { h with bus := { h.bus with subscriptions } }

end Hub

namespace Bus

variable {H : Type}

/-- Those to whom an event of a kind goes, each of them once and in the order in which they
subscribed. -/
structure Addressees (b : Bus H) (kind : EventKind) (is : List Nat) : Prop where
  sorted : is.Pairwise (· < ·)
  mem_iff : ∀ i, i ∈ is ↔ ∃ s, b.subscriptions[i]? = some s ∧ s.subscribed = true ∧ s.kind = kind

theorem addressees_recipients (b : Bus H) (kind : EventKind) :
    b.Addressees kind (b.recipients kind) where
  sorted := List.pairwise_lt_range.filter _
  mem_iff i := by simp [mem_recipients, Subscription.wants]

end Bus

namespace Hub

variable {H W : Type} {react : Reactor H W} {last : EventKind}

/-- How an event reaches subscriptions one after another, and how many it reaches. Each gets it
once, behind all that waits in its queue, as soon as there is room; one whose dispatcher has stopped
is passed over, and dispatchers may work at any time. -/
inductive Serves (react : Reactor H W) (e : Event) : List Nat → Hub H W → Hub H W → Nat → Prop
  | everybody {h : Hub H W} : Serves react e [] h h 0
  | given {i n : Nat} {is : List Nat} {h h' : Hub H W} {s : Subscription H}
      (hs : h.bus.subscriptions[i]? = some s)
      (hd : s.dispatching = true) (hroom : s.queue.length < h.bus.capacity)
      (hrest : Serves react e is (h.given i s e) h' n) : Serves react e (i :: is) h h' (n + 1)
  | passed {i n : Nat} {is : List Nat} {h h' : Hub H W} {s : Subscription H}
      (hs : h.bus.subscriptions[i]? = some s)
      (hd : s.dispatching = false) (hrest : Serves react e is h h' n) :
        Serves react e (i :: is) h h' n
  | worked {i n : Nat} {is : List Nat} {h h' : Hub H W} {a : Action H} (ha : a.isDispatching = true)
      (hrest : Serves react e (i :: is) (h.act react a).1 h' n) : Serves react e (i :: is) h h' n

section Serving

variable {h h' : Hub H W} {b : Broadcast} {e : Event} {i n : Nat} {is : List Nat}
  {s : Subscription H}

theorem serve_given (hs : h.bus.subscriptions[i]? = some s) (hd : s.dispatching = true)
    (hroom : s.queue.length < h.bus.capacity) (ht : b.targets = i :: is) :
    h.serve b = (h.given i s b.event, { b with targets := is, reached := b.reached + 1 }) := by
  simp [serve, ht, Bus.offer, hs, Subscription.offer, hd, hroom, given]

theorem serve_passed (hs : h.bus.subscriptions[i]? = some s) (hd : s.dispatching = false)
    (ht : b.targets = i :: is) :
    h.serve b = (h, { b with targets := is }) := by
  simp [serve, ht, Bus.offer, hs, Subscription.offer, hd]

theorem given_eq_offer (hs : h.bus.subscriptions[i]? = some s) (hd : s.dispatching = true)
    (hroom : s.queue.length < h.bus.capacity) : (h.given i s e).bus = (h.bus.offer i e).1 := by
  simp [Bus.offer, hs, Subscription.offer, hd, hroom, given]

/-- An event that is put into a queue stands for itself and for one answer at most. -/
theorem effort_given_le (answers : H → Event → Bool) (last : EventKind)
    (hs : h.bus.subscriptions[i]? = some s) (e : Event) :
    (h.given i s e).bus.effort answers last ≤ h.bus.effort answers last + 1 +
      h.bus.subscriptions.length := by
  have hpending := Bus.total_set (fun s => s.queue.length) hs { s with queue := s.queue ++ [e] }
  have hanswerable := Bus.total_set (fun s => s.queue.countP (answers s.handler)) hs
    { s with queue := s.queue ++ [e] }
  have haudience : (h.given i s e).bus.audience last = h.bus.audience last :=
    Bus.audience_set hs { s with queue := s.queue ++ [e] } rfl rfl last
  have hbound : h.bus.audience last ≤ h.bus.subscriptions.length := List.countP_le_length
  change (h.given i s e).bus.total _ + _ = _ at hpending
  change (h.given i s e).bus.answerable answers + _ = h.bus.answerable answers + _ at hanswerable
  rw [← Bus.pending_eq_total, ← Bus.pending_eq_total, List.length_append,
    List.length_singleton] at hpending
  simp only [List.countP_append, List.countP_singleton] at hanswerable
  have hone : (h.given i s e).bus.answerable answers ≤ h.bus.answerable answers + 1 := by
    split at hanswerable <;> omega
  have hproduct := Nat.mul_le_mul_right (h.bus.audience last) hone
  rw [Nat.add_mul, Nat.one_mul] at hproduct
  rw [Bus.effort, Bus.effort, haudience]
  omega

/-- A publication that waits is served, whoever goes first: every turn of a dispatcher leaves fewer
deliveries that can still follow, and every subscription that gets the event is one less to
serve. -/
theorem serveAll_serves {answers : H → Event → Bool} {last : EventKind}
    (ha : react.Answers answers last) (turns : Turns) (working : Bool) (fuel : Nat)
    (ht : b.targets = is) (hk : ∀ i ∈ is, i < h.bus.subscriptions.length)
    (hf : h.bus.effort answers last + is.length * (2 + h.bus.subscriptions.length) ≤ fuel) :
    ∃ n, Serves react b.event is h (h.serveAll turns react working b fuel).1 n ∧
      (h.serveAll turns react working b fuel).2 = b.done n := by
  induction fuel generalizing h b is working with
  | zero =>
    obtain rfl : is = [] := by
      cases is with
      | nil => rfl
      | cons i is =>
        rw [List.length_cons, Nat.succ_mul] at hf
        omega
    refine ⟨0, .everybody, ?_⟩
    simp [serveAll, Broadcast.done, ← ht]
  | succ fuel ih =>
    rw [serveAll]
    cases is with
    | nil =>
      rw [if_pos ht]
      refine ⟨0, .everybody, ?_⟩
      simp [Broadcast.done, ← ht]
    | cons i is =>
      rw [if_neg (by simp [ht])]
      obtain ⟨s, hs⟩ : ∃ s, h.bus.subscriptions[i]? = some s :=
        ⟨_, List.getElem?_eq_getElem (hk i List.mem_cons_self)⟩
      rw [List.length_cons, Nat.succ_mul] at hf
      split
      · -- A dispatcher has the turn.
        next a hturn =>
        obtain ⟨-, hnext⟩ := Option.ite_none_right_eq_some.mp hturn
        have hbusy := busy_of_next? hnext
        have hless := effort_busy ha hbusy
        obtain ⟨hlength, -⟩ := h.act_kept react hbusy.isDispatching
        rw [← hlength] at hk hf
        obtain ⟨n, hserves, hdone⟩ := ih true (h := (h.act react a).1) ht hk
          (by rw [List.length_cons, Nat.succ_mul]; omega)
        exact ⟨n, .worked hbusy.isDispatching hserves, hdone⟩
      · -- Nobody has, so the queue that the publication waits for has room, or is closed.
        next hturn =>
        have hrest := fun j hj => hk j (List.mem_cons_of_mem i hj)
        cases hd : s.dispatching with
        | false =>
          rw [serve_passed hs hd ht]
          obtain ⟨n, hserves, hdone⟩ :=
            ih false (b := { b with targets := is }) (show _ = is from rfl) hrest (by omega)
          exact ⟨n, .passed hs hd hserves, hdone⟩
        | true =>
          have hroom : s.queue.length < h.bus.capacity := by
            by_contra hfull
            have hblocked : (h.serve b).2 = b := by
              simp [serve, ht, Bus.offer, hs, Subscription.offer, hd, hfull]
            rw [if_pos (.inr hblocked)] at hturn
            have hempty := quiet_of_next? hturn s (List.mem_of_getElem? hs) hd
            rw [hempty] at hfull
            exact hfull h.bus.capacity_pos
          have hlength : (h.given i s b.event).bus.subscriptions.length =
            h.bus.subscriptions.length := List.length_set
          have hmore := effort_given_le answers last hs b.event
          rw [serve_given hs hd hroom ht]
          obtain ⟨n, hserves, hdone⟩ := ih false (h := h.given i s b.event)
            (b := { b with targets := is, reached := b.reached + 1 }) (show _ = is from rfl)
            (by rwa [hlength]) (by rw [hlength]; omega)
          refine ⟨n + 1, .given hs hd hroom hserves, hdone.trans ?_⟩
          simp [Broadcast.done, Nat.add_assoc, Nat.add_comm 1]

/-- So a publication serves all who are subscribed when it begins, and counts those that it
reached. -/
theorem publish_serves {answers : H → Event → Bool} {last : EventKind}
    (ha : react.Answers answers last) (turns : Turns) (h : Hub H W) (e : Event) :
    ∃ h', Serves react e (h.bus.recipients e.kind) h h' (h.publish turns react e).2 ∧
      (h.publish turns react e).1 =
        { h' with
          metrics := h'.metrics.add (.eventsPublished e.kind) (h.publish turns react e).2 } := by
  have hk : ∀ i ∈ (h.broadcastOf e).targets, i < h.bus.subscriptions.length := by
    intro i hi
    obtain ⟨s, hi, -⟩ := Bus.mem_recipients.mp hi
    exact (List.getElem?_eq_some_iff.mp hi).1
  obtain ⟨n, hserves, hdone⟩ :=
    serveAll_serves ha turns false (h.serveBound (h.broadcastOf e)) rfl hk
    (Nat.add_le_add_right (h.bus.effort_le answers last) _)
  have hreached : (h.publish turns react e).2 = n := by
    change (Prod.snd (h.serveAll turns react false (h.broadcastOf e) _)).reached = n
    rw [hdone]
    exact Nat.zero_add n
  refine ⟨_, hreached.symm ▸ hserves, ?_⟩
  rw [hreached]
  change ((h.serveAll turns react false (h.broadcastOf e) _).1.complete
    (Prod.snd (h.serveAll turns react false _ _))).1 = _
  rw [hdone]
  simp [complete, Broadcast.done, broadcastOf]

theorem Serves.broadcasts (hv : Serves react e is h h' n) : h'.broadcasts = h.broadcasts := by
  induction hv with
  | everybody => rfl
  | given _ _ _ _ ih => exact ih
  | passed _ _ _ ih => exact ih
  | worked ha _ ih => exact ih.trans (act_kept react _ ha).2

/-- In service everybody is reached. -/
theorem Serves.reached (hv : Serves react e is h h' n) (hs : h.bus.InService) : n = is.length := by
  induction hv with
  | everybody => rfl
  | given hi hd hroom _ ih =>
    have hgiven := given_eq_offer (e := e) hi hd hroom
    rw [ih (hgiven ▸ hs.offer _ e), List.length_cons]
  | passed hi hd => cases hd.symm.trans (hs.dispatching _ (List.mem_of_getElem? hi))
  | @worked i n is h h' a ha _ ih =>
    cases a with
    | dispatch j => exact ih (inService_dispatch hs j)
    | halt j => exact ih (show (h.bus.halt j).InService by rwa [hs.halt_eq])
    | _ => cases ha

/-- Whether an action is a step of one publication under way, or of a dispatcher. -/
def Action.isServing (n : Nat) : Action H → Bool
  | .serve m => m = n
  | .dispatch _ => true
  | _ => false

/-- In service, how an event reaches subscriptions is a run of the hub in which its publication is
under way. -/
theorem Serves.exists_run (hv : Serves react e is h h' n) (hs : h.bus.InService)
    (bs : List Broadcast) (he : b.event = e) (ht : b.targets = is) :
    ∃ steps, (∀ a ∈ steps, a.isServing bs.length = true) ∧
      ((h.besides (bs ++ [b])).run react steps).1 = h'.besides (bs ++ [b.done n]) := by
  induction hv generalizing b with
  | everybody => exact ⟨[], nofun, by simp [run, Broadcast.done, ← ht]⟩
  | @given i n is h h' s hi hd hroom _ ih =>
    have hgiven := given_eq_offer (e := e) hi hd hroom
    obtain ⟨steps, hsteps, hrun⟩ := ih (hgiven ▸ hs.offer i e)
      (b := { b with targets := is, reached := b.reached + 1 }) he rfl
    refine ⟨.serve bs.length :: steps, ?_, ?_⟩
    · rw [List.forall_mem_cons]
      exact ⟨by simp [Action.isServing], hsteps⟩
    · have hserve := serve_given (h := h.besides (bs ++ [b])) hi hd hroom ht
      have hnth : (h.besides (bs ++ [b])).broadcasts[bs.length]? = some b := by simp [besides]
      have hact : ((h.besides (bs ++ [b])).act react (.serve bs.length)).1 =
          (h.given i s e).besides (bs ++ [{ b with targets := is, reached := b.reached + 1 }]) := by
        simp only [act, serveNth, hnth, ht, reduceCtorEq, if_false, hserve, he]
        simp [besides, Hub.given]
      rw [run, hact, hrun]
      simp [Broadcast.done, Nat.add_assoc, Nat.add_comm 1]
  | passed hi hd => cases hd.symm.trans (hs.dispatching _ (List.mem_of_getElem? hi))
  | @worked i n is h h' a ha _ ih =>
    cases a with
    | dispatch j =>
      obtain ⟨steps, hsteps, hrun⟩ := ih (inService_dispatch hs j) he ht
      refine ⟨.dispatch j :: steps, ?_, ?_⟩
      · rw [List.forall_mem_cons]
        exact ⟨rfl, hsteps⟩
      · rw [run, act_besides h _ ha, hrun]
    | halt j =>
      have hsame : (h.act react (.halt j)).1 = h := by
        change { h with bus := h.bus.halt j } = h
        rw [hs.halt_eq]
      rw [hsame] at ih
      exact ih hs he ht
    | _ => cases ha

/-- A publication that has served everybody is told so, and is no longer among the others. -/
theorem serveNth_done (h : Hub H W) (ht : b.targets = []) :
    (h.besides (h.broadcasts ++ [b])).serveNth h.broadcasts.length =
      ((h.complete b).1, .reached (h.complete b).2) := by
  have hnth : (h.besides (h.broadcasts ++ [b])).broadcasts[h.broadcasts.length]? = some b := by
    simp [besides]
  have herase : (h.broadcasts ++ [b]).eraseIdx h.broadcasts.length = h.broadcasts := by
    rw [List.eraseIdx_append_of_length_le (Nat.le_refl _), Nat.sub_self]
    exact List.append_nil _
  simp only [serveNth, hnth, ht, if_true]
  simp only [besides, herase]

end Serving

/-- Whoever publishes reaches all who are subscribed then, however dispatchers take turns. What
happens until that is a run of steps, of dispatchers and of the publication, the last of which tells
the caller. -/
theorem publish_eq_run (hc : react.Calm last) (turns : Turns) {h : Hub H W} (hs : h.bus.InService)
    (e : Event) :
    (h.publish turns react e).2 = h.bus.audience e.kind ∧
      ∃ steps, (∀ a ∈ steps, a.isServing h.broadcasts.length = true) ∧
        (h.run react (.publish e :: steps)).1.act react (.serve h.broadcasts.length) =
          ((h.publish turns react e).1, .reached (h.publish turns react e).2) := by
  obtain ⟨h', hserves, hpublish⟩ := publish_serves hc.answers turns h e
  obtain ⟨steps, hsteps, hrun⟩ := hserves.exists_run hs h.broadcasts (b := h.broadcastOf e) rfl rfl
  have hothers := hserves.broadcasts
  refine ⟨(hserves.reached hs).trans (h.bus.length_recipients e.kind), steps, hsteps, ?_⟩
  change ((h.besides (h.broadcasts ++ [h.broadcastOf e])).run react steps).1.serveNth _ = _
  rw [hrun, ← hothers, serveNth_done _ rfl, hpublish]
  simp [complete, Broadcast.done, broadcastOf]

end Hub

end VenueGateway
