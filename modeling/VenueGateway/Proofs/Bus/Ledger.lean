import Mathlib.Data.List.Perm.Basic
import VenueGateway.Proofs.Bus.Delivery
import VenueGateway.Proofs.Bus.Share

/-!
What a run does for each subscription. Whoever publishes, in whichever of the three ways, and
whatever handlers do, the events that a subscription has handled and those that still wait for it
are those that its queue accepted, in that order; and an event that was offered to it was accepted
once, or missed it for want of room, or is still owed to it by a publication that waits.
-/

namespace VenueGateway

def Broadcast.owes (b : Broadcast) (i : Nat) : List Event :=
  List.replicate (b.targets.count i) b.event

namespace Hub

variable {H W : Type} {react : Reactor H W}

/-- The events that the dispatcher of a place has given to its handler in a run. -/
def handled (react : Reactor H W) (h : Hub H W) (i : Nat) (as : List (Action H)) : List Event :=
  ((h.deliveries react as).filter fun d => d.place = i).map (·.event)

def handledAt (h : Hub H W) (i : Nat) (a : Action H) : List Event :=
  ((h.taken? a).toList.filter fun d => d.place = i).map (·.event)

/-- The events that waiting publications have yet to put into the queue of a place. -/
def owed (h : Hub H W) (i : Nat) : List Event := h.broadcasts.flatMap (·.owes i)

def shareInvoke (react : Reactor H W) (h : Hub H W) (i : Nat) (handler : H) (e : Event) : Share :=
  h.bus.shareAll i (react handler e h.world h.metrics).offers

/-- What falls to a place while handlers run one after another. -/
def shareHandlers (react : Reactor H W) (h : Hub H W) (i : Nat) (e : Event) : List H → Share
  | [] => {}
  | handler :: handlers => h.shareInvoke react i handler e ++
    shareHandlers react (h.invoke react handler e) i e handlers

/-- What falls to a place at an action. A publication that may wait offers its event when it begins,
and the event is accepted when there is room. -/
def share (react : Reactor H W) (h : Hub H W) (i : Nat) : Action H → Share
  | .post e => h.bus.share i e
  | .announce e => h.shareHandlers react i e (h.bus.handlers e.kind)
  | .publish e => if h.bus.wantedAt i e.kind then { offered := [e] } else {}
  | .serve n =>
    match h.broadcasts[n]? with
    | some b => if b.targets.head? = some i ∧ (h.bus.queue i).length < h.bus.capacity
      then { accepted := [b.event] } else {}
    | none => {}
  | .dispatch j =>
    match h.bus.take? j with
    | some (handler, e, bus) => ({ h with bus } : Hub H W).shareInvoke react i handler e
    | none => {}
  | _ => {}

def shareOf (react : Reactor H W) (h : Hub H W) (i : Nat) : List (Action H) → Share
  | [] => {}
  | a :: as => h.share react i a ++ shareOf react (h.act react a).1 i as

/-- A hub whose bus is in service, and whose publications wait for subscriptions that there are. -/
structure InService (h : Hub H W) : Prop where
  bus : h.bus.InService
  known : ∀ b ∈ h.broadcasts, ∀ j ∈ b.targets, j < h.bus.subscriptions.length

/-- How one state leads to another as seen from one place: what was taken from the queue and what
waits there now is what waited and what was accepted; and what was offered or owed was accepted,
missed, or is owed now. -/
structure Leads (h h' : Hub H W) (i : Nat) (taken : List Event) (s : Share) : Prop where
  inService : h'.InService
  capacity : h'.bus.capacity = h.bus.capacity
  queue : taken ++ h'.bus.queue i = h.bus.queue i ++ s.accepted
  owed : (s.accepted ++ s.missed ++ h'.owed i).Perm (s.offered ++ h.owed i)

theorem InService.leads (h : Hub H W) (hs : h.InService) (i : Nat) : Leads h h i [] {} :=
  ⟨hs, rfl, by simp, .refl _⟩

/-- What leads on from one state to the next leads on over both. -/
theorem Leads.trans {h h' h'' : Hub H W} {i : Nat} {taken taken' : List Event} {s s' : Share}
    (hl : Leads h h' i taken s) (hl' : Leads h' h'' i taken' s') :
    Leads h h'' i (taken ++ taken') (s ++ s') where
  inService := hl'.inService
  capacity := hl'.capacity.trans hl.capacity
  queue := by
    rw [List.append_assoc, hl'.queue, ← List.append_assoc, hl.queue, List.append_assoc]
    rfl
  owed := by
    rw [List.perm_iff_count]
    intro e
    have he := hl.owed.count_eq e
    have he' := hl'.owed.count_eq e
    simp only [List.count_append, Share.accepted_append, Share.missed_append,
      Share.offered_append] at he he' ⊢
    omega

/-- An action that touches no more than counts and what handlers act on. -/
theorem Leads.congr {h h' h'' : Hub H W} {i : Nat} {taken : List Event} {s : Share}
    (hl : Leads h h' i taken s) (hb : h''.bus = h'.bus) (hw : h''.broadcasts = h'.broadcasts) :
    Leads h h'' i taken s where
  inService := ⟨hb ▸ hl.inService.bus, by rw [hb, hw]; exact hl.inService.known⟩
  capacity := by rw [hb, hl.capacity]
  queue := by rw [hb, hl.queue]
  owed := by
    have howed : h''.owed i = h'.owed i := by rw [Hub.owed, hw, Hub.owed]
    rw [howed]
    exact hl.owed

theorem broadcasts_foldl_post (h : Hub H W) (es : List Event) :
    (es.foldl (fun h e => (h.post e).1) h).broadcasts = h.broadcasts := by
  induction es generalizing h with
  | nil => rfl
  | cons e es ih => exact ih (h.post e).1

theorem broadcasts_invoke (h : Hub H W) (handler : H) (e : Event) :
    (h.invoke react handler e).broadcasts = h.broadcasts := broadcasts_foldl_post _ _

/-- Publications that do not wait, one after another. -/
theorem leads_postAll {h h' : Hub H W} (hs : h.InService) (i : Nat) (es : List Event)
    (hb : h'.bus = h.bus.postAll es) (hw : h'.broadcasts = h.broadcasts) :
    Leads h h' i [] (h.bus.shareAll i es) where
  inService := by
    refine ⟨hb ▸ hs.bus.postAll es, ?_⟩
    rw [hb, hw, Bus.length_subscriptions_postAll]
    exact hs.known
  capacity := by rw [hb, Bus.capacity_postAll]
  queue := by rw [hb, hs.bus.queue_postAll, List.nil_append]
  owed := by
    have howed : h'.owed i = h.owed i := by rw [Hub.owed, hw, Hub.owed]
    rw [howed]
    exact (h.bus.settled_shareAll i es).append_right _

theorem leads_invoke (react : Reactor H W) {h : Hub H W} (hs : h.InService) (i : Nat) (handler : H)
    (e : Event) :
    Leads h (h.invoke react handler e) i [] (h.shareInvoke react i handler e) :=
  leads_postAll hs i _ (h.bus_invoke handler e) (h.broadcasts_invoke handler e)

theorem leads_handlers (react : Reactor H W) {h : Hub H W} (hs : h.InService) (i : Nat) (e : Event)
    (handlers : List H) :
    Leads h (handlers.foldl (fun h handler => h.invoke react handler e) h) i []
      (h.shareHandlers react i e handlers) := by
  induction handlers generalizing h with
  | nil => exact hs.leads h i
  | cons handler handlers ih =>
    have hfirst := leads_invoke react hs i handler e
    exact hfirst.trans (ih hfirst.inService)

theorem leads_subscribe {h : Hub H W} (hs : h.InService) (i : Nat) (kind : EventKind)
    (handler : H) :
    Leads h { h with bus := (h.bus.subscribe kind handler).1 } i [] {} where
  inService := by
    refine ⟨hs.bus.subscribe kind handler, fun b hb j hj => ?_⟩
    have hlt := hs.known b hb j hj
    simpa [Bus.subscribe] using Nat.lt_succ_of_lt hlt
  capacity := rfl
  queue := by simp [Bus.queue_subscribe]
  owed := .refl _

theorem leads_unsubscribe {h : Hub H W} (hs : h.InService) (i j : Nat) :
    Leads h { h with bus := (h.bus.unsubscribe j).1 } i [] {} where
  inService := by
    refine ⟨hs.bus.unsubscribe j, ?_⟩
    rw [Bus.length_subscriptions_unsubscribe]
    exact hs.known
  capacity := by
    simp only [Bus.unsubscribe]
    split
    · split <;> rfl
    · rfl
  queue := by simp [Bus.queue_unsubscribe]
  owed := .refl _

/-- A publication that may wait owes its event to all who want it. -/
theorem leads_publish {h : Hub H W} (hs : h.InService) (i : Nat) (e : Event) :
    Leads h { h with broadcasts := h.broadcasts ++ [h.broadcastOf e] } i []
      (if h.bus.wantedAt i e.kind then { offered := [e] } else {}) where
  inService := by
    refine ⟨hs.bus, fun b hb j hj => ?_⟩
    rcases List.mem_append.mp hb with hold | hnew
    · exact hs.known b hold j hj
    · rw [List.mem_singleton.mp hnew, broadcastOf] at hj
      obtain ⟨s, hj, -⟩ := Bus.mem_recipients.mp hj
      exact (List.getElem?_eq_some_iff.mp hj).1
  capacity := rfl
  queue := by split <;> simp
  owed := by
    simp only [owed, Broadcast.owes, List.flatMap_append, broadcastOf, List.flatMap_singleton,
      Bus.count_recipients]
    split
    · simp
    · simp

/-- What is owed is what one publication owes and what the others do. -/
theorem owed_perm_of_getElem? {h : Hub H W} {n : Nat} {b : Broadcast}
    (hb : h.broadcasts[n]? = some b) (i : Nat) :
    (h.owed i).Perm (b.owes i ++ (h.broadcasts.eraseIdx n).flatMap (·.owes i)) := by
  obtain ⟨hlt, rfl⟩ := List.getElem?_eq_some_iff.mp hb
  exact ((List.getElem_cons_eraseIdx_perm hlt).flatMap_right _).symm

theorem owed_set_perm {h : Hub H W} {n : Nat} (hn : n < h.broadcasts.length) (b : Broadcast)
    (i : Nat) :
    ((h.broadcasts.set n b).flatMap (·.owes i)).Perm
      (b.owes i ++ (h.broadcasts.eraseIdx n).flatMap (·.owes i)) :=
  (List.set_perm_cons_eraseIdx hn b).flatMap_right _

theorem owes_cons {b : Broadcast} {j : Nat} {rest : List Nat} (ht : b.targets = j :: rest)
    (reached i : Nat) :
    b.owes i = (if j = i then [b.event] else []) ++
      ({ b with targets := rest, reached } : Broadcast).owes i := by
  simp only [Broadcast.owes, ht, List.count_cons, beq_iff_eq]
  split
  · rw [Nat.add_comm, List.replicate_add]
    rfl
  · rfl

/-- The subscription that a publication serves next is there. -/
theorem InService.next_known {h : Hub H W} (hs : h.InService) {b : Broadcast}
    (hb : b ∈ h.broadcasts) {j : Nat} {rest : List Nat} (ht : b.targets = j :: rest) :
    j < h.bus.subscriptions.length :=
  hs.known b hb j (by rw [ht]; exact List.mem_cons_self)

/-- Where there is room, the next subscription of a publication gets its event. -/
theorem serve_of_room {h : Hub H W} (hs : h.bus.InService) {b : Broadcast} {j : Nat}
    {rest : List Nat} (hj : j < h.bus.subscriptions.length) (ht : b.targets = j :: rest)
    (hroom : (h.bus.queue j).length < h.bus.capacity) :
    (h.bus.offer j b.event).2 = .accepted ∧ h.serve b =
      ({ h with bus := (h.bus.offer j b.event).1 },
        { b with targets := rest, reached := b.reached + 1 }) := by
  have hoffer := hs.offer_snd hj b.event
  rw [if_pos hroom] at hoffer
  exact ⟨hoffer, by simp only [serve, ht, hoffer]⟩

/-- Where there is none, nothing happens. -/
theorem serve_of_full {h : Hub H W} (hs : h.bus.InService) {b : Broadcast} {j : Nat}
    {rest : List Nat} (hj : j < h.bus.subscriptions.length) (ht : b.targets = j :: rest)
    (hfull : ¬ (h.bus.queue j).length < h.bus.capacity) : h.serve b = (h, b) := by
  have hoffer := hs.offer_snd hj b.event
  rw [if_neg hfull] at hoffer
  simp only [serve, ht, hoffer]

/-- A publication that has served everybody owes nothing and may go. -/
theorem leads_complete {h : Hub H W} (hs : h.InService) (i : Nat) {n : Nat} {b : Broadcast}
    (hb : h.broadcasts[n]? = some b) (ht : b.targets = []) :
    Leads h ({ h with broadcasts := h.broadcasts.eraseIdx n }.complete b).1 i [] {} where
  inService := ⟨hs.bus, fun b' hb' => hs.known b' (List.mem_of_mem_eraseIdx hb')⟩
  capacity := rfl
  queue := by simp [complete]
  owed := by
    have howed := owed_perm_of_getElem? hb i
    have hnone : b.owes i = [] := by simp [Broadcast.owes, ht]
    rw [hnone, List.nil_append] at howed
    exact howed.symm

/-- A publication that gives its event to the next subscription no longer owes it. -/
theorem leads_served {h : Hub H W} (hs : h.InService) (i : Nat) {n : Nat} {b : Broadcast}
    (hb : h.broadcasts[n]? = some b) {j : Nat} {rest : List Nat} (ht : b.targets = j :: rest)
    (haccepted : (h.bus.offer j b.event).2 = .accepted) :
    Leads h
      { h with
        bus := (h.bus.offer j b.event).1
        broadcasts := h.broadcasts.set n { b with targets := rest, reached := b.reached + 1 } }
      i [] { accepted := if j = i then [b.event] else [] } where
  inService := by
    refine ⟨hs.bus.offer j b.event, fun b' hb' k hk => ?_⟩
    rw [Bus.length_subscriptions_offer]
    rcases List.mem_or_eq_of_mem_set hb' with hold | rfl
    · exact hs.known b' hold k hk
    · exact hs.known b (List.mem_of_getElem? hb) k (by rw [ht]; exact List.mem_cons_of_mem j hk)
  capacity := Bus.capacity_offer ..
  queue := by simp [Bus.queue_offer, haccepted, eq_comm]
  owed := by
    have hbefore := owed_perm_of_getElem? hb i
    have hafter :=
      owed_set_perm (List.getElem?_eq_some_iff.mp hb).1
      { b with targets := rest, reached := b.reached + 1 } i
    rw [owes_cons ht (b.reached + 1) i] at hbefore
    rw [List.perm_iff_count] at hbefore hafter ⊢
    intro e
    have he := hbefore e
    have he' := hafter e
    simp only [owed, List.count_append, List.append_nil, List.nil_append] at he he' ⊢
    omega

/-- A step of a publication that waits pays one place what it owes it. -/
theorem leads_serveNth (react : Reactor H W) {h : Hub H W} (hs : h.InService) (i n : Nat) :
    Leads h (h.serveNth n).1 i [] (h.share react i (.serve n)) := by
  cases hb : h.broadcasts[n]? with
  | none =>
    simp only [serveNth, share, hb]
    exact hs.leads h i
  | some b =>
    have hmem := List.mem_of_getElem? hb
    cases ht : b.targets with
    | nil =>
      simp only [serveNth, share, hb, ht, if_true, List.head?_nil, reduceCtorEq,
        false_and, if_false]
      exact leads_complete hs i hb ht
    | cons j rest =>
      have hj := hs.next_known hmem ht
      simp only [serveNth, share, hb, ht, reduceCtorEq, if_false, List.head?_cons,
        Option.some.injEq]
      by_cases hroom : (h.bus.queue j).length < h.bus.capacity
      · obtain ⟨haccepted, hserve⟩ := serve_of_room hs.bus hj ht hroom
        have hserved := leads_served hs i hb ht haccepted
        rw [hserve]
        by_cases hij : j = i
        · subst hij
          simpa [hroom] using hserved
        · simpa [hij] using hserved
      · have hnot : ¬ (j = i ∧ (h.bus.queue i).length < h.bus.capacity) := by
          rintro ⟨rfl, hi⟩
          exact hroom hi
        have hsame : h.broadcasts.set n b = h.broadcasts := by
          obtain ⟨hlt, rfl⟩ := List.getElem?_eq_some_iff.mp hb
          exact List.set_getElem_self hlt
        rw [serve_of_full hs.bus hj ht hroom, if_neg hnot, hsame]
        exact hs.leads h i

/-- A dispatcher gives the head of its queue to its handler. -/
theorem leads_dispatch (react : Reactor H W) {h : Hub H W} (hs : h.InService) (i j : Nat) :
    Leads h (h.dispatch react j) i (h.handledAt i (.dispatch j))
      (h.share react i (.dispatch j)) := by
  cases ht : h.bus.take? j with
  | none =>
    have hnone : h.handledAt i (.dispatch j) = [] := by simp [handledAt, taken?, ht]
    simp only [dispatch_of_none ht, hnone, share, ht]
    exact hs.leads h i
  | some r =>
    obtain ⟨handler, e, b⟩ := r
    have htaken : h.handledAt i (.dispatch j) = if j = i then [e] else [] := by
      simp only [handledAt, taken?, ht, Option.map_some, Option.toList_some]
      by_cases hij : j = i <;> simp [hij]
    have hfirst : Leads h { h with bus := b } i (h.handledAt i (.dispatch j)) {} := by
      refine ⟨⟨hs.bus.take? ht, ?_⟩, Bus.capacity_take? ht, ?_, .refl _⟩
      · rw [Bus.length_subscriptions_take? ht]
        exact hs.known
      · rw [htaken]
        by_cases hij : j = i
        · subst hij
          simp [Bus.queue_take? ht]
        · simp [hij, Bus.queue_take?_ne ht hij]
    have hinvoke := hfirst.trans (leads_invoke react hfirst.inService i handler e)
    rw [List.append_nil] at hinvoke
    rw [dispatch_of_take ht]
    simp only [share, ht]
    exact hinvoke

/-- Every action but a shutdown accounts for all that it does at a place. -/
theorem leads_act (react : Reactor H W) {h : Hub H W} (hs : h.InService) (i : Nat) {a : Action H}
    (ha : a ≠ .shutdown) :
    Leads h (h.act react a).1 i (h.handledAt i a) (h.share react i a) := by
  cases a with
  | subscribe kind handler => exact leads_subscribe hs i kind handler
  | unsubscribe j => exact leads_unsubscribe hs i j
  | post e =>
    have hpost : Leads h (h.post e).1 i [] (h.bus.shareAll i [e]) := leads_postAll hs i [e] rfl rfl
    rwa [Bus.shareAll_singleton] at hpost
  | announce e => exact (leads_handlers react hs i e (h.bus.handlers e.kind)).congr rfl rfl
  | publish e => exact leads_publish hs i e
  | serve n => exact leads_serveNth react hs i n
  | dispatch j => exact leads_dispatch react hs i j
  | shutdown => exact absurd rfl ha
  | halt j => exact (hs.leads h i).congr (hs.bus.halt_eq j) rfl

theorem handled_cons (h : Hub H W) (i : Nat) (a : Action H) (as : List (Action H)) :
    h.handled react i (a :: as) = h.handledAt i a ++ (h.act react a).1.handled react i as := by
  simp [handled, handledAt, deliveries]

theorem handled_append (h : Hub H W) (i : Nat) (as bs : List (Action H)) :
    h.handled react i (as ++ bs) = h.handled react i as ++
      (h.run react as).1.handled react i bs := by
  simp [handled, deliveries_append]

theorem leads_run (react : Reactor H W) {h : Hub H W} (hs : h.InService) (i : Nat)
    {as : List (Action H)} (ha : ∀ a ∈ as, a ≠ .shutdown) :
    Leads h (h.run react as).1 i (h.handled react i as) (h.shareOf react i as) := by
  induction as generalizing h with
  | nil => exact hs.leads h i
  | cons a as ih =>
    have hfirst := leads_act react hs i (ha a List.mem_cons_self)
    rw [handled_cons]
    exact hfirst.trans (ih hfirst.inService fun a' ha' => ha a' (List.mem_cons_of_mem _ ha'))

end Hub

end VenueGateway
