import VenueGateway.Proofs.Bus.OnceInOrder
import VenueGateway.Proofs.Bus.Publishing

/-!
What a bus counts, held against what it hands out. Whoever published is told how many subscriptions
to the kind there were when the publication began, less those that it dropped the event for, and the
two counters grow by just these numbers. An event that was counted, or that a publication which is
still under way has put into a queue, has run a handler or waits in a queue. So where nothing waits
and nobody is still publishing, as many deliveries were counted as handlers were run.
-/

namespace VenueGateway

inductive Manner where
  /-- By a handler, which does not wait for room. -/
  | answering
  /-- By somebody else who does not wait for room. -/
  | trying
  /-- Waiting for room where there is none. -/
  | waiting
  /-- By running all handlers at once. -/
  | inline
  deriving DecidableEq, Repr

structure Publication where
  manner : Manner
  event : Event
  /-- How many subscriptions to its kind there were when it began. -/
  audience : Nat
  /-- What whoever published is told. -/
  reached : Nat
  /-- How many of them it was dropped for. -/
  dropped : Nat
  deriving DecidableEq, Repr

namespace Publication

/-- Everybody was reached, apart from those that the event was dropped for where nobody waits. -/
def Exact (p : Publication) : Prop :=
  p.reached + p.dropped = p.audience ∧ (p.manner = .waiting ∨ p.manner = .inline → p.dropped = 0)

def sumOf (f : Publication → Nat) (kind : EventKind) (ps : List Publication) : Nat :=
  ((ps.filter fun p => p.event.kind = kind).map f).sum

@[simp] theorem sumOf_nil (f : Publication → Nat) (kind : EventKind) : sumOf f kind [] = 0 := rfl

@[simp] theorem sumOf_append (f : Publication → Nat) (kind : EventKind) (ps qs : List Publication) :
    sumOf f kind (ps ++ qs) = sumOf f kind ps + sumOf f kind qs := by
  simp [sumOf, List.sum_append]

@[simp] theorem sumOf_singleton (f : Publication → Nat) (kind : EventKind) (p : Publication) :
    sumOf f kind [p] = if p.event.kind = kind then f p else 0 := by
  by_cases h : p.event.kind = kind <;> simp [sumOf, h]

/-- All kinds together make up all publications. -/
theorem sum_sumOf (f : Publication → Nat) (ps : List Publication) :
    (EventKind.all.map fun kind => sumOf f kind ps).sum = (ps.map f).sum := by
  induction ps with
  | nil => rfl
  | cons p ps ih =>
    have hone : (EventKind.all.map fun kind => sumOf f kind [p]).sum = f p := by
      cases hk : p.event.kind <;> simp [EventKind.all, hk]
    have hsplit : (EventKind.all.map fun kind => sumOf f kind (p :: ps)).sum =
        (EventKind.all.map fun kind => sumOf f kind [p] + sumOf f kind ps).sum :=
      congrArg List.sum (List.map_congr_left fun kind _ => sumOf_append f kind [p] ps)
    rw [hsplit, List.sum_map_add, hone, ih, List.map_cons, List.sum_cons]

end Publication

def Metrics.published (m : Metrics) : Nat :=
  (EventKind.all.map fun kind => m.count (.eventsPublished kind)).sum

/-- Handlers leave the two counts of the bus to the bus. -/
structure Reactor.Discreet {H W : Type} (react : Reactor H W) : Prop where
  published : ∀ handler e w m kind,
    (react handler e w m).metrics.count (.eventsPublished kind) = m.count (.eventsPublished kind)
  dropped : ∀ handler e w m kind,
    (react handler e w m).metrics.count (.eventsDropped kind) = m.count (.eventsDropped kind)

namespace Bus

variable {H : Type} {b : Bus H}

/-- In service, who does not wait reaches all but those that the event is dropped for. -/
theorem InService.post_counts (h : b.InService) (e : Event) :
    (b.post e).2.1 + (b.post e).2.2 = b.audience e.kind := by
  have hfull : ∀ i ∈ b.recipients e.kind,
      ((b.offer i e).2 == .full) = true ↔
        (decide ¬ ((b.offer i e).2 == .accepted) = true) = true := by
    intro i hi
    obtain ⟨s, hs, -⟩ := mem_recipients.mp hi
    rw [h.offer_snd (List.getElem?_eq_some_iff.mp hs).1]
    split <;> simp
  have hparted :=
    List.length_eq_countP_add_countP (fun i => (b.offer i e).2 == .accepted)
    (l := b.recipients e.kind)
  rw [Bus.post, offerAll_counts b e _ (b.nodup_recipients e.kind), ← length_recipients, hparted,
    List.countP_congr hfull]

end Bus

def Broadcast.due (b : Broadcast) : Nat := b.reached + b.targets.length

def Hub.Answer.told? : Hub.Answer → Option Nat
  | .reached n => some n
  | _ => none

namespace Hub

variable {H W : Type} {react : Reactor H W}

def posting (h : Hub H W) (manner : Manner) (e : Event) : Publication where
  manner := manner
  event := e
  audience := h.bus.audience e.kind
  reached := (h.post e).2
  dropped := (h.bus.post e).2.2

def postings (h : Hub H W) : List Event → List Publication
  | [] => []
  | e :: es => h.posting .answering e :: postings (h.post e).1 es

/-- A hub when a handler has run, and before what it offers is published. -/
def reacted (react : Reactor H W) (h : Hub H W) (handler : H) (e : Event) : Hub H W :=
  let r := react handler e h.world h.metrics
  { h with world := r.world, metrics := r.metrics }

def postingsBy (react : Reactor H W) (h : Hub H W) (handler : H) (e : Event) : List Publication :=
  (h.reacted react handler e).postings (react handler e h.world h.metrics).offers

def postingsByAll (react : Reactor H W) (h : Hub H W) (e : Event) : List H → List Publication
  | [] => []
  | handler :: handlers => h.postingsBy react handler e ++
    postingsByAll react (h.invoke react handler e) e handlers

/-- The publications under way, told by how many subscriptions there were when each of them
began. -/
def begunAfter (h : Hub H W) (begun : List Nat) : Action H → List Nat
  | .publish e => begun ++ [h.bus.audience e.kind]
  | .serve n =>
    match h.broadcasts[n]? with
    | some b => if b.targets = [] then begun.eraseIdx n else begun
    | none => begun
  | _ => begun

/-- The publications that end at an action, those of handlers included. -/
def endedAt (react : Reactor H W) (h : Hub H W) (begun : List Nat) : Action H → List Publication
  | .post e => [h.posting .trying e]
  | .announce e =>
    h.postingsByAll react e (h.bus.handlers e.kind) ++
      [⟨.inline, e, h.bus.audience e.kind, (h.announce react e).2, 0⟩]
  | .dispatch i =>
    match h.bus.take? i with
    | some (handler, e, bus) => ({ h with bus } : Hub H W).postingsBy react handler e
    | none => []
  | .serve n =>
    match h.broadcasts[n]?, begun[n]? with
    | some b, some audience => if b.targets = [] then [⟨.waiting, b.event, audience, b.reached, 0⟩]
      else []
    | _, _ => []
  | _ => []

def publications (react : Reactor H W) (h : Hub H W) (begun : List Nat) :
    List (Action H) → List Publication
  | [] => []
  | a :: as => h.endedAt react begun a ++
    publications react (h.act react a).1 (h.begunAfter begun a) as

/-- How many events publications under way have put into queues. -/
def underWay (h : Hub H W) : Nat := (h.broadcasts.map (·.reached)).sum

/-- How one state leads to another by the counts: what publications in between were told and
dropped, and how many handlers were run. -/
structure Tallies (h h' : Hub H W) (ps : List Publication) (invoked : Nat) : Prop where
  exact : ∀ p ∈ ps, p.Exact
  published : ∀ kind, h'.metrics.count (.eventsPublished kind) =
    h.metrics.count (.eventsPublished kind) + Publication.sumOf (·.reached) kind ps
  dropped : ∀ kind, h'.metrics.count (.eventsDropped kind) =
    h.metrics.count (.eventsDropped kind) + Publication.sumOf (·.dropped) kind ps
  /-- What was reached has run a handler or waits. -/
  flow : (ps.map (·.reached)).sum + h'.underWay + h.bus.pending =
    h.underWay + h'.bus.pending + invoked

/-- Tallies of one stretch after another add up. -/
theorem Tallies.trans {h h' h'' : Hub H W} {ps qs : List Publication} {m n : Nat}
    (ht : Tallies h h' ps m) (ht' : Tallies h' h'' qs n) : Tallies h h'' (ps ++ qs) (m + n) where
  exact := by
    intro p hp
    rcases List.mem_append.mp hp with hp | hp
    · exact ht.exact p hp
    · exact ht'.exact p hp
  published := by
    intro kind
    rw [ht'.published, ht.published, Publication.sumOf_append, Nat.add_assoc]
  dropped := by
    intro kind
    rw [ht'.dropped, ht.dropped, Publication.sumOf_append, Nat.add_assoc]
  flow := by
    have hfirst := ht.flow
    have hrest := ht'.flow
    rw [List.map_append, List.sum_append]
    omega

/-- Where nothing is published and no handler is run, as many events wait as before. -/
theorem Tallies.of_still {h h' : Hub H W} (hm : h'.metrics = h.metrics)
    (hp : h'.bus.pending = h.bus.pending) (hw : h'.underWay = h.underWay) : Tallies h h' [] 0 where
  exact := List.forall_mem_nil _
  published := by simp [hm]
  dropped := by simp [hm]
  flow := by simp [hp, hw]

/-- A publication that does not wait is counted where it reaches, and dropped where a queue is
full. -/
theorem tallies_post {h : Hub H W} (hs : h.bus.InService) {manner : Manner}
    (hm : manner = .answering ∨ manner = .trying) (e : Event) :
    Tallies h (h.post e).1 [h.posting manner e] 0 where
  exact := by
    intro p hp
    obtain rfl := List.mem_singleton.mp hp
    refine ⟨hs.post_counts e, ?_⟩
    rintro (hwaiting | hinline)
    · rcases hm with rfl | rfl <;> cases hwaiting
    · rcases hm with rfl | rfl <;> cases hinline
  published := by
    intro kind
    by_cases hk : e.kind = kind
    · subst hk
      simp [post, posting, Metrics.count_add]
    · simp [post, posting, Metrics.count_add, hk]
  dropped := by
    intro kind
    rw [count_dropped_post, Publication.sumOf_singleton]
    rfl
  flow := by
    have hpending := h.bus.pending_post e
    simp only [List.map_cons, List.map_nil, List.sum_cons, List.sum_nil, posting]
    change (h.bus.post e).2.1 + 0 + h.underWay + h.bus.pending =
      h.underWay + (h.bus.post e).1.pending + 0
    omega

theorem tallies_postings {h : Hub H W} (hs : h.bus.InService) (es : List Event) :
    Tallies h (es.foldl (fun h e => (h.post e).1) h) (h.postings es) 0 := by
  induction es generalizing h with
  | nil => exact .of_still rfl rfl rfl
  | cons e es ih => exact (tallies_post hs (.inl rfl) e).trans (ih (hs.post e))

/-- The publications of one handler. -/
theorem tallies_invoke (hd : react.Discreet) {h : Hub H W} (hs : h.bus.InService) (handler : H)
    (e : Event) :
    Tallies h (h.invoke react handler e) (h.postingsBy react handler e) 0 := by
  have hreacted : Tallies h (h.reacted react handler e) [] 0 := by
    refine ⟨List.forall_mem_nil _, fun kind => ?_, fun kind => ?_, by simp [reacted, underWay]⟩
    · exact hd.published handler e h.world h.metrics kind
    · exact hd.dropped handler e h.world h.metrics kind
  exact hreacted.trans (tallies_postings (h := h.reacted react handler e) hs _)

theorem inService_invoke {h : Hub H W} (hs : h.bus.InService) (handler : H) (e : Event) :
    (h.invoke react handler e).bus.InService := by
  rw [bus_invoke]
  exact hs.postAll _

theorem tallies_handlers (hd : react.Discreet) {h : Hub H W} (hs : h.bus.InService) (e : Event)
    (handlers : List H) :
    Tallies h (handlers.foldl (fun h handler => h.invoke react handler e) h)
      (h.postingsByAll react e handlers) 0 := by
  induction handlers generalizing h with
  | nil => exact .of_still rfl rfl rfl
  | cons handler handlers ih =>
    exact (tallies_invoke hd hs handler e).trans (ih (inService_invoke hs handler e))

/-- Where a publication that met no full queue is counted. -/
theorem Tallies.of_counted {h h' : Hub H W} {p : Publication} (he : p.Exact) (hd : p.dropped = 0)
    (hm : h'.metrics = h.metrics.add (.eventsPublished p.event.kind) p.reached) {invoked : Nat}
    (hf : p.reached + h'.underWay + h.bus.pending = h.underWay + h'.bus.pending + invoked) :
    Tallies h h' [p] invoked where
  exact := by
    intro p' hp'
    obtain rfl := List.mem_singleton.mp hp'
    exact he
  published := by
    intro kind
    by_cases hk : p.event.kind = kind
    · subst hk
      simp [hm, Metrics.count_add]
    · simp [hm, Metrics.count_add, hk]
  dropped := by
    intro kind
    simp [hm, hd, Metrics.count_add]
  flow := by simpa using hf

/-- An announcement counts all handlers that it has run. -/
theorem tallies_announce (hd : react.Discreet) {h : Hub H W} (hs : h.bus.InService)
    (begun : List Nat) (e : Event) :
    Tallies h (h.announce react e).1 (h.endedAt react begun (.announce e))
      (h.bus.audience e.kind) := by
  have hlength : (h.bus.handlers e.kind).length = h.bus.audience e.kind := by
    rw [Bus.handlers, List.length_map, Bus.audience, List.countP_eq_length_filter]
  have hrun := tallies_handlers hd hs e (h.bus.handlers e.kind)
  generalize hran : (h.bus.handlers e.kind).foldl (fun h handler => h.invoke react handler e) h =
    ran at hrun
  have hcounted : Tallies ran (h.announce react e).1
      [⟨.inline, e, h.bus.audience e.kind, (h.announce react e).2, 0⟩] (h.bus.audience e.kind) := by
    have hexact :
        Publication.Exact ⟨.inline, e, h.bus.audience e.kind, (h.announce react e).2, 0⟩ :=
      ⟨hlength, fun _ => rfl⟩
    refine .of_counted hexact rfl ?_ ?_
    · rw [← hran]
      rfl
    · rw [← hran]
      change (h.bus.handlers e.kind).length + _ + _ = _ + _ + _
      rw [hlength]
      exact (Nat.add_assoc ..).trans (Nat.add_comm ..)
  have hboth := hrun.trans hcounted
  rwa [Nat.zero_add] at hboth

/-- A dispatcher that finds an event runs its handler. -/
theorem tallies_dispatch (hd : react.Discreet) {h : Hub H W} (hs : h.bus.InService)
    (begun : List Nat) (i : Nat) :
    Tallies h (h.dispatch react i) (h.endedAt react begun (.dispatch i))
      (h.invoked (.dispatch i)).length := by
  cases ht : h.bus.take? i with
  | none =>
    simp only [dispatch_of_none ht, endedAt, ht, invoked, taken?, Option.map_none,
      Option.toList_none, List.map_nil, List.length_nil]
    exact .of_still rfl rfl rfl
  | some r =>
    obtain ⟨handler, e, b⟩ := r
    have htaken : Tallies h { h with bus := b } [] 1 := by
      have hpending := Bus.pending_take? ht
      refine ⟨List.forall_mem_nil _, fun kind => rfl, fun kind => rfl, ?_⟩
      change 0 + h.underWay + h.bus.pending = h.underWay + b.pending + 1
      omega
    simp only [dispatch_of_take ht, endedAt, ht, invoked, taken?, Option.map_some,
      Option.toList_some, List.map_cons, List.map_nil, List.length_singleton]
    exact htaken.trans (tallies_invoke hd (h := { h with bus := b }) (hs.take? ht) handler e)

/-- A publication under way that has reached one more, or has come to its end. -/
theorem tallies_serve {h : Hub H W} (hs : h.InService) (n : Nat) :
    Tallies h (h.serveNth n).1 (h.endedAt react (h.broadcasts.map (·.due)) (.serve n)) 0 := by
  cases hb : h.broadcasts[n]? with
  | none =>
    simp only [serveNth, endedAt, hb]
    exact .of_still rfl rfl rfl
  | some b =>
    have hbegun : (h.broadcasts.map (·.due))[n]? = some b.due := by rw [List.getElem?_map, hb]; rfl
    cases ht : b.targets with
    | nil =>
      have hunderWay := sum_eraseIdx_add (·.reached) hb
      simp only [serveNth, endedAt, hb, hbegun, ht, if_true]
      refine .of_counted ⟨?_, fun _ => rfl⟩ rfl rfl ?_
      · simp [Broadcast.due, ht]
      · change b.reached + ((h.broadcasts.eraseIdx n).map (·.reached)).sum + h.bus.pending =
          h.underWay + h.bus.pending + 0
        rw [underWay]
        omega
    | cons j rest =>
      have hj := hs.next_known (List.mem_of_getElem? hb) ht
      simp only [serveNth, endedAt, hb, hbegun, ht, reduceCtorEq, if_false]
      by_cases hroom : (h.bus.queue j).length < h.bus.capacity
      · obtain ⟨haccepted, hserve⟩ := serve_of_room hs.bus hj ht hroom
        have hpending := h.bus.pending_offer j b.event
        have hunderWay :
            ((h.broadcasts.set n { b with targets := rest, reached := b.reached + 1 }).map
            (·.reached)).sum +
            b.reached = h.underWay + (b.reached + 1) := sum_set_add (·.reached) hb _
        rw [haccepted, if_pos rfl] at hpending
        simp only [hserve]
        refine ⟨List.forall_mem_nil _, fun kind => rfl, fun kind => rfl, ?_⟩
        change 0 + ((h.broadcasts.set n _).map (·.reached)).sum + h.bus.pending =
          h.underWay + (h.bus.offer j b.event).1.pending + 0
        omega
      · rw [serve_of_full hs.bus hj ht hroom]
        obtain ⟨hlt, rfl⟩ := List.getElem?_eq_some_iff.mp hb
        refine .of_still rfl rfl ?_
        rw [underWay, List.set_getElem_self, underWay]

/-- What one action adds to the counts. -/
theorem tallies_act (hd : react.Discreet) {h : Hub H W} (hs : h.InService) {a : Action H}
    (ha : a ≠ .shutdown) :
    Tallies h (h.act react a).1 (h.endedAt react (h.broadcasts.map (·.due)) a)
      (h.invoked a).length := by
  cases a with
  | subscribe kind handler => exact .of_still rfl (h.bus.pending_subscribe kind handler) rfl
  | unsubscribe i => exact .of_still rfl (h.bus.pending_unsubscribe i) rfl
  | post e => exact tallies_post hs.bus (.inr rfl) e
  | announce e =>
    have hlength : (h.invoked (.announce e)).length = h.bus.audience e.kind := by
      rw [invoked, List.length_map, Bus.audience, List.countP_eq_length_filter]
    rw [hlength]
    exact tallies_announce hd hs.bus _ e
  | publish e => exact .of_still rfl rfl (by simp [act, underWay, broadcastOf])
  | serve n => exact tallies_serve hs n
  | dispatch i => exact tallies_dispatch hd hs.bus _ i
  | shutdown => exact absurd rfl ha
  | halt i =>
    have hsame : h.bus.halt i = h.bus := hs.bus.halt_eq i
    exact .of_still rfl (by simp [act, hsame]) rfl

theorem broadcasts_handlers (h : Hub H W) (e : Event) (handlers : List H) :
    (handlers.foldl (fun h handler => h.invoke react handler e) h).broadcasts = h.broadcasts := by
  induction handlers generalizing h with
  | nil => rfl
  | cons handler handlers ih => rw [List.foldl_cons, ih, broadcasts_invoke]

/-- Who serves one after another reaches as many in all as there were when the publication began. -/
theorem begunAfter_due (react : Reactor H W) {h : Hub H W} (hs : h.InService) (a : Action H) :
    h.begunAfter (h.broadcasts.map (·.due)) a = (h.act react a).1.broadcasts.map (·.due) := by
  cases a with
  | announce e =>
    change h.broadcasts.map (·.due) =
      List.map (·.due) (Hub.broadcasts (List.foldl _ h (h.bus.handlers e.kind)))
    rw [broadcasts_handlers]
  | publish e =>
    have hdue : (h.broadcastOf e).due = h.bus.audience e.kind :=
      (Nat.zero_add _).trans (h.bus.length_recipients e.kind)
    simp [begunAfter, act, hdue]
  | serve n =>
    change _ = List.map (·.due) (h.serveNth n).1.broadcasts
    cases hb : h.broadcasts[n]? with
    | none => simp only [begunAfter, serveNth, hb]
    | some b =>
      cases ht : b.targets with
      | nil =>
        simp only [begunAfter, serveNth, hb, ht, if_true]
        exact List.eraseIdx_map ..
      | cons j rest =>
        obtain ⟨hlt, rfl⟩ := List.getElem?_eq_some_iff.mp hb
        have hj := hs.next_known (List.getElem_mem hlt) ht
        have hdue : (h.serve h.broadcasts[n]).2.due = h.broadcasts[n].due ∧
            (h.serve h.broadcasts[n]).1.broadcasts = h.broadcasts := by
          by_cases hroom : (h.bus.queue j).length < h.bus.capacity
          · rw [(serve_of_room hs.bus hj ht hroom).2]
            refine ⟨?_, rfl⟩
            simp only [Broadcast.due, ht, List.length_cons]
            omega
          · rw [serve_of_full hs.bus hj ht hroom]
            exact ⟨rfl, rfl⟩
        simp only [begunAfter, serveNth, hb, ht, reduceCtorEq, if_false, List.map_set, hdue]
        exact (List.set_getElem_self (by simpa using hlt)).symm.trans (by rw [List.getElem_map])
  | dispatch i =>
    change h.broadcasts.map (·.due) = List.map (·.due) (h.dispatch react i).broadcasts
    cases ht : h.bus.take? i with
    | none => rw [dispatch_of_none ht]
    | some r => rw [dispatch_of_take ht, broadcasts_invoke]
  | _ => rfl

theorem manner_postings {h : Hub H W} {es : List Event} {p : Publication} (hp : p ∈ h.postings es) :
    p.manner = .answering := by
  induction es generalizing h with
  | nil => cases hp
  | cons e es ih =>
    rcases List.mem_cons.mp hp with rfl | hp
    · rfl
    · exact ih hp

theorem manner_postingsByAll {h : Hub H W} {e : Event} {handlers : List H} {p : Publication}
    (hp : p ∈ h.postingsByAll react e handlers) : p.manner = .answering := by
  induction handlers generalizing h with
  | nil => cases hp
  | cons handler handlers ih =>
    rcases List.mem_append.mp hp with hp | hp
    · exact manner_postings hp
    · exact ih hp

/-- What callers are told at an action is what the publications that end there have reached, those
of handlers apart, which nobody asks about. -/
theorem told_act (react : Reactor H W) (h : Hub H W) (a : Action H) :
    (h.act react a).2.told?.toList =
      ((h.endedAt react (h.broadcasts.map (·.due)) a).filter fun p => p.manner ≠ .answering).map
        (·.reached) := by
  cases a with
  | announce e =>
    have hnone : ((h.postingsByAll react e (h.bus.handlers e.kind)).filter fun p =>
        p.manner ≠ .answering) = [] :=
      List.filter_eq_nil_iff.mpr fun p hp => by simp [manner_postingsByAll hp]
    rw [endedAt, List.filter_append, hnone]
    rfl
  | serve n =>
    change (h.serveNth n).2.told?.toList = _
    cases hb : h.broadcasts[n]? with
    | none =>
      simp only [serveNth, endedAt, hb]
      rfl
    | some b =>
      have hbegun : (h.broadcasts.map (·.due))[n]? = some b.due := by
        rw [List.getElem?_map, hb]; rfl
      simp only [serveNth, endedAt, hb, hbegun]
      split <;> rfl
  | dispatch i =>
    cases ht : h.bus.take? i with
    | none =>
      simp only [endedAt, ht]
      rfl
    | some r =>
      simp only [endedAt, ht]
      have hnone : ∀ p ∈ ({ h with bus := r.2.2 } : Hub H W).postingsBy react r.1 r.2.1,
          ¬ p.manner ≠ .answering :=
        fun p hp => not_not_intro (manner_postings hp)
      rw [List.filter_eq_nil_iff.mpr fun p hp => by simpa using hnone p hp]
      rfl
  | _ => rfl

/-- What callers were told in a run are the publications of the run, answers of handlers apart. -/
theorem told_run (react : Reactor H W) {h : Hub H W} (hs : h.InService) {as : List (Action H)}
    (ha : ∀ a ∈ as, a ≠ .shutdown) :
    (h.run react as).2.filterMap (·.told?) =
      ((h.publications react (h.broadcasts.map (·.due)) as).filter fun p =>
        p.manner ≠ .answering).map (·.reached) := by
  induction as generalizing h with
  | nil => rfl
  | cons a as ih =>
    have hrest := ih (leads_act react hs 0 (ha a List.mem_cons_self)).inService
      fun a' ha' => ha a' (List.mem_cons_of_mem _ ha')
    have hfirst := h.told_act react a
    rw [publications, begunAfter_due react hs, List.filter_append, List.map_append,
      ← hrest, ← hfirst]
    change ((h.act react a).2 :: ((h.act react a).1.run react as).2).filterMap _ = _
    cases hanswer : (h.act react a).2.told? with
    | none => rw [List.filterMap_cons_none hanswer, Option.toList_none, List.nil_append]
    | some n => rw [List.filterMap_cons_some hanswer, Option.toList_some, List.singleton_append]

/-- What a run adds to the counts, with the handlers that it ran. -/
theorem tallies_run (hd : react.Discreet) {h : Hub H (W × List (H × Event))} (hs : h.InService)
    {as : List (Action H)} (ha : ∀ a ∈ as, a ≠ .shutdown) :
    ∃ invoked, Tallies h (h.run react.logged as).1
        (h.publications react.logged (h.broadcasts.map (·.due)) as) invoked ∧
      (h.run react.logged as).1.world.2.length = h.world.2.length + invoked := by
  have hlogged : react.logged.Discreet :=
    ⟨fun handler e w => hd.published handler e w.1, fun handler e w => hd.dropped handler e w.1⟩
  induction as generalizing h with
  | nil => exact ⟨0, .of_still rfl rfl rfl, rfl⟩
  | cons a as ih =>
    have hlasting := ha a List.mem_cons_self
    have hfirst := tallies_act hlogged hs hlasting
    have hlog := act_logged react h a
    obtain ⟨invoked, hrest, hlength⟩ := ih (leads_act react.logged hs 0 hlasting).inService
      fun a' ha' => ha a' (List.mem_cons_of_mem _ ha')
    refine ⟨(h.invoked a).length + invoked, ?_, ?_⟩
    · rw [publications, begunAfter_due react.logged hs]
      exact hfirst.trans hrest
    · rw [hlog, List.length_append] at hlength
      change ((h.act react.logged a).1.run react.logged as).1.world.2.length = _
      omega

/-- What a bus that began with nothing under way has counted when it has done a run of actions. -/
structure Accounts (react : Reactor H W) (h : Hub H (W × List (H × Event))) (as : List (Action H)) :
    Prop where
  /-- All are reached, but those whom the event was dropped for where nobody waits. -/
  exact : ∀ p ∈ h.publications react.logged [] as, p.Exact
  /-- Callers are told what was reached. -/
  told : (h.run react.logged as).2.filterMap (·.told?) =
    ((h.publications react.logged [] as).filter fun p => p.manner ≠ .answering).map (·.reached)
  published : ∀ kind, (h.run react.logged as).1.metrics.count (.eventsPublished kind) =
    h.metrics.count (.eventsPublished kind) +
      Publication.sumOf (·.reached) kind (h.publications react.logged [] as)
  dropped : ∀ kind, (h.run react.logged as).1.metrics.count (.eventsDropped kind) =
    h.metrics.count (.eventsDropped kind) +
      Publication.sumOf (·.dropped) kind (h.publications react.logged [] as)
  /-- What was counted, or reached by who is still publishing, has run a handler or waits. -/
  balanced : (h.run react.logged as).1.metrics.published + (h.run react.logged as).1.underWay +
    h.world.2.length =
    h.metrics.published + (h.run react.logged as).1.world.2.length +
      (h.run react.logged as).1.bus.pending
  /-- So where nothing waits and nobody is still publishing, what was counted has run a handler. -/
  drained : (∀ i, (h.run react.logged as).1.bus.queue i = []) →
    (h.run react.logged as).1.broadcasts = [] →
    (h.run react.logged as).1.metrics.published + h.world.2.length =
      h.metrics.published + (h.run react.logged as).1.world.2.length

/-- The published count of all kinds grows by what was reached. -/
theorem Tallies.total {h h' : Hub H W} {ps : List Publication} {invoked : Nat}
    (ht : Tallies h h' ps invoked) :
    h'.metrics.published = h.metrics.published + (ps.map (·.reached)).sum := by
  have hkinds : (EventKind.all.map fun kind => h'.metrics.count (.eventsPublished kind)) =
      EventKind.all.map fun kind =>
        h.metrics.count (.eventsPublished kind) + Publication.sumOf (·.reached) kind ps :=
    List.map_congr_left fun kind _ => ht.published kind
  rw [Metrics.published, hkinds, List.sum_map_add, Publication.sum_sumOf, Metrics.published]

/-- The accounts of a run are read off its tallies. -/
theorem accounts_run (hd : react.Discreet) {h : Hub H (W × List (H × Event))} (hs : h.InService)
    (hb : h.broadcasts = []) (hp : h.bus.pending = 0) {as : List (Action H)}
    (ha : ∀ a ∈ as, a ≠ .shutdown) :
    Accounts react h as := by
  obtain ⟨invoked, htallies, hlength⟩ := tallies_run hd hs ha
  have htold := told_run react.logged hs ha
  have htotal := htallies.total
  have hflow := htallies.flow
  have hquiet : h.underWay = 0 := by rw [underWay, hb]; rfl
  rw [hb, List.map_nil] at htallies htold htotal hflow
  have hbalanced : (h.run react.logged as).1.metrics.published +
      (h.run react.logged as).1.underWay +
      h.world.2.length = h.metrics.published + (h.run react.logged as).1.world.2.length +
        (h.run react.logged as).1.bus.pending := by omega
  refine ⟨htallies.exact, htold, htallies.published, htallies.dropped, hbalanced, ?_⟩
  intro hempty hended
  have hpending := Bus.pending_eq_zero hempty
  have hdone : (h.run react.logged as).1.underWay = 0 := by rw [underWay, hended]; rfl
  omega

/-- From a bus without subscriptions, whatever is done short of a shutdown: who does not wait is
told how many were subscribed less those that the event was dropped for, who waits or announces is
told how many were subscribed, the counts grow by just these numbers, and what was counted has run a
handler or waits. Where handlers answer an event with one other at most, and that other with none,
nobody waits in vain: however dispatchers take turns, a publication reaches all who are subscribed
when it begins, and the steps until it ends are a run of the bus themselves. -/
theorem counters_agree_with_deliveries (react : Reactor H W) (hd : react.Discreet) (capacity : Nat)
    (w : W) (m : Metrics) (as : List (Action H)) (ha : ∀ a ∈ as, a ≠ .shutdown) :
    Accounts react { bus := Bus.new capacity, world := (w, []), metrics := m } as ∧
      ∀ last, react.Calm last → ∀ turns e,
        let h := (run react.logged { bus := Bus.new capacity, world := (w, []), metrics := m } as).1
        (h.publish turns react.logged e).2 = h.bus.audience e.kind ∧
          ∃ steps, (∀ a ∈ steps, a.isServing h.broadcasts.length = true) ∧
            (h.run react.logged (.publish e :: steps)).1.act react.logged
              (.serve h.broadcasts.length) =
              ((h.publish turns react.logged e).1,
                .reached (h.publish turns react.logged e).2) := by
  have hs :
      ({ bus := Bus.new capacity, world := (w, []), metrics := m } : Hub H
      (W × List (H × Event))).InService :=
    ⟨Bus.inService_new capacity, nofun⟩
  refine ⟨accounts_run hd hs rfl rfl ha, ?_⟩
  intro last hc turns e
  have hlogged : react.logged.Calm last :=
    ⟨fun handler e w => hc.single handler e w.1, fun handler e w => hc.kind handler e w.1,
      fun handler e w => hc.silent handler e w.1⟩
  exact publish_eq_run hlogged turns (leads_run react.logged hs 0 ha).inService.bus e

/-- Two handlers, one of which answers an attempted cancel and breaks off. -/
def answering : Reactor Bool Unit := fun handler e w m =>
  { world := w
    metrics := m
    offers := if handler ∧ e.kind = .attemptedCancel then [.orderCanceled "K"] else []
    panicked := handler }

theorem answering_discreet : answering.Discreet := ⟨fun _ _ _ _ _ => rfl, fun _ _ _ _ _ => rfl⟩

theorem answering_calm : answering.Calm .orderCanceled where
  single := by
    intro handler e w m
    simp only [answering]
    split <;> simp
  kind := by
    intro handler e w m e' he'
    simp only [answering] at he'
    split at he'
    · rw [List.mem_singleton.mp he']
      rfl
    · cases he'
  silent := by
    intro handler e w m he
    simp [answering, he]

/-- The queues hold one event each. One publication finds them full, one waits, and an answer finds
its queue full when the subscription that gives rise to it has ended. -/
def crowded : List (Action Bool) :=
  [.subscribe .attemptedCancel true, .subscribe .attemptedCancel false,
    .subscribe .orderCanceled false, .post (.attemptedCancel 1), .post (.attemptedCancel 2),
    .publish (.attemptedCancel 3), .serve 0, .dispatch 0, .serve 0, .unsubscribe 0, .dispatch 1,
    .serve 0, .serve 0, .announce (.attemptedCancel 5), .dispatch 0, .dispatch 1, .dispatch 2]

theorem crowded_accounted :
    let h : Hub Bool (Unit × List (Bool × Event)) := { bus := Bus.new 0, world := ((), []) }
    answering.Discreet ∧ (∀ a ∈ crowded, a ≠ .shutdown) ∧ Accounts answering h crowded ∧
      ((h.run answering.logged crowded).1.publish .inOrder answering.logged
        (.attemptedCancel 6)).2 = 1 ∧
      (h.run answering.logged crowded).2.filterMap (·.told?) = [2, 0, 2, 1] ∧
      (h.run answering.logged crowded).1.metrics.count (.eventsDropped .attemptedCancel) = 2 ∧
      (h.run answering.logged crowded).1.metrics.count (.eventsDropped .orderCanceled) = 1 ∧
      (h.run answering.logged crowded).1.bus.pending = 0 ∧
        (h.run answering.logged crowded).1.metrics.published = 6 ∧
      (h.run answering.logged crowded).1.world.2.length = 6 := by
  have hlasting : ∀ a ∈ crowded, a ≠ .shutdown := by simp [crowded]
  have hmain := counters_agree_with_deliveries answering answering_discreet 0 () {} crowded hlasting
  have hreached := (hmain.2 .orderCanceled answering_calm .inOrder (.attemptedCancel 6)).1
  exact ⟨answering_discreet, hlasting, hmain.1, hreached, by decide⟩

end Hub

end VenueGateway
