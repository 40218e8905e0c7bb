import VenueGateway.Proofs.Bus.Ledger

/-!
Delivery by the bus, for whatever runs without a shutdown. Each subscription handles what its queue
accepted, once and in order; a queue is never longer than it may be; what was accepted is handled
however long it has to wait, and a subscription that has ended is offered nothing more. A handler
that breaks off keeps nobody else from being run. Room that is kept for a publication that waits is
taken by it: its step stands where the room is made.
-/

namespace VenueGateway

/-- A reactor that writes down who handled which event. -/
def Reactor.logged {H W : Type} (react : Reactor H W) :
    Reactor H (W × List (H × Event)) := fun handler e w m =>
  let r := react handler e w.1 m
  { world := (r.world, w.2 ++ [(handler, e)])
    metrics := r.metrics
    offers := r.offers
    panicked := r.panicked }

namespace Hub

variable {H W : Type} {react : Reactor H W}

def invoked (h : Hub H W) : Action H → List (H × Event)
  | .dispatch i => (h.taken? (.dispatch i)).toList.map fun d => (d.handler, d.event)
  | .announce e => (h.bus.subscriptions.filter (·.wants e.kind)).map fun s => (s.handler, e)
  | _ => []

def Action.isDispatchOf (i : Nat) : Action H → Bool
  | .dispatch j => j = i
  | _ => false

theorem world_logged (h : Hub H (W × List (H × Event))) (handler : H) (e : Event) :
    (h.invoke react.logged handler e).world.2 = h.world.2 ++ [(handler, e)] := by
  rw [world_invoke]
  rfl

theorem foldl_logged (h : Hub H (W × List (H × Event))) (e : Event) (handlers : List H) :
    (handlers.foldl (fun h handler => h.invoke react.logged handler e) h).world.2 =
      h.world.2 ++ handlers.map fun handler => (handler, e) := by
  induction handlers generalizing h with
  | nil => simp
  | cons handler handlers ih =>
    rw [List.foldl_cons, ih, world_logged, List.append_assoc, List.map_cons, List.singleton_append]

/-- The handlers that run at an action have all run when it is over, in the order given, whoever
broke off. -/
theorem act_logged (react : Reactor H W) (h : Hub H (W × List (H × Event))) (a : Action H) :
    (h.act react.logged a).1.world.2 = h.world.2 ++ h.invoked a := by
  cases a with
  | announce e =>
    change
      (((h.bus.handlers e.kind).foldl (fun h handler => h.invoke react.logged handler e) h).world).2
      = _
    rw [foldl_logged, Bus.handlers, List.map_map]
    rfl
  | dispatch i =>
    change (h.dispatch react.logged i).world.2 = _
    cases ht : h.bus.take? i with
    | none => simp [dispatch_of_none ht, invoked, taken?, ht]
    | some r =>
      obtain ⟨handler, e, b⟩ := r
      rw [dispatch_of_take ht, world_logged]
      simp [invoked, taken?, ht]
  | serve n =>
    simp only [act, invoked, List.append_nil, serveNth]
    split
    · rfl
    · split
      · rfl
      · simp only [serve]
        split
        · rfl
        · split <;> rfl
  | _ => simp [act, invoked, post]

theorem ended_invoke {h : Hub H W} {i : Nat} (he : h.bus.Ended i) (handler : H) (e : Event) :
    (h.shareInvoke react i handler e).offered = [] ∧ (h.invoke react handler e).bus.Ended i := by
  rw [bus_invoke]
  exact ⟨Bus.offered_shareAll_of_unwanted he.2 _, he.postAll _⟩

theorem ended_handlers {h : Hub H W} {i : Nat} (he : h.bus.Ended i) (e : Event)
    (handlers : List H) :
    (h.shareHandlers react i e handlers).offered = [] ∧
      (handlers.foldl (fun h handler => h.invoke react handler e) h).bus.Ended i := by
  induction handlers generalizing h with
  | nil => exact ⟨rfl, he⟩
  | cons handler handlers ih =>
    obtain ⟨hoffered, hended⟩ := ended_invoke (h := h) he handler e
    obtain ⟨hrest, hended⟩ := ih hended
    exact ⟨by rw [shareHandlers, Share.offered_append, hoffered, hrest]; rfl, hended⟩

/-- A step of a publication offers an event to one place at most. -/
theorem bus_serveNth (h : Hub H W) (n : Nat) :
    (h.serveNth n).1.bus = h.bus ∨ ∃ i e, (h.serveNth n).1.bus = (h.bus.offer i e).1 := by
  rw [serveNth]
  split
  · exact .inl rfl
  · split
    · exact .inl rfl
    · next b _ _ =>
      simp only [serve]
      split
      · exact .inl rfl
      · next i rest _ =>
        split
        · exact .inr ⟨i, b.event, rfl⟩
        · exact .inl rfl
        · exact .inl rfl

theorem ended_serveNth {h : Hub H W} {i : Nat} (he : h.bus.Ended i) (n : Nat) :
    (h.serveNth n).1.bus.Ended i := by
  rcases h.bus_serveNth n with hbus | ⟨j, e, hbus⟩
  · rwa [hbus]
  · rw [hbus]
    exact he.offer j e

/-- What has ended stays so, and nothing is offered to it. -/
theorem ended_act (react : Reactor H W) {h : Hub H W} {i : Nat} (he : h.bus.Ended i)
    (a : Action H) :
    (h.share react i a).offered = [] ∧ (h.act react a).1.bus.Ended i := by
  cases a with
  | subscribe kind handler => exact ⟨rfl, he.subscribe kind handler⟩
  | unsubscribe j => exact ⟨rfl, he.unsubscribe j⟩
  | post e =>
    have hoffered := Bus.offered_shareAll_of_unwanted he.2 [e]
    rw [Bus.shareAll_singleton] at hoffered
    exact ⟨hoffered, he.postAll [e]⟩
  | announce e => exact ended_handlers he e (h.bus.handlers e.kind)
  | publish e =>
    have hoffered : (h.share react i (.publish e)).offered = [] := by simp [share, he.2]
    exact ⟨hoffered, he⟩
  | serve n =>
    refine ⟨?_, ended_serveNth he n⟩
    rw [share]
    split
    · split <;> rfl
    · rfl
  | dispatch j =>
    change _ ∧ (h.dispatch react j).bus.Ended i
    cases ht : h.bus.take? j with
    | none =>
      rw [dispatch_of_none ht]
      exact ⟨by simp [share, ht], he⟩
    | some r =>
      obtain ⟨handler, e, b⟩ := r
      rw [dispatch_of_take ht]
      simp only [share, ht]
      exact ended_invoke (he.take? ht) handler e
  | shutdown => exact ⟨rfl, Bus.ended_shutdown he.1⟩
  | halt j => exact ⟨rfl, he.halt j⟩

theorem ended_run (react : Reactor H W) {h : Hub H W} {i : Nat} (he : h.bus.Ended i)
    (as : List (Action H)) :
    (h.shareOf react i as).offered = [] ∧ (h.run react as).1.bus.Ended i := by
  induction as generalizing h with
  | nil => exact ⟨rfl, he⟩
  | cons a as ih =>
    obtain ⟨hoffered, hended⟩ := ended_act react he a
    obtain ⟨hrest, hended⟩ := ih hended
    exact ⟨by rw [shareOf, Share.offered_append, hoffered, hrest]; rfl, hended⟩

theorem shareOf_append (h : Hub H W) (i : Nat) (as bs : List (Action H)) :
    h.shareOf react i (as ++ bs) = h.shareOf react i as ++
      (h.run react as).1.shareOf react i bs := by
  induction as generalizing h with
  | nil => exact (Share.ext rfl rfl rfl)
  | cons a as ih =>
    rw [List.cons_append, shareOf, shareOf, ih, Share.append_assoc]
    rfl

/-- Where an action offers nothing to a place and leaves it ended, nothing is offered there from
then on. -/
theorem offered_of_ended (h : Hub H W) {i : Nat} {before : List (Action H)} {a : Action H}
    (hnothing : ((h.run react before).1.share react i a).offered = [])
    (he : ((h.run react before).1.act react a).1.bus.Ended i) (after : List (Action H)) :
    (h.shareOf react i (before ++ a :: after)).offered = (h.shareOf react i before).offered := by
  rw [shareOf_append, Share.offered_append, shareOf, Share.offered_append, hnothing,
    (ended_run react he after).1, List.append_nil, List.append_nil]

/-- A dispatcher that runs takes an event where one waits. -/
theorem length_handledAt {h : Hub H W} (hs : h.InService) {i : Nat} (hq : h.bus.queue i ≠ [])
    (a : Action H) :
    (if a.isDispatchOf i then 1 else 0) ≤ (h.handledAt i a).length := by
  cases a with
  | dispatch j =>
    by_cases hij : j = i
    · subst hij
      obtain ⟨⟨handler, e, b⟩, ht⟩ := Option.isSome_iff_exists.mp (hs.bus.take?_isSome_iff.mpr hq)
      simp [Action.isDispatchOf, handledAt, taken?, ht]
    · simp [Action.isDispatchOf, hij]
  | _ => exact Nat.zero_le _

/-- A dispatcher that is run often enough gets to what waits now, whatever comes behind it. -/
theorem length_handled (react : Reactor H W) {h : Hub H W} (hs : h.InService) (i : Nat)
    {as : List (Action H)} (ha : ∀ a ∈ as, a ≠ .shutdown) :
    min (h.bus.queue i).length (as.countP (·.isDispatchOf i)) ≤ (h.handled react i as).length := by
  induction as generalizing h with
  | nil => simp
  | cons a as ih =>
    have hfirst := leads_act react hs i (ha a List.mem_cons_self)
    have hrest := ih hfirst.inService fun a' ha' => ha a' (List.mem_cons_of_mem _ ha')
    have hlength := congrArg List.length hfirst.queue
    rw [List.length_append, List.length_append] at hlength
    rw [handled_cons, List.length_append, List.countP_cons]
    by_cases hq : h.bus.queue i = []
    · simp [hq]
    · have htaken := length_handledAt hs hq a
      omega

/-- What a bus keeps to at one place when it has done a run of actions. -/
structure OnceInOrder (react : Reactor H W) (h : Hub H W) (i : Nat) (as : List (Action H)) :
    Prop where
  /-- What was handled and what waits is what was accepted, in that order. -/
  inOrder : h.handled react i as ++ (h.run react as).1.bus.queue i = (h.shareOf react i as).accepted
  /-- Every offer was accepted once, or missed it for want of room, or is still to be accepted. -/
  once :
    ((h.shareOf react i as).accepted ++ (h.shareOf react i as).missed ++
    (h.run react as).1.owed i).Perm
    (h.shareOf react i as).offered
  bounded : ((h.run react as).1.bus.queue i).length ≤ h.bus.capacity
  /-- Whatever happens next, the dispatcher hands out all that was accepted, if it runs as often as
  events wait. -/
  drained : ∀ more, (∀ a ∈ more, a ≠ .shutdown) →
    ((h.run react as).1.bus.queue i).length ≤ more.countP (·.isDispatchOf i) →
    (h.shareOf react i as).accepted <+: h.handled react i (as ++ more)
  /-- Nothing is offered after the end of a subscription. -/
  ended : ∀ before after, as = before ++ .unsubscribe i :: after →
    i < (h.run react before).1.bus.subscriptions.length →
    (h.shareOf react i as).offered = (h.shareOf react i before).offered

/-- Order and number are read off what a run leads to at the place. -/
theorem onceInOrder_run (react : Reactor H W) {h : Hub H W} (hs : h.InService) {i : Nat}
    (hq : h.bus.queue i = []) (howed : h.owed i = []) {as : List (Action H)}
    (ha : ∀ a ∈ as, a ≠ .shutdown) : OnceInOrder react h i as where
  inOrder := by
    have hqueue := (leads_run react hs i ha).queue
    rwa [hq, List.nil_append] at hqueue
  once := by
    have hperm := (leads_run react hs i ha).owed
    rwa [howed, List.append_nil] at hperm
  bounded := by
    have hl := leads_run react hs i ha
    rw [← hl.capacity]
    exact hl.inService.bus.length_queue_le i
  drained := by
    intro more hmore hcount
    have hl := leads_run react hs i ha
    have hnext := leads_run react hl.inService i hmore
    have hlength := length_handled react hl.inService i hmore
    rw [Nat.min_eq_left hcount] at hlength
    have hprefix : (h.run react as).1.bus.queue i <+: (h.run react as).1.handled react i more :=
      List.prefix_of_prefix_length_le (List.prefix_append _ _)
        (hnext.queue ▸ List.prefix_append _ _) hlength
    have hqueue := hl.queue
    rw [hq, List.nil_append] at hqueue
    rw [← hqueue, handled_append]
    exact (List.prefix_append_right_inj _).mpr hprefix
  ended := by
    rintro before after rfl hi
    have hended : ((h.run react before).1.act react (.unsubscribe i)).1.bus.Ended i :=
      Bus.ended_unsubscribe hi
    exact offered_of_ended h rfl hended after

/-- From a bus without subscriptions, whatever is done short of a shutdown: every place gets its
events once and in order, and all handlers of an announcement are run before it is over, each once,
in the order of their subscriptions, whoever of them breaks off. -/
theorem delivered_once_in_order (react : Reactor H W) (capacity : Nat) (w : W) (m : Metrics)
    (as : List (Action H)) (ha : ∀ a ∈ as, a ≠ .shutdown) :
    (∀ i, OnceInOrder react { bus := Bus.new capacity, world := w, metrics := m } i as) ∧
      ∀ (h : Hub H (W × List (H × Event))) e,
        (h.act react.logged (.announce e)).1.world.2 =
          h.world.2 ++ (h.bus.subscriptions.filter (·.wants e.kind)).map fun s =>
            (s.handler, e) := by
  refine ⟨fun i => ?_, fun h e => act_logged react h (.announce e)⟩
  have hs : ({ bus := Bus.new capacity, world := w, metrics := m } : Hub H W).InService :=
    ⟨Bus.inService_new capacity, nofun⟩
  exact onceInOrder_run react hs rfl rfl ha

/-- Two handlers that put down what they were given, one of which breaks off every time. -/
def stumbling : Reactor Bool (List (Bool × Event)) := fun handler e w m =>
  { world := w ++ [(handler, e)], metrics := m, panicked := handler }

/-- A queue for one event is too short for the second; the third waits for room, and gets it
although its subscription ends. -/
def overflowing : List (Action Bool) :=
  [.subscribe .attemptedCancel true, .subscribe .attemptedCancel false, .post (.attemptedCancel 1),
    .post (.attemptedCancel 2), .publish (.attemptedCancel 3), .serve 0, .dispatch 0, .serve 0,
    .unsubscribe 0, .post (.attemptedCancel 4), .announce (.attemptedCancel 5), .dispatch 0,
    .dispatch 1, .serve 0, .serve 0]

theorem overflowing_delivered :
    let h : Hub Bool (List (Bool × Event)) := { bus := Bus.new 0, world := [] }
    (∀ a ∈ overflowing, a ≠ .shutdown) ∧ OnceInOrder stumbling h 0 overflowing ∧
      h.handled stumbling 0 overflowing = [.attemptedCancel 1, .attemptedCancel 3] ∧
      (h.shareOf stumbling 0 overflowing).missed = [.attemptedCancel 2] ∧
      h.handled stumbling 1 overflowing = [.attemptedCancel 1] ∧
      (h.run stumbling overflowing).1.bus.queue 1 = [.attemptedCancel 3] ∧
      (h.shareOf stumbling 1 overflowing).missed = [.attemptedCancel 2, .attemptedCancel 4] := by
  have hlasting : ∀ a ∈ overflowing, a ≠ .shutdown := by simp [overflowing]
  exact ⟨hlasting, (delivered_once_in_order stumbling 0 [] {} overflowing hlasting).1 0, by decide⟩

end Hub

end VenueGateway
