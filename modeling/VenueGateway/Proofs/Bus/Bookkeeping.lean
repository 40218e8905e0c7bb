import Mathlib.Data.Set.Card
import VenueGateway.Proofs.Bus.OnceInOrder
import VenueGateway.Proofs.Bus.Roll

/-!
The books that a bus keeps over its subscriptions, in runs where they are made, ended and cleared
between publications of every sort. The history of a run is what was done in it and what the callers
were told. What the roll of the bus says is what this history says: a subscription lasts from the
call that was told its name until a call that ends it, and a name is told once.
-/

namespace VenueGateway

namespace Hub

variable {H W : Type} {react : Reactor H W}

def Answer.name? : Answer → Option Nat
  | .name i => some i
  | _ => none

def names (answers : List Answer) : List Nat := answers.filterMap Answer.name?

/-- What is done in a run, each with what its caller is told. -/
def history (react : Reactor H W) (h : Hub H W) (as : List (Action H)) : List (Action H × Answer) :=
  as.zip (h.run react as).2

/-- A subscription was made in a history, and neither its end nor a shutdown came behind it. -/
def Lasts (history : List (Action H × Answer)) (s : Standing H) : Prop :=
  ∃ before after, history = before ++ (.subscribe s.kind s.handler, .name s.name) :: after ∧
    ∀ call ∈ after, call.1 ≠ .unsubscribe s.name ∧ call.1 ≠ .shutdown

/-- What the seats of a bus become at an action. -/
def seatsAfter (seats : List (Option (EventKind × H))) : Action H → List (Option (EventKind × H))
  | .subscribe kind handler => seats ++ [some (kind, handler)]
  | .unsubscribe i => seats.set i none
  | .shutdown => seats.map fun _ => none
  | _ => seats

/-- What the roll of a bus becomes at a call. -/
def rollAfter (roll : List (Standing H)) : Action H × Answer → List (Standing H)
  | (.subscribe kind handler, .name i) => roll ++ [⟨i, kind, handler⟩]
  | (.unsubscribe i, _) => roll.filter fun s => s.name ≠ i
  | (.shutdown, _) => []
  | _ => roll

theorem names_cons (answer : Answer) (answers : List Answer) :
    names (answer :: answers) = answer.name?.toList ++ names answers := by
  cases hname : answer.name? <;> simp [names, hname]

section Step

theorem seats_invoke (h : Hub H W) (handler : H) (e : Event) :
    (h.invoke react handler e).bus.seats = h.bus.seats := by
  rw [bus_invoke, Bus.seats_postAll]

theorem seats_handlers (h : Hub H W) (e : Event) (handlers : List H) :
    (handlers.foldl (fun h handler => h.invoke react handler e) h).bus.seats = h.bus.seats := by
  induction handlers generalizing h with
  | nil => rfl
  | cons handler handlers ih => rw [List.foldl_cons, ih, seats_invoke]

theorem seats_dispatch (react : Reactor H W) (h : Hub H W) (i : Nat) :
    (h.dispatch react i).bus.seats = h.bus.seats := by
  cases ht : h.bus.take? i with
  | none => rw [dispatch_of_none ht]
  | some r =>
    obtain ⟨handler, e, b⟩ := r
    rw [dispatch_of_take ht, seats_invoke]
    exact Bus.seats_take? ht

theorem seats_serveNth (h : Hub H W) (n : Nat) : (h.serveNth n).1.bus.seats = h.bus.seats := by
  rcases h.bus_serveNth n with hbus | ⟨i, e, hbus⟩
  · rw [hbus]
  · rw [hbus, Bus.seats_offer]

/-- Nothing but a call for it changes who sits where. -/
theorem seats_act (react : Reactor H W) (h : Hub H W) (a : Action H) :
    (h.act react a).1.bus.seats = seatsAfter h.bus.seats a := by
  cases a with
  | subscribe kind handler => exact h.bus.seats_subscribe kind handler
  | unsubscribe i => exact h.bus.seats_unsubscribe i
  | post e => exact h.bus.seats_post e
  | announce e => exact seats_handlers h e _
  | publish e => rfl
  | serve n => exact h.seats_serveNth n
  | dispatch i => exact h.seats_dispatch react i
  | shutdown => exact h.bus.seats_shutdown
  | halt i => exact h.bus.seats_halt i

theorem roll_act (react : Reactor H W) (h : Hub H W) (a : Action H) :
    (h.act react a).1.bus.roll = rollAfter h.bus.roll (a, (h.act react a).2) := by
  cases a with
  | subscribe kind handler => exact h.bus.roll_subscribe kind handler
  | unsubscribe i => exact h.bus.roll_unsubscribe i
  | shutdown => exact h.bus.roll_shutdown
  | _ => rw [Bus.roll, seats_act]; rfl

/-- No publication tells a name. -/
theorem name?_serveNth (h : Hub H W) (n : Nat) : (h.serveNth n).2.name? = none := by
  rw [serveNth]
  split
  · rfl
  · split <;> rfl

/-- The name that is told is the place of the seat that is taken. -/
theorem range_append_name (react : Reactor H W) (h : Hub H W) (a : Action H) :
    List.range h.bus.seats.length ++ (h.act react a).2.name?.toList =
      List.range (h.act react a).1.bus.seats.length := by
  rw [seats_act]
  cases a with
  | subscribe kind handler =>
    rw [seatsAfter, List.length_append, List.length_singleton, List.range_succ, Bus.length_seats]
    rfl
  | unsubscribe i =>
    rw [seatsAfter, List.length_set]
    exact List.append_nil _
  | shutdown =>
    rw [seatsAfter, List.length_map]
    exact List.append_nil _
  | serve n =>
    have hname : (h.act react (.serve n)).2.name? = none := h.name?_serveNth n
    rw [hname]
    exact List.append_nil _
  | _ => exact List.append_nil _

end Step

section Run

/-- The names that are told in a run are those of the seats that are added, in order. -/
theorem range_append_names (react : Reactor H W) (h : Hub H W) (as : List (Action H)) :
    List.range h.bus.seats.length ++ names (h.run react as).2 =
      List.range (h.run react as).1.bus.seats.length := by
  induction as generalizing h with
  | nil => exact List.append_nil _
  | cons a as ih =>
    change List.range h.bus.seats.length ++
      names ((h.act react a).2 :: ((h.act react a).1.run react as).2) = _
    rw [names_cons, ← List.append_assoc, range_append_name]
    exact ih (h.act react a).1

theorem roll_run (react : Reactor H W) (h : Hub H W) (as : List (Action H)) :
    (h.run react as).1.bus.roll = (h.history react as).foldl rollAfter h.bus.roll := by
  induction as generalizing h with
  | nil => rfl
  | cons a as ih =>
    change ((h.act react a).1.run react as).1.bus.roll =
      ((a, (h.act react a).2) :: (h.act react a).1.history react as).foldl rollAfter h.bus.roll
    rw [ih, roll_act, List.foldl_cons]

/-- What a call leaves of a subscription, and what it adds. -/
theorem mem_rollAfter {roll : List (Standing H)} {call : Action H × Answer} {s : Standing H} :
    s ∈ rollAfter roll call ↔ call = (.subscribe s.kind s.handler, .name s.name) ∨
      s ∈ roll ∧ call.1 ≠ .unsubscribe s.name ∧ call.1 ≠ .shutdown := by
  obtain ⟨a, answer⟩ := call
  cases a with
  | subscribe kind handler =>
    cases answer with
    | name i =>
      have hnew : s = ⟨i, kind, handler⟩ ↔ kind = s.kind ∧ handler = s.handler ∧ i = s.name := by
        cases s
        simp only [Standing.mk.injEq]
        tauto
      simp only [rollAfter, List.mem_append, List.mem_singleton, hnew]
      simp
      tauto
    | _ => simp [rollAfter]
  | unsubscribe i =>
    have hother : s.name = i ↔ i = s.name := eq_comm
    simp [rollAfter, hother]
  | shutdown => simp [rollAfter]
  | _ => simp [rollAfter]

/-- What one more call does to the subscriptions that last. -/
theorem lasts_concat {history : List (Action H × Answer)} {call : Action H × Answer}
    {s : Standing H} :
    Lasts (history ++ [call]) s ↔ call = (.subscribe s.kind s.handler, .name s.name) ∨
      Lasts history s ∧ call.1 ≠ .unsubscribe s.name ∧ call.1 ≠ .shutdown := by
  constructor
  · rintro ⟨before, after, heq, hafter⟩
    rcases List.eq_nil_or_concat' after with rfl | ⟨after, last, rfl⟩
    · exact .inl (List.singleton_inj.mp (List.append_inj' heq rfl).2)
    · -- The last call stands behind the subscription, so it is not the one that made it.
      rw [← List.cons_append, ← List.append_assoc] at heq
      obtain ⟨rfl, hlast⟩ := List.append_inj' heq rfl
      rw [List.singleton_inj.mp hlast]
      refine .inr
        ⟨⟨before, after, rfl, fun call' hcall' => hafter call' (List.mem_append_left _ hcall')⟩, ?_⟩
      exact hafter last (List.mem_append_right _ (List.mem_singleton.mpr rfl))
  · rintro (rfl | ⟨⟨before, after, rfl, hafter⟩, hcall⟩)
    · exact ⟨history, [], rfl, nofun⟩
    · refine ⟨before, after ++ [call], by simp, fun call' hcall' => ?_⟩
      rcases List.mem_append.mp hcall' with hmem | hmem
      · exact hafter call' hmem
      · rw [List.mem_singleton.mp hmem]
        exact hcall

/-- Who is on the roll at the end of a history has come in it to stay. -/
theorem mem_foldl_rollAfter {history : List (Action H × Answer)} {s : Standing H} :
    s ∈ history.foldl rollAfter [] ↔ Lasts history s := by
  induction history using List.reverseRecOn with
  | nil => simp [Lasts]
  | append_singleton history call ih =>
    rw [List.foldl_append, List.foldl_cons, List.foldl_nil, mem_rollAfter, lasts_concat, ih]

end Run

/-- What subscribers can rely on when a bus has done a run of actions. -/
structure Books (react : Reactor H W) (h : Hub H W) (as : List (Action H)) : Prop where
  /-- Whoever subscribes next is told a name above all that were told. -/
  fresh : ∀ kind handler, ∃ i,
    ((h.run react as).1.act react (.subscribe kind handler)).2 = .name i ∧
    ∀ j ∈ names (h.run react as).2, j < i
  /-- Whoever unsubscribes next is told whether there was such a subscription; if so it is taken
  out, and no other loses its place, and if not nothing changes. -/
  removed : ∀ i, ∃ found, ((h.run react as).1.act react (.unsubscribe i)).2 = .flag found ∧
    (found = true ↔ ∃ kind handler, Lasts (h.history react as) ⟨i, kind, handler⟩) ∧
    (found = false → ((h.run react as).1.act react (.unsubscribe i)).1 = (h.run react as).1) ∧
    ∀ kind, ((h.run react as).1.act react (.unsubscribe i)).1.bus.subscribers kind =
      ((h.run react as).1.bus.subscribers kind).filter fun s => s.1 ≠ i
  /-- The subscriptions to a kind are those that last, in the order in which they were named. -/
  lasting : ∀ kind i handler,
    (i, handler) ∈ (h.run react as).1.bus.subscribers kind ↔
      Lasts (h.history react as) ⟨i, kind, handler⟩
  ordered : ∀ kind, ((h.run react as).1.bus.subscribers kind).Pairwise fun s s' => s.1 < s'.1
  counted : ∀ kind, (h.run react as).1.bus.audience kind =
    {i | ∃ handler, Lasts (h.history react as) ⟨i, kind, handler⟩}.ncard
  total : (h.run react as).1.bus.subscribedCount =
    (EventKind.all.map (h.run react as).1.bus.audience).sum
  /-- Each way to publish goes to the subscriptions to the kind of its event. -/
  addressed : ∀ e, (h.run react as).1.bus.post e =
      (h.run react as).1.bus.offerAll e (((h.run react as).1.bus.subscribers e.kind).map (·.1)) ∧
    ((h.run react as).1.broadcastOf e).targets =
      ((h.run react as).1.bus.subscribers e.kind).map (·.1) ∧
    (h.run react as).1.invoked (.announce e) =
      ((h.run react as).1.bus.subscribers e.kind).map fun s => (s.2, e)
  /-- What was named before a shutdown is behind it no subscription to any kind, is offered nothing
  more by anybody, and is not touched by a publication. -/
  cutOff : ∀ before after, as = before ++ .shutdown :: after → ∀ i ∈ names (h.run react before).2,
    (∀ kind, ∀ s ∈ (h.run react as).1.bus.subscribers kind, s.1 ≠ i) ∧
    (h.shareOf react i as).offered = (h.shareOf react i before).offered ∧
    ∀ e, ((h.run react as).1.bus.post e).1.subscriptions[i]? =
      (h.run react as).1.bus.subscriptions[i]?

section Books

variable {h : Hub H W}

theorem mem_roll (hn : h.bus.subscriptions = []) (as : List (Action H)) {s : Standing H} :
    s ∈ (h.run react as).1.bus.roll ↔ Lasts (h.history react as) s := by
  have hroll : h.bus.roll = [] := by rw [Bus.roll, Bus.seats, hn]; rfl
  rw [roll_run, hroll, mem_foldl_rollAfter]

theorem names_eq_range (hn : h.bus.subscriptions = []) (as : List (Action H)) :
    names (h.run react as).2 = List.range (h.run react as).1.bus.subscriptions.length := by
  have hnames := range_append_names react h as
  rwa [Bus.length_seats, hn, Bus.length_seats] at hnames

/-- Who is subscribed after a run is told by its history alone. -/
theorem mem_subscribers (hn : h.bus.subscriptions = []) (as : List (Action H)) (kind : EventKind)
    (i : Nat) (handler : H) :
    (i, handler) ∈ (h.run react as).1.bus.subscribers kind ↔
    Lasts (h.history react as) ⟨i, kind, handler⟩ := by
  rw [Bus.subscribers_eq, ← mem_roll hn]
  constructor
  · intro hmem
    obtain ⟨s, hs, heq⟩ := List.mem_map.mp hmem
    obtain ⟨hs, hkind⟩ := List.mem_filter.mp hs
    obtain ⟨rfl, rfl⟩ := Prod.mk.inj heq
    rwa [← of_decide_eq_true hkind]
  · intro hmem
    exact List.mem_map.mpr ⟨_, List.mem_filter.mpr ⟨hmem, decide_eq_true rfl⟩, rfl⟩

/-- The handlers that an announcement runs are those of the subscribers, in their order. -/
theorem invoked_announce (h : Hub H W) (e : Event) :
    h.invoked (.announce e) = (h.bus.subscribers e.kind).map fun s => (s.2, e) := by
  have hhandlers : (h.bus.subscribers e.kind).map (fun s => (s.2, e)) =
      ((h.bus.subscribers e.kind).map (·.2)).map fun handler => (handler, e) := by
    rw [List.map_map]
    rfl
  rw [hhandlers, Bus.map_snd_subscribers, Bus.handlers, List.map_map]
  rfl

/-- By induction on the run, since the roll changes with every call as `rollAfter` says. -/
theorem books_run (react : Reactor H W) (hn : h.bus.subscriptions = []) (as : List (Action H)) :
    Books react h as where
  fresh kind handler := by
    refine ⟨_, rfl, fun j hj => ?_⟩
    rw [names_eq_range hn] at hj
    exact List.mem_range.mp hj
  removed i := by
    refine ⟨((h.run react as).1.bus.unsubscribe i).2, rfl, ?_, ?_,
      (h.run react as).1.bus.subscribers_unsubscribe i⟩
    · simp only [Bus.unsubscribe_snd_iff, mem_roll hn]
    · intro hfound
      change { (h.run react as).1 with bus := ((h.run react as).1.bus.unsubscribe i).1 } =
        (h.run react as).1
      rw [Bus.unsubscribe_fst_of_snd hfound]
  lasting := mem_subscribers hn as
  ordered := Bus.pairwise_subscribers _
  counted kind := by
    have hset : {i | ∃ handler, Lasts (h.history react as) ⟨i, kind, handler⟩} =
        (((h.run react as).1.bus.recipients kind).toFinset : Set Nat) := by
      ext i
      simp [← Bus.map_fst_subscribers, mem_subscribers hn]
    rw [hset, Set.ncard_coe_finset, List.toFinset_card_of_nodup (Bus.nodup_recipients _ kind),
      Bus.length_recipients]
  total := Bus.subscribedCount_eq _
  addressed e := by
    refine ⟨by rw [Bus.map_fst_subscribers]; rfl, (Bus.map_fst_subscribers _ e.kind).symm,
      invoked_announce _ e⟩
  cutOff := by
    rintro before after rfl i hi
    rw [names_eq_range hn] at hi
    have hshut : ((h.run react before).1.act react .shutdown).1.bus.Ended i :=
      Bus.ended_shutdown (List.mem_range.mp hi)
    have hended : (h.run react (before ++ .shutdown :: after)).1.bus.Ended i := by
      rw [run_append]
      exact (ended_run react hshut after).2
    refine ⟨fun kind s hs => ?_, offered_of_ended h rfl hshut after, hended.getElem?_post⟩
    rintro rfl
    refine hended.not_mem_recipients kind ?_
    rw [← Bus.map_fst_subscribers]
    exact List.mem_map_of_mem hs

end Books

/-- From a bus without subscriptions, whatever is done with it: names are told once, whoever
unsubscribes is told the truth and nobody else is moved, numbers of subscriptions are those of the
ones that last, and a shutdown cuts off all that were made before it. Handlers of an announcement
are those of the subscribers, run in their order. -/
theorem subscriptions_kept (react : Reactor H W) (capacity : Nat) (w : W) (m : Metrics)
    (as : List (Action H)) :
    Books react { bus := Bus.new capacity, world := w, metrics := m } as ∧
      ∀ (h : Hub H (W × List (H × Event))) e, (h.act react.logged (.announce e)).1.world.2 =
        h.world.2 ++ (h.bus.subscribers e.kind).map fun s => (s.2, e) := by
  refine ⟨books_run react rfl as, fun h e => ?_⟩
  rw [act_logged, invoked_announce]

/-- A name that is known, one that is used up, one that a shutdown has cleared and one that nobody
was ever told. -/
example :
    let react : Reactor Unit Unit := fun _ _ w m => { world := w, metrics := m }
    (({ bus := Bus.new 1, world := () } : Hub Unit Unit).run react
      [.subscribe .fillArrived (), .subscribe .orderCanceled (), .unsubscribe 0, .unsubscribe 0,
        .shutdown, .subscribe .fillArrived (), .unsubscribe 1, .unsubscribe 7,
        .announce (.orderCanceled "")]).2 =
      [.name 0, .name 1, .flag true, .flag false, .nothing, .name 2, .flag false, .flag false,
        .reached 0] := by
  decide

end Hub

end VenueGateway
