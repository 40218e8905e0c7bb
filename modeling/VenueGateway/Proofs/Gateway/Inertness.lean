import VenueGateway.Proofs.Gateway.Reconciliation

/-!
Texts that the gateway makes nothing of: no frames, frames of operations without a handler, and
replies whose payload does not decode. Whatever their number and place among the others, all that
remains of them is in the counters, and nothing that the gateway does depends on those.
-/

namespace VenueGateway

open Json (Value)

def Metrics.uncounted (m : Metrics) : Metrics := { m with counters := .empty }

/-- What listeners do with an event does not depend on the counters. -/
theorem Listener.react_uncounted (order : VisitOrder Tracker.Entry) (listener : Listener)
    (e : Event) (w : Floor) (m : Metrics) :
    react order listener e w m.uncounted =
      { react order listener e w m with
        metrics := (react order listener e w m).metrics.uncounted } := by
  cases listener with
  | tracker =>
    cases e with
    | attemptedCancel id =>
      simp only [react, Tracker.handle]
      split <;> rfl
    | fillArrived f =>
      simp only [react, Tracker.handle]
      split <;> rfl
    | _ => rfl
  | outbox => rfl
  | observer name panics => rfl

namespace Hub

variable {order : VisitOrder Tracker.Entry} {h h' : Hub Listener Floor}

def uncounted (h : Hub Listener Floor) : Hub Listener Floor :=
  { h with metrics := h.metrics.uncounted }

theorem bus_uncounted (h : Hub Listener Floor) : h.uncounted.bus = h.bus := rfl

theorem uncounted_foldl_post (heq : h.uncounted = h'.uncounted) (es : List Event) :
    (es.foldl (fun h e => (h.post e).1) h).uncounted =
      (es.foldl (fun h e => (h.post e).1) h').uncounted := by
  induction es generalizing h h' with
  | nil => exact heq
  | cons e es ih =>
    refine ih ?_
    change (h.uncounted.post e).1.uncounted = (h'.uncounted.post e).1.uncounted
    rw [heq]

theorem uncounted_invoke (h : Hub Listener Floor) (listener : Listener) (e : Event) :
    (h.uncounted.invoke (Listener.react order) listener e).uncounted =
      (h.invoke (Listener.react order) listener e).uncounted := by
  have hreact : Listener.react order listener e h.uncounted.world h.uncounted.metrics = _ :=
    Listener.react_uncounted order listener e h.world h.metrics
  rw [invoke, invoke, hreact]
  refine uncounted_foldl_post ?_ _
  rfl

theorem uncounted_dispatch (h : Hub Listener Floor) (i : Nat) :
    (h.uncounted.dispatch (Listener.react order) i).uncounted =
      (h.dispatch (Listener.react order) i).uncounted := by
  cases ht : h.bus.take? i with
  | none => rw [dispatch_of_none ht, dispatch_of_none (h := h.uncounted) ht]; rfl
  | some r =>
    obtain ⟨listener, e, b⟩ := r
    rw [dispatch_of_take ht, dispatch_of_take (h := h.uncounted) ht]
    exact uncounted_invoke { h with bus := b } listener e

theorem reactions_uncounted (h : Hub Listener Floor) (i : Nat) :
    h.uncounted.reactions (Listener.react order) i = h.reactions (Listener.react order) i := by
  cases ht : h.bus.take? i with
  | none => simp [reactions, uncounted, ht]
  | some r =>
    obtain ⟨listener, e, b⟩ := r
    simp [reactions, uncounted, ht, Listener.react_uncounted]

/-- Dispatchers at work on hubs that differ in counters alone do the same. -/
theorem uncounted_dispatches (order : VisitOrder Tracker.Entry) (heq : h.uncounted = h'.uncounted)
    (steps : List Nat) :
    (h.dispatches (Listener.react order) steps).uncounted =
      (h'.dispatches (Listener.react order) steps).uncounted ∧
      h.allReactions (Listener.react order) steps =
        h'.allReactions (Listener.react order) steps := by
  induction steps generalizing h h' with
  | nil => exact ⟨heq, rfl⟩
  | cons i steps ih =>
    have hnext : (h.dispatch (Listener.react order) i).uncounted =
        (h'.dispatch (Listener.react order) i).uncounted := by
      rw [← uncounted_dispatch, heq, uncounted_dispatch]
    have hsaid : h.reactions (Listener.react order) i = h'.reactions (Listener.react order) i := by
      rw [← reactions_uncounted, heq, reactions_uncounted]
    obtain ⟨hrest, hreactions⟩ := ih hnext
    exact ⟨hrest, by rw [allReactions, allReactions, hsaid, hreactions]⟩

/-- On an idle bus there is nothing to hand out. -/
theorem dispatches_of_idle (order : VisitOrder Tracker.Entry) (hidle : h.bus.pending = 0)
    (steps : List Nat) :
    h.dispatches (Listener.react order) steps = h ∧
      h.allReactions (Listener.react order) steps = [] := by
  have hnone : ∀ i, h.bus.take? i = none := by
    intro i
    cases ht : h.bus.take? i with
    | none => rfl
    | some r =>
      have hqueue := Bus.queue_take? ht
      rw [Bus.queue_eq_nil_of_pending hidle] at hqueue
      cases hqueue
  induction steps with
  | nil => exact ⟨rfl, rfl⟩
  | cons i steps ih =>
    rw [dispatches_cons, allReactions, dispatch_of_none (hnone i), reactions, hnone i]
    exact ih

end Hub

namespace Gateway

/-- The operations whose replies the gateway takes, each with whether a payload decodes as its
reply. -/
def replyReaders : List (String × (Value → Bool)) := [
  (Operation.authenticate, fun v => (LoginReply.ofJson? v).isSome),
  (Operation.sendOrder, fun v => (OrderReply.ofJson? v).isSome),
  (Operation.cancelOrder, fun v => (CancelReply.ofJson? v).isSome),
  (Operation.orderStatus, fun v => (StatusReply.ofJson? v).isSome),
  (Operation.instruments, fun v => (InstrumentsReply.ofJson? v).isSome)]

/-- Whether a text is a frame of an operation whose replies the gateway takes, with a payload that
decodes as such a reply. -/
def heeds (text : String) : Bool :=
  match Frame.decode text with
  | .ok f => replyReaders.any fun r => f.route = Text.lower r.1 && f.body?.any r.2
  | .error _ => false

def uncounted (g : Gateway) : Gateway := { g with hub := g.hub.uncounted }

variable {g g' : Gateway}

theorem session_uncounted (g : Gateway) : g.uncounted.session = g.session := rfl
theorem directory_uncounted (g : Gateway) : g.uncounted.directory = g.directory := rfl
theorem visits_uncounted (g : Gateway) : g.uncounted.visits = g.visits := rfl
theorem trace_uncounted (g : Gateway) : g.uncounted.trace = g.trace := rfl
theorem hub_uncounted (g : Gateway) : g.uncounted.hub = g.hub.uncounted := rfl

theorem uncounted_foldl_offer (heq : g.uncounted = g'.uncounted) (es : List Event) :
    (es.foldl offer g).uncounted = (es.foldl offer g').uncounted := by
  induction es generalizing g g' with
  | nil => exact heq
  | cons e es ih =>
    refine ih ?_
    change (g.uncounted.offer e).uncounted = (g'.uncounted.offer e).uncounted
    rw [heq]

/-- What a frame leads to does not depend on the counters. -/
theorem uncounted_deliver (heq : g.uncounted = g'.uncounted) (f : Frame) :
    (g.deliver f).uncounted = (g'.deliver f).uncounted := by
  have hsession : g.session = g'.session := by rw [← session_uncounted, heq, session_uncounted]
  have hdirectory : g.directory = g'.directory := by
    rw [← directory_uncounted, heq, directory_uncounted]
  simp only [deliver, hsession]
  split
  · next handler _ =>
    cases handler with
    | reply kind =>
      simp only [runHandler, hdirectory]
      split
      · next effect _ =>
        refine uncounted_foldl_offer ?_ _
        change { g.uncounted with directory := effect.1 } =
          { g'.uncounted with directory := effect.1 }
        rw [heq]
      · exact heq
    | login => exact heq
    | note tag =>
      change { g.uncounted with noted := g.uncounted.noted ++ [(tag, f)] } =
        { g'.uncounted with noted := g'.uncounted.noted ++ [(tag, f)] }
      rw [heq]
  · exact heq

theorem uncounted_receive (heq : g.uncounted = g'.uncounted) (text : String) :
    (g.receive text).uncounted = (g'.receive text).uncounted := by
  simp only [receive]
  split
  · next f _ =>
    have hcounted : (g.count (.framesReceived f.route)).uncounted =
      (g'.count (.framesReceived f.route)).uncounted := heq
    exact uncounted_deliver hcounted f
  · exact heq

/-- A gateway that knows which replies are its own, and whose bus is idle. -/
structure Listening (g : Gateway) : Prop where
  routes : ∀ operation, g.session.handler? operation =
    (({} : Session ReplyHandler).registerAll replyHandlers).handler? operation
  idle : g.hub.bus.pending = 0

theorem Listening.congr (hg : g.Listening) (hs : g'.session = g.session)
    (hidle : g'.hub.bus.pending = 0) :
    g'.Listening where
  routes := fun operation => by rw [hs, hg.routes]
  idle := hidle

/-- A frame that is not heeded has no handler, or one that makes nothing of its payload. -/
theorem deliver_of_not_heeds (hg : g.Listening) {f : Frame}
    (hnot : ∀ r ∈ replyReaders, f.route = Text.lower r.1 → f.body?.any r.2 = false) :
    g.deliver f = g ∨ g.deliver f = g.count .parseFailures := by
  have hunread : ∀ {α : Type} (read : Value → Option α),
      f.body?.any (fun v => (read v).isSome) = false →
      f.body?.bind read = none := by
    intro α read hb
    cases hv : f.body? with
    | none => rfl
    | some v => simpa [hv] using hb
  have hreply : ∀ kind, g.session.handler? f.operation = some (.reply kind) →
      kind.effect? g.directory f = none →
      g.deliver f = g ∨ g.deliver f = g.count .parseFailures := fun kind hh he =>
    .inr (by simp only [deliver, hh, runHandler, he])
  have hroute := hg.routes f.operation
  simp only [Session.registerAll, replyHandlers, List.foldl_cons, List.foldl_nil,
    Session.handler?_register] at hroute
  split_ifs at hroute with hinstruments hstatus hcancel horder hlogin
  · have hbody :=
      hunread InstrumentsReply.ofJson?
      (hnot _ (.tail _ (.tail _ (.tail _ (.tail _ (.head _))))) hinstruments.symm)
    exact hreply _ hroute (by simp [ReplyKind.effect?, hbody])
  · have hbody :=
      hunread StatusReply.ofJson? (hnot _ (.tail _ (.tail _ (.tail _ (.head _)))) hstatus.symm)
    exact hreply _ hroute (by simp [ReplyKind.effect?, hbody])
  · have hbody := hunread CancelReply.ofJson? (hnot _ (.tail _ (.tail _ (.head _))) hcancel.symm)
    exact hreply _ hroute (by simp [ReplyKind.effect?, hbody])
  · have hbody := hunread OrderReply.ofJson? (hnot _ (.tail _ (.head _)) horder.symm)
    exact hreply _ hroute (by simp [ReplyKind.effect?, hbody])
  · exact .inl (by simp only [deliver, hroute, runHandler])
  · have hnone : (({} : Session ReplyHandler).handler? f.operation) = none := rfl
    exact .inl (by simp only [deliver, hroute, hnone])

/-- A text that is not heeded is counted, and that is all. -/
theorem uncounted_receive_of_not_heeds (hg : g.Listening) {text : String}
    (hnot : heeds text = false) :
    (g.receive text).uncounted = g.uncounted := by
  rw [receive]
  split
  · next f hf =>
    have hlistening : (g.count (.framesReceived f.route)).Listening := hg.congr rfl hg.idle
    have hunread : ∀ r ∈ replyReaders, f.route = Text.lower r.1 → f.body?.any r.2 = false := by
      intro r hr hroute
      simp only [heeds, hf, List.any_eq_false] at hnot
      simpa [hroute] using hnot r hr
    obtain hsame | hcounted := deliver_of_not_heeds hlistening hunread
    · rw [hsame]
      rfl
    · rw [hcounted]
      rfl
  · rfl

/-- A text that comes in, and the places whose dispatchers work when it has been handed on. -/
structure Receipt where
  text : String
  steps : List Nat

/-- The gateway when a text has come in and the dispatchers have worked. -/
def hear (g : Gateway) (r : Receipt) : Gateway := g.run (.receive r.text :: r.steps.map .dispatch)

/-- All that is published on a text, by the desk and by listeners. -/
def publishedOn (g : Gateway) (r : Receipt) : List Event :=
  let g' := g.receive r.text
  (g'.trace.drop g.trace.length).filterMap Act.event? ++ g'.hub.allReactions g'.reactor r.steps

def hearAll (g : Gateway) : List Receipt → Gateway
  | [] => g
  | r :: rs => hearAll (g.hear r) rs

def publishedOnAll (g : Gateway) : List Receipt → List Event
  | [] => []
  | r :: rs => g.publishedOn r ++ publishedOnAll (g.hear r) rs

def DrainedOnAll (g : Gateway) : List Receipt → Prop
  | [] => True
  | r :: rs => (g.hear r).hub.bus.pending = 0 ∧ DrainedOnAll (g.hear r) rs

instance decidableDrainedOnAll (g : Gateway) : (rs : List Receipt) → Decidable (g.DrainedOnAll rs)
  | [] => inferInstanceAs (Decidable True)
  | r :: rs =>
    have := decidableDrainedOnAll (g.hear r) rs
    inferInstanceAs (Decidable ((g.hear r).hub.bus.pending = 0 ∧ (g.hear r).DrainedOnAll rs))

theorem hear_eq (g : Gateway) (r : Receipt) :
    g.hear r =
      { g.receive r.text with
        hub := (g.receive r.text).hub.dispatches (g.receive r.text).reactor r.steps } :=
  run_dispatch (g.receive r.text) r.steps

/-- Dispatchers at work in gateways that differ in counters alone do the same. -/
theorem uncounted_dispatches (heq : g.uncounted = g'.uncounted) (steps : List Nat) :
    ({ g with hub := g.hub.dispatches g.reactor steps } : Gateway).uncounted =
        ({ g' with hub := g'.hub.dispatches g'.reactor steps } : Gateway).uncounted ∧
      g.hub.allReactions g.reactor steps = g'.hub.allReactions g'.reactor steps := by
  have hhub : g.hub.uncounted = g'.hub.uncounted := by rw [← hub_uncounted, heq, hub_uncounted]
  have hvisits : g.visits = g'.visits := by rw [← visits_uncounted, heq, visits_uncounted]
  have hreactor : g.reactor = Listener.react g'.visits := by rw [reactor, hvisits]
  obtain ⟨hdone, hsaid⟩ := Hub.uncounted_dispatches g'.visits hhub steps
  rw [hreactor]
  refine ⟨?_, hsaid⟩
  change { g.uncounted with hub := (g.hub.dispatches (Listener.react g'.visits) steps).uncounted } =
    { g'.uncounted with hub := (g'.hub.dispatches (Listener.react g'.visits) steps).uncounted }
  rw [heq, hdone]

/-- With an idle bus, dispatchers have nothing to do. -/
theorem dispatches_of_idle (hidle : g.hub.bus.pending = 0) (steps : List Nat) :
    ({ g with hub := g.hub.dispatches g.reactor steps } : Gateway) = g ∧
    g.hub.allReactions g.reactor steps = [] := by
  obtain ⟨hdone, hsaid⟩ := Hub.dispatches_of_idle g.visits hidle steps
  exact ⟨by rw [reactor, hdone], by rw [reactor, hsaid]⟩

/-- Gateways that differ in counters alone do the same on a text. -/
theorem uncounted_hear (heq : g.uncounted = g'.uncounted) (r : Receipt) :
    (g.hear r).uncounted = (g'.hear r).uncounted ∧ g.publishedOn r = g'.publishedOn r := by
  have hreceive := uncounted_receive heq r.text
  have hbefore : g.trace = g'.trace := by rw [← trace_uncounted, heq, trace_uncounted]
  have hafter : (g.receive r.text).trace = (g'.receive r.text).trace := by
    rw [← trace_uncounted, hreceive, trace_uncounted]
  obtain ⟨hdone, hsaid⟩ := uncounted_dispatches hreceive r.steps
  rw [hear_eq, hear_eq, publishedOn, publishedOn, hbefore, hafter, hsaid]
  exact ⟨hdone, rfl⟩

/-- Nothing is published on a text that is not heeded, and nothing changes but the counters. -/
theorem uncounted_hear_of_not_heeds (hg : g.Listening) {r : Receipt} (hnot : heeds r.text = false) :
    (g.hear r).uncounted = g.uncounted ∧ g.publishedOn r = [] := by
  have hreceive := uncounted_receive_of_not_heeds hg hnot
  have htrace : (g.receive r.text).trace = g.trace := by
    rw [← trace_uncounted, hreceive, trace_uncounted]
  have hidle : (g.receive r.text).hub.bus.pending = 0 := by
    rw [← Hub.bus_uncounted, ← hub_uncounted, hreceive, hub_uncounted, Hub.bus_uncounted, hg.idle]
  obtain ⟨hdone, hsaid⟩ := dispatches_of_idle hidle r.steps
  rw [hear_eq, hdone, publishedOn, htrace, hsaid, List.drop_length]
  exact ⟨hreceive, rfl⟩

theorem exists_offers_eq (g : Gateway) (es : List Event) :
    ∃ hub trace, es.foldl offer g = { g with hub, trace } := by
  induction es generalizing g with
  | nil => exact ⟨g.hub, g.trace, rfl⟩
  | cons e es ih =>
    obtain ⟨hub, trace, h⟩ := ih (g.offer e)
    exact ⟨hub, trace, h⟩

/-- What a reply can change. -/
theorem exists_deliver_eq (g : Gateway) (f : Frame) :
    ∃ directory hub trace noted, g.deliver f = { g with directory, hub, trace, noted } := by
  rw [deliver]
  split
  · next handler _ =>
    cases handler with
    | login => exact ⟨_, _, _, _, rfl⟩
    | note tag => exact ⟨_, _, _, _, rfl⟩
    | reply kind =>
      rw [runHandler]
      split
      · next effect _ =>
        obtain ⟨hub, trace, h⟩ := exists_offers_eq { g with directory := effect.1 } effect.2
        exact ⟨effect.1, hub, trace, g.noted, h⟩
      · exact ⟨_, _, _, _, rfl⟩
  · exact ⟨_, _, _, _, rfl⟩

theorem exists_receive_eq (g : Gateway) (text : String) :
    ∃ directory hub trace noted, g.receive text = { g with directory, hub, trace, noted } := by
  rw [receive]
  split
  · next f _ => exact exists_deliver_eq (g.count (.framesReceived f.route)) f
  · exact ⟨_, _, _, _, rfl⟩

theorem session_hear (g : Gateway) (r : Receipt) : (g.hear r).session = g.session := by
  obtain ⟨_, _, _, _, hreceive⟩ := g.exists_receive_eq r.text
  rw [hear_eq, hreceive]

/-- Gateways that differ in counters alone, where one is spared what is not heeded. -/
theorem inert_of_uncounted (hg : g.Listening) (heq : g.uncounted = g'.uncounted) {rs : List Receipt}
    (hdrained : g.DrainedOnAll rs) :
    (g'.hearAll (rs.filter fun r => heeds r.text)).uncounted = (g.hearAll rs).uncounted ∧
      g'.publishedOnAll (rs.filter fun r => heeds r.text) = g.publishedOnAll rs ∧
      g'.DrainedOnAll (rs.filter fun r => heeds r.text) := by
  induction rs generalizing g g' with
  | nil => exact ⟨heq.symm, rfl, trivial⟩
  | cons r rs ih =>
    obtain ⟨hidle, hrest⟩ := hdrained
    have hnext : (g.hear r).Listening := hg.congr (g.session_hear r) hidle
    by_cases hr : heeds r.text = true
    · obtain ⟨hsame, hsaid⟩ := uncounted_hear heq r
      obtain ⟨hend, hpublished, hdrained⟩ := ih hnext hsame hrest
      have hidle' : (g'.hear r).hub.bus.pending = 0 := by
        rw [← Hub.bus_uncounted, ← hub_uncounted, ← hsame, hub_uncounted, Hub.bus_uncounted, hidle]
      rw [List.filter_cons_of_pos (p := fun r : Receipt => heeds r.text) hr, publishedOnAll,
        publishedOnAll, ← hsaid, hpublished]
      exact ⟨hend, rfl, hidle', hdrained⟩
    · obtain ⟨hsame, hsaid⟩ := uncounted_hear_of_not_heeds hg (Bool.eq_false_iff.mpr hr)
      rw [List.filter_cons_of_neg (p := fun r : Receipt => heeds r.text) hr, publishedOnAll, hsaid]
      exact ih hnext (hsame.trans heq) hrest

/-- Texts that are not heeded may as well not come in: the gateway publishes the same events, and is
the same in the end but for its counters. -/
theorem inert (hg : g.Listening) {rs : List Receipt} (hdrained : g.DrainedOnAll rs) :
    (g.hearAll (rs.filter fun r => heeds r.text)).uncounted = (g.hearAll rs).uncounted ∧
      g.publishedOnAll (rs.filter fun r => heeds r.text) = g.publishedOnAll rs ∧
      g.DrainedOnAll (rs.filter fun r => heeds r.text) :=
  inert_of_uncounted hg rfl hdrained

theorem listening_new (account : Account) (provider : String) (credentials : Option Credentials)
    (directory : Directory) (capacity : Nat) (pollInterval : Duration)
    (observers : List EventKind) :
    (new account provider credentials directory capacity pollInterval observers).Listening where
  routes := fun operation => by
    simp only [new, Session.registerAll, replyHandlers, List.foldl_cons, List.foldl_nil,
      Session.handler?_register]
    rfl
  idle :=
    (attentive_new account provider credentials directory capacity pollInterval observers).idle

/-- A text without meaning, the refusal of an order, a reply that does not decode, and an operation
without a handler. -/
def mixedTexts : List Receipt := [
  ⟨"hello", [0, 1]⟩,
  ⟨Frame.encode ⟨.response, 2, Operation.sendOrder,
    "\x7b\"status\":\"Rejected\",\"OrderId\":1\x7d"⟩, [2, 0, 5]⟩,
  ⟨Frame.encode ⟨.response, 4, Operation.sendOrder,
    "\x7b\"status\":\"Rejected\",\"OrderId\":\"2\"\x7d"⟩, [2]⟩,
  ⟨Frame.encode ⟨.event, 6, "Ping", ""⟩, []⟩]

theorem mixedTexts_inert :
    twoOpen.DrainedOnAll mixedTexts ∧ (mixedTexts.filter fun r => heeds r.text) = [mixedTexts[1]] ∧
      twoOpen.publishedOnAll [mixedTexts[1]] = [.attemptedCancel 1, .orderCanceled "a"] ∧
      twoOpen.publishedOnAll mixedTexts = [.attemptedCancel 1, .orderCanceled "a"] ∧
      (twoOpen.hearAll [mixedTexts[1]]).uncounted = (twoOpen.hearAll mixedTexts).uncounted := by
  have hnew := listening_new ⟨1, 9⟩ "kiiex" none .empty 1 ⟨0⟩ [.orderCanceled]
  have hg : twoOpen.Listening := ⟨hnew.routes, hnew.idle⟩
  have hdrained : twoOpen.DrainedOnAll mixedTexts := by decide +kernel
  have hheeds : mixedTexts.map (fun r => heeds r.text) = [false, true, false, false] := by
    decide +kernel
  have hfilter : (mixedTexts.filter fun r => heeds r.text) = [mixedTexts[1]] := by
    simp only [mixedTexts, List.map_cons, List.map_nil, List.cons.injEq, and_true] at hheeds
    simp [mixedTexts, hheeds]
  have hpublished : twoOpen.publishedOnAll [mixedTexts[1]] =
    [.attemptedCancel 1, .orderCanceled "a"] := by decide +kernel
  obtain ⟨hend, hsaid, -⟩ := inert hg hdrained
  rw [hfilter] at hend hsaid
  exact ⟨hdrained, hfilter, hpublished, hsaid.symm.trans hpublished, hend⟩

end Gateway

end VenueGateway
