import VenueGateway.Proofs.Assoc
import VenueGateway.Proofs.Gateway.Settlement

/-!
Redelivery. A submission that could not be sent is put back into its queue and handled again,
although its order is tracked by then and a login may have gone out. However often this happens, and
wherever each attempt fails, the attempt that succeeds is the only one that sends the order, and
tracking it again changes nothing.
-/

namespace VenueGateway

open Json (Value)

namespace Tracker

theorem track_track (t : Tracker) (key : String) (trade : TradeRef) :
    (t.track key trade).track key trade = t.track key trade := by
  simp [track, Assoc.insert_of_get?]

end Tracker

namespace Listener

/-- Where a tracker listens, once or more often, the order is tracked. -/
theorem tracker_foldl_hear (order : VisitOrder Tracker.Entry) (trade : TradeRef) (key : String)
    (listeners : List Listener) (w : Floor) :
    (listeners.foldl (hear order (.orderSubmitted trade key)) w).tracker =
      if .tracker ∈ listeners then w.tracker.track key trade else w.tracker := by
  induction listeners generalizing w with
  | nil => rfl
  | cons listener listeners ih =>
    rw [List.foldl_cons, ih]
    cases listener with
    | tracker =>
      have hfirst : (hear order (.orderSubmitted trade key) w tracker).tracker =
        w.tracker.track key trade := rfl
      rw [hfirst, Tracker.track_track, ite_self, if_pos List.mem_cons_self]
    | outbox => simp [hear, react]
    | observer name panics => simp [hear, react]

end Listener

namespace Link

@[simp] theorem state_send (l : Link) (operation payload : String) :
    (l.send operation payload).1.state = l.state := by
  simp only [send]
  split
  · split <;> rfl
  · rfl

@[simp] theorem refusal_send (l : Link) (operation payload : String) :
    (l.send operation payload).1.refusal = l.refusal := by
  simp only [send]
  split
  · split <;> rfl
  · rfl

@[simp] theorem state_behind (l : Link) (login : Option LoginRequest) :
    (l.behind login).state = l.state := by
  cases login <;> simp [behind]

@[simp] theorem refusal_behind (l : Link) (login : Option LoginRequest) :
    (l.behind login).refusal = l.refusal := by
  cases login <;> simp [behind]

end Link

namespace Fares

variable {l : Link} {login : Option LoginRequest} {operation payload : String}
  {logins orders : List Frame}
  {s : Settlement}

theorem orders_eq_nil_of_requeue (h : Fares l login operation payload logins orders s)
    (hs : s = .requeue) :
    orders = [] := by
  cases h with
  | loginLost | lost | loggedInAndLost => rfl
  | done | loggedInAndDone => cases hs

theorem eq_ack_of_ne_requeue (h : Fares l login operation payload logins orders s)
    (hs : s ≠ .requeue) : s = .ack := by
  cases h with
  | loginLost | lost | loggedInAndLost => exact absurd rfl hs
  | done | loggedInAndDone => rfl

theorem operation_of_mem_logins (h : Fares l login operation payload logins orders s) {f : Frame}
    (hf : f ∈ logins) :
    f.operation = Operation.authenticate := by
  cases h with
  | loginLost | lost | done => cases hf
  | loggedInAndLost | loggedInAndDone =>
    rw [List.mem_singleton.mp hf]
    rfl

end Fares

namespace Gateway

/-- Whether a request would fail now, or the login in front of it. -/
def Loses (g : Gateway) (operation : String) (payload : Value) : Prop :=
  (∃ q e, g.session.loginRequest? = some q ∧
    (g.link.send Operation.authenticate q.toJson.wire).2 = .error e) ∨
    ∃ e, ((g.link.behind g.session.loginRequest?).send operation payload.wire).2 = .error e

theorem loses_of_not_connected {g : Gateway} (h : g.link.state ≠ .connected) (operation : String)
    (payload : Value) :
    g.Loses operation payload := by
  have hs : (g.link.behind g.session.loginRequest?).state ≠ .connected := by rwa [Link.state_behind]
  exact .inr ⟨.notConnected, by rw [Link.send_of_not_connected hs]⟩

theorem loses_of_refused {g : Gateway} (h : g.link.state = .connected) {operation : String}
    {e : LinkError} (hr : ∀ f, f.operation = operation → g.link.refusal f = some e)
    (payload : Value) : g.Loses operation payload := by
  have hs : (g.link.behind g.session.loginRequest?).state = .connected := by rwa [Link.state_behind]
  refine .inr ⟨e, ?_⟩
  rw [Link.send_of_refused hs (by rw [Link.refusal_behind]; exact hr _ rfl)]

/-- A link that works fails no request. -/
theorem not_loses {g : Gateway} (h : g.link.state = .connected) (hr : ∀ f, g.link.refusal f = none)
    (operation : String) (payload : Value) : ¬ g.Loses operation payload := by
  have hs : (g.link.behind g.session.loginRequest?).state = .connected := by rwa [Link.state_behind]
  rintro (⟨q, e, -, he⟩ | ⟨e, he⟩)
  · rw [Link.send_of_accepted h (hr _)] at he
    cases he
  · rw [Link.send_of_accepted hs (by rw [Link.refusal_behind]; exact hr _)] at he
    cases he

/-- Whether a request would fail at every attempt, each of them after those before. -/
def AllLose (queue : String) (body : List UInt8) (operation : String) (payload : Value)
    (g : Gateway) :
    List LinkCondition → Prop
  | [] => True
  | w :: ws =>
    (g.under w).Loses operation payload ∧
      AllLose queue body operation payload ((g.under w).handle queue body).1 ws

/-- The last attempt follows on all before it. -/
theorem attempts_concat (queue : String) (body : List UInt8) (g : Gateway) (ws : List LinkCondition)
    (w : LinkCondition) :
    g.attempts queue body (ws ++ [w]) =
      ((((g.attempts queue body ws).1.under w).handle queue body).1,
        (g.attempts queue body ws).2 ++
          [(((g.attempts queue body ws).1.under w).handle queue body).2]) := by
  induction ws generalizing g with
  | nil => rfl
  | cons w' ws ih =>
    rw [List.cons_append, attempts, ih]
    rfl

/-- A message that spells a submission, with the venue's number for its instrument. -/
structure Spells (g : Gateway) (body : List UInt8) (c : SubmitOrder) (id : Int64) : Prop where
  command : SubmitOrder.ofBytes? body = some c
  instrument : g.directory.id? c.instrumentPair = some id

/-- The frames that place orders. -/
def placing (frames : List Frame) : List Frame :=
  frames.filter fun f => f.operation = Operation.sendOrder

theorem placing_append (frames frames' : List Frame) :
    placing (frames ++ frames') = placing frames ++ placing frames' :=
  List.filter_append ..

theorem placing_eq_nil {frames : List Frame}
    (h : ∀ f ∈ frames, f.operation = Operation.authenticate) :
    placing frames = [] := by
  refine List.filter_eq_nil_iff.mpr fun f hf => ?_
  rw [h f hf]
  decide

section Attempt

variable {g : Gateway} {body : List UInt8} {c : SubmitOrder} {id : Int64}

theorem handle_of_spells (h : Spells g body c id) :
    g.handle (submissionQueue g.provider) body = ((g.submit c).1, .ofOutcome (g.submit c).2) := by
  have hc := h.command
  rw [SubmitOrder.ofBytes?] at hc
  rw [handle, if_pos rfl, handleSubmission, hc]

/-- A message that spells a submission sends the gateway on its errand. -/
theorem carriedOut_of_spells (h : Spells g body c id) :
    let r := g.handle (submissionQueue g.provider) body
    ∃ logins orders, CarriedOut g r.1
      ⟨g.submission c, Operation.sendOrder,
        (OrderRequest.ofCommand g.account id c).toJson⟩ logins orders r.2 := by
  intro r
  rcases handle_submission g rfl body with ⟨hu, -⟩ | ⟨errand, logins, orders, hasks, hdone⟩
  · exact absurd hu (not_unusable_of_asks (.submission rfl h.command h.instrument))
  · cases hasks with
    | submission _ hc hid =>
      obtain rfl := Option.some.inj (h.command.symm.trans hc)
      obtain rfl := Option.some.inj (h.instrument.symm.trans hid)
      exact ⟨logins, orders, hdone⟩
    | cancellation hq => exact absurd hq (submissionQueue_ne_cancellationQueue _)

/-- What an attempt does in any case: with a tracker on the bus, the order is tracked. -/
structure Attempted (g g' : Gateway) (c : SubmitOrder) : Prop where
  kept : Kept g g'
  bus : g'.hub.bus = g.hub.bus
  tracker : g'.tracker = g.tracker.track c.trackingKey (.onAccount g.account c.id)

/-- Every attempt tracks the order, sent or not. -/
theorem attempted_of_spells (h : Spells g body c id)
    (ht : .tracker ∈ g.hub.bus.handlers .orderSubmitted) :
    Attempted g (g.handle (submissionQueue g.provider) body).1 c := by
  obtain ⟨logins, orders, hdone⟩ := carriedOut_of_spells h
  have hkept : Kept g (g.handle (submissionQueue g.provider) body).1 := by
    rw [handle_of_spells h]
    exact kept_submit g c
  have hknown : MadeKnown g (g.handle (submissionQueue g.provider) body).1
      (.orderSubmitted (.onAccount g.account c.id) c.trackingKey) := hdone.known
  obtain ⟨hb, hw⟩ := hknown.heard
  exact ⟨hkept, hb, by rw [tracker, hw, Listener.tracker_foldl_hear, if_pos ht, tracker]⟩

/-- An attempt that fails puts the message back, and at most a login has gone out. -/
theorem handle_of_loses (h : Spells g body c id)
    (hl : g.Loses Operation.sendOrder (OrderRequest.ofCommand g.account id c).toJson) :
    let r := g.handle (submissionQueue g.provider) body
    r.2 = .requeue ∧ ∃ frames, r.1.link.accepted = g.link.accepted ++ frames ∧
      placing frames = [] := by
  intro r
  obtain ⟨logins, orders, hdone⟩ := carriedOut_of_spells h
  have hrequeue : r.2 = .requeue := hdone.fares.requeue_iff.mpr hl
  obtain rfl := hdone.fares.orders_eq_nil_of_requeue hrequeue
  refine ⟨hrequeue, logins ++ [], hdone.accepted, ?_⟩
  rw [List.append_nil]
  exact placing_eq_nil fun f hf => hdone.fares.operation_of_mem_logins hf

/-- An attempt that does not fail is done with, and has sent the order once. -/
theorem handle_of_not_loses (h : Spells g body c id)
    (hl : ¬ g.Loses Operation.sendOrder (OrderRequest.ofCommand g.account id c).toJson) :
    let r := g.handle (submissionQueue g.provider) body
    r.2 = .ack ∧ ∃ frames f, r.1.link.accepted = g.link.accepted ++ frames ∧ placing frames = [f] ∧
      f.payload = (OrderRequest.ofCommand g.account id c).toJson.wire := by
  intro r
  obtain ⟨logins, orders, hdone⟩ := carriedOut_of_spells h
  have hack : r.2 = .ack := hdone.fares.eq_ack_of_ne_requeue (mt hdone.fares.requeue_iff.mp hl)
  refine ⟨hack, logins ++ orders,
    (g.link.behind g.session.loginRequest?).nextFrame Operation.sendOrder _, hdone.accepted, ?_,
    rfl⟩
  rw [placing_append, placing_eq_nil fun f hf => hdone.fares.operation_of_mem_logins hf,
    hdone.fares.ack_iff.mp hack]
  rfl

end Attempt

/-- What failed attempts at a submission leave behind: nothing was placed, and to track the order
now is to track it at first. -/
structure Spent (g g' : Gateway) (c : SubmitOrder) : Prop where
  kept : Kept g g'
  bus : g'.hub.bus = g.hub.bus
  accepted : ∃ frames, g'.link.accepted = g.link.accepted ++ frames ∧ placing frames = []
  tracker : g'.tracker.track c.trackingKey (.onAccount g.account c.id) =
    g.tracker.track c.trackingKey (.onAccount g.account c.id)

theorem Spent.refl (g : Gateway) (c : SubmitOrder) : Spent g g c :=
  ⟨⟨g.hub, g.link, g.trace, rfl⟩, rfl, ⟨[], by simp [placing]⟩, rfl⟩

theorem Kept.spells {g g' : Gateway} (h : Kept g g') {body : List UInt8} {c : SubmitOrder}
    {id : Int64} (hs : Spells g body c id) : Spells g' body c id := by
  obtain ⟨_, _, _, rfl⟩ := h
  exact ⟨hs.command, hs.instrument⟩

/-- What attempts leave behind does not pile up. -/
theorem Spent.trans {g g' g'' : Gateway} {c : SubmitOrder} (h : Spent g g' c)
    (h' : Spent g' g'' c) : Spent g g'' c where
  kept := h.kept.trans h'.kept
  bus := h'.bus.trans h.bus
  accepted := by
    obtain ⟨frames, haccepted, hnone⟩ := h.accepted
    obtain ⟨frames', haccepted', hnone'⟩ := h'.accepted
    refine ⟨frames ++ frames', by rw [haccepted', haccepted, List.append_assoc], ?_⟩
    rw [placing_append, hnone, hnone']
    rfl
  tracker := by
    have htracker := h'.tracker
    rw [h.kept.account] at htracker
    exact htracker.trans h.tracker

theorem spent_of_loses {g : Gateway} {body : List UInt8} {c : SubmitOrder} {id : Int64}
    (h : Spells g body c id) (ht : .tracker ∈ g.hub.bus.handlers .orderSubmitted)
    (hl : g.Loses Operation.sendOrder (OrderRequest.ofCommand g.account id c).toJson) :
    Spent g (g.handle (submissionQueue g.provider) body).1 c where
  kept := (attempted_of_spells h ht).kept
  bus := (attempted_of_spells h ht).bus
  accepted := (handle_of_loses h hl).2
  tracker := by rw [(attempted_of_spells h ht).tracker, Tracker.track_track]

theorem spent_under (g : Gateway) (c : SubmitOrder) (w : LinkCondition) : Spent g (g.under w) c :=
  ⟨⟨g.hub, _, g.trace, rfl⟩, rfl, ⟨[], by simp [under, placing]⟩, rfl⟩

/-- However often attempts fail, the message is put back every time. -/
theorem attempts_of_allLose {g : Gateway} {body : List UInt8} {c : SubmitOrder} {id : Int64}
    (h : Spells g body c id) (ht : .tracker ∈ g.hub.bus.handlers .orderSubmitted)
    {ws : List LinkCondition}
    (hl : g.AllLose (submissionQueue g.provider) body Operation.sendOrder
      (OrderRequest.ofCommand g.account id c).toJson ws) :
    let r := g.attempts (submissionQueue g.provider) body ws
    Spent g r.1 c ∧ r.2 = List.replicate ws.length .requeue := by
  induction ws generalizing g with
  | nil => exact ⟨.refl g c, rfl⟩
  | cons w ws ih =>
    obtain ⟨hlost, hrest⟩ := hl
    have hunder := spent_under g c w
    have hspells := hunder.kept.spells h
    have hfirst : Spent g ((g.under w).handle (submissionQueue g.provider) body).1 c :=
      hunder.trans (spent_of_loses hspells ht hlost)
    have hrequeue : ((g.under w).handle (submissionQueue g.provider) body).2 = .requeue :=
      (handle_of_loses hspells hlost).1
    rw [attempts]
    generalize (g.under w).handle (submissionQueue g.provider) body = r at hfirst hrequeue hrest
    have hnext := ih (hfirst.kept.spells h) (hfirst.bus ▸ ht)
      (by rw [hfirst.kept.account, hfirst.kept.provider]; exact hrest)
    rw [hfirst.kept.provider] at hnext
    refine ⟨hfirst.trans hnext.1, ?_⟩
    rw [hnext.2, hrequeue]
    rfl

/-- A submission that fails any number of times and then does not is put back as often and done with
at last. One order was sent, and what is tracked is what a single attempt would have made of it. -/
theorem redelivered_once (g : Gateway) (body : List UInt8) (c : SubmitOrder) (id : Int64)
    (hc : SubmitOrder.ofBytes? body = some c) (hid : g.directory.id? c.instrumentPair = some id)
    (ht : .tracker ∈ g.hub.bus.handlers .orderSubmitted) (bad : List LinkCondition)
    (good : LinkCondition)
    (hbad : g.AllLose (submissionQueue g.provider) body Operation.sendOrder
      (OrderRequest.ofCommand g.account id c).toJson bad)
    (hgood : ¬ ((g.attempts (submissionQueue g.provider) body bad).1.under good).Loses
      Operation.sendOrder (OrderRequest.ofCommand g.account id c).toJson) :
    let r := g.attempts (submissionQueue g.provider) body (bad ++ [good])
    r.2 = List.replicate bad.length .requeue ++ [.ack] ∧
    (∃ frames f, r.1.link.accepted = g.link.accepted ++ frames ∧ placing frames = [f] ∧
      f.payload = (OrderRequest.ofCommand g.account id c).toJson.wire) ∧
    (∀ w, r.1.tracker = ((g.under w).handle (submissionQueue g.provider) body).1.tracker) ∧
    (r.1.tracker.trades.entries.filter fun e => e.1 = c.trackingKey) =
      [(c.trackingKey, .onAccount g.account c.id)] := by
  have hspells : Spells g body c id := ⟨hc, hid⟩
  obtain ⟨hspent, hanswers⟩ := attempts_of_allLose hspells ht hbad
  intro r
  have hr := g.attempts_concat (submissionQueue g.provider) body bad good
  change r = _ at hr
  generalize g.attempts (submissionQueue g.provider) body bad = before at hspent hanswers hgood hr
  have hlast : Spent g (before.1.under good) c := hspent.trans (spent_under before.1 c good)
  generalize before.1.under good = g' at hlast hgood hr
  have hspells' := hlast.kept.spells hspells
  rw [← hlast.kept.account] at hgood
  obtain ⟨hack, frames, f, haccepted, hplaced, hpayload⟩ := handle_of_not_loses hspells' hgood
  have hattempted := attempted_of_spells hspells' (hlast.bus ▸ ht)
  rw [hlast.kept.provider] at hack haccepted hattempted
  have htracker : r.1.tracker = g.tracker.track c.trackingKey (.onAccount g.account c.id) := by
    rw [hr, hattempted.tracker, hlast.kept.account, hlast.tracker]
  refine ⟨?_, ?_, fun w => ?_, ?_⟩
  · rw [hr, hack, hanswers]
  · obtain ⟨logins, hlogins, hnone⟩ := hlast.accepted
    refine ⟨logins ++ frames, f, ?_, ?_, ?_⟩
    · rw [hr, haccepted, hlogins, List.append_assoc]
    · rw [placing_append, hnone, hplaced]
      rfl
    · rw [hpayload, hlast.kept.account]
  · exact htracker.trans
      (attempted_of_spells ((spent_under g c w).kept.spells hspells) ht).tracker.symm
  · rw [htracker]
    exact Assoc.filter_entries_eq (Assoc.get?_insert_self ..)

def oneMarket : Gateway :=
  .new ⟨1, 9⟩ "kiiex" (some { userId := 5 }) (Directory.empty.insert "BTCUSD" 1) 8 ⟨0⟩ []

def purchase : List UInt8 :=
  Text.bytes
    "\x7b\"id\":7,\"instrumentPair\":\"BTCUSD\",\"side\":\"buy\",\"clientOrderId\":\"seven\"\x7d"

/-- Not even a login can be sent. -/
def lost : LinkCondition := ⟨.disconnected, fun _ => none⟩

/-- A login can be sent, and no order behind it. -/
def refused : LinkCondition :=
  ⟨.connected, fun f => if f.operation = Operation.sendOrder then some .closed else none⟩

def working : LinkCondition := ⟨.connected, fun _ => none⟩

theorem purchase_redelivered :
    let r :=
      oneMarket.attempts (submissionQueue oneMarket.provider) purchase [lost, refused, working]
    r.2 = [.requeue, .requeue, .ack] ∧ (placing r.1.link.accepted).length = 1 ∧
      (r.1.tracker.trades.entries.filter fun e => e.1 = "seven") = [("seven", ⟨1, 9, 7⟩)] := by
  have hc : SubmitOrder.ofBytes? purchase =
      some
        { id := 7, instrumentPair := "BTCUSD", sideName := "buy", clientOrderId := "seven" } := by
    decide +kernel
  have hgood : ∀ (g : Gateway) payload, ¬ (g.under working).Loses Operation.sendOrder payload :=
    fun g => not_loses rfl (fun _ => rfl) Operation.sendOrder
  obtain ⟨hanswers, ⟨frames, f, haccepted, hplaced, -⟩, -, hentry⟩ :=
    redelivered_once oneMarket purchase _ 1 hc (by decide) (by decide) [lost, refused] working
      ⟨loses_of_not_connected (by decide) _ _,
        loses_of_refused rfl (fun f hf => if_pos hf) _, trivial⟩
      (hgood _ _)
  have hsent : placing (oneMarket.link.accepted ++ frames) = [f] := hplaced
  rw [← haccepted] at hsent
  exact ⟨hanswers, congrArg List.length hsent, hentry⟩

end Gateway

end VenueGateway
