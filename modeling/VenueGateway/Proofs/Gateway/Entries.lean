import VenueGateway.Gateway.Run
import VenueGateway.Proofs.Gateway.Inertness
import VenueGateway.Proofs.Gateway.Queries
import VenueGateway.Proofs.Gateway.Redelivery

/-!
Where tracked entries come from. A submission is heard at once by all who listen and never waits in
a queue, so dispatchers, replies, cancellations and polls only ever take entries away, and what is
known of the entries of a gateway stays known until the next submission.
-/

namespace VenueGateway

namespace Tracker

variable {t t' : Tracker}

theorem within_untrack (t : Tracker) (key : String) : (t.untrack key).Within t :=
  fun _ _ h => (tracks_untrack.mp h).2

/-- No event but a submission brings an entry in. -/
theorem Change.within {e : Event} (h : Change t e t') (he : e.kind ≠ .orderSubmitted) :
    t'.Within t := by
  cases h with
  | tracked trade key => exact absurd rfl he
  | canceled | filledByKey | filledByNumber => exact within_untrack t _
  | notCanceled | notFilled | ignored => exact fun _ _ => id

end Tracker

namespace Bus

variable {H : Type} {b : Bus H}

/-- What waits after an offer waited before, or is the event offered. -/
theorem mem_queue_offer {i j : Nat} {e e' : Event} (h : e' ∈ (b.offer i e).1.queue j) :
    e' ∈ b.queue j ∨ e' = e := by
  rw [queue, getElem?_offer] at h
  rw [queue]
  cases hs : b.subscriptions[j]? with
  | none => simp [hs] at h
  | some s =>
    have hmem : e' ∈ s.queue ∨ e' ∈ (s.offer b.capacity e).1.queue := by
      rw [hs] at h
      split at h
      · exact .inr h
      · exact .inl h
    refine hmem.elim .inl fun hoffered => ?_
    unfold Subscription.offer at hoffered
    split at hoffered
    · split at hoffered
      · exact (List.mem_append.mp hoffered).imp_right List.mem_singleton.mp
      · exact .inl hoffered
    · exact .inl hoffered

theorem mem_queue_halt {i j : Nat} {e : Event} (h : e ∈ (b.halt i).queue j) : e ∈ b.queue j := by
  unfold halt at h
  split at h
  · next s hs =>
    split at h
    · rw [queue, List.getElem?_set] at h
      split at h
      · split at h <;> cases h
      · exact h
    · exact h
  · exact h

theorem mem_queue_haltAll {is : List Nat} {j : Nat} {e : Event}
    (h : e ∈ (is.foldl (fun b i => b.halt i) b).queue j) :
    e ∈ b.queue j := by
  induction is generalizing b with
  | nil => exact h
  | cons i is ih => exact mem_queue_halt (ih h)

end Bus

namespace Hub

open Listener (react)

/-- No submission waits in a queue, and something is known of every entry. -/
structure Vouched (P : String → TradeRef → Prop) (h : Hub Listener Floor) : Prop where
  unqueued : ∀ i, ∀ e ∈ h.bus.queue i, e.kind ≠ .orderSubmitted
  entries : ∀ key trade, h.world.tracker.Tracks key trade → P key trade

namespace Vouched

variable {P Q : String → TradeRef → Prop} {order : VisitOrder Tracker.Entry}
  {h h' : Hub Listener Floor}

theorem mono (hv : h.Vouched P) (hPQ : ∀ key trade, P key trade → Q key trade) : h.Vouched Q :=
  ⟨hv.unqueued, fun key trade ht => hPQ key trade (hv.entries key trade ht)⟩

/-- What is known stays known where nothing but events of other kinds came into queues and no entry
came in. -/
theorem step (hv : h.Vouched P)
    (hqueue : ∀ i, ∀ e ∈ h'.bus.queue i, e ∈ h.bus.queue i ∨ e.kind ≠ .orderSubmitted)
    (htracker : h'.world.tracker.Within h.world.tracker) : h'.Vouched P where
  unqueued i e he := (hqueue i e he).elim (hv.unqueued i e) id
  entries key trade ht := hv.entries key trade (htracker key trade ht)

theorem congr (hv : h.Vouched P) (hb : h'.bus = h.bus)
    (ht : h'.world.tracker.trades = h.world.tracker.trades) : h'.Vouched P := by
  refine hv.step (fun i e he => .inl (hb ▸ he)) fun key trade htracks => ?_
  rw [Tracker.Tracks] at htracks ⊢
  rwa [ht] at htracks

theorem post (hv : h.Vouched P) {e : Event} (he : e.kind ≠ .orderSubmitted) :
    (h.post e).1.Vouched P := by
  refine hv.step (fun i e' he' => ?_) fun _ _ => id
  obtain ⟨new, hnew, hmem⟩ := h.bus.queue_postAll i [e]
  change e' ∈ (h.bus.postAll [e]).queue i at he'
  rw [hnew] at he'
  rcases List.mem_append.mp he' with hold | hposted
  · exact .inl hold
  · exact .inr (List.mem_singleton.mp (hmem e' hposted) ▸ he)

theorem within_react (order : VisitOrder Tracker.Entry) (listener : Listener) {e : Event}
    (he : e.kind ≠ .orderSubmitted) (w : Floor) (m : Metrics) :
    (react order listener e w m).world.tracker.Within w.tracker := by
  cases listener with
  | tracker => exact (Tracker.change_handle order w.tracker e m).within he
  | outbox => exact fun _ _ => id
  | observer name panics => exact fun _ _ => id

/-- A dispatcher tracks only what its queue vouches for. -/
theorem dispatch (hv : h.Vouched P) (i : Nat) : (h.dispatch (react order) i).Vouched P := by
  cases ht : h.bus.take? i with
  | none => rwa [dispatch_of_none ht]
  | some r =>
    obtain ⟨listener, e, b⟩ := r
    have he : e.kind ≠ .orderSubmitted :=
      hv.unqueued i e (by rw [Bus.queue_take? ht]; exact List.mem_cons_self)
    refine hv.step (fun j e' he' => ?_) ?_
    · obtain ⟨new, hnew, hmem⟩ := queue_dispatch (react order) ht j
      rw [hnew] at he'
      rcases List.mem_append.mp he' with hold | hoffered
      · exact .inl (Bus.mem_queue_of_take? ht hold)
      · exact .inr (by rw [Listener.kind_of_offered (hmem e' hoffered)]; decide)
    · rw [dispatch_of_take ht, world_invoke]
      exact within_react order listener he h.world h.metrics

theorem act (hv : h.Vouched P) {a : Action Listener} (ha : a.isDispatching = true) :
    (h.act (react order) a).1.Vouched P := by
  cases a with
  | dispatch i => exact hv.dispatch i
  | halt i => exact hv.step (fun _ _ he => .inl (Bus.mem_queue_halt he)) fun _ _ => id
  | _ => cases ha

theorem drain (hv : h.Vouched P) (turns : Turns) (fuel : Nat) :
    (h.drain turns (react order) fuel).Vouched P := by
  induction fuel generalizing h with
  | zero => exact hv
  | succ fuel ih =>
    rw [Hub.drain]
    split
    · next a hturn => exact ih (hv.act (busy_of_next? hturn).isDispatching)
    · exact hv

theorem settle (hv : h.Vouched P) (turns : Turns) : (h.settle turns (react order)).Vouched P := by
  have hhalted : h.haltAll.Vouched P :=
    hv.step (fun _ _ he => .inl (Bus.mem_queue_haltAll he)) fun _ _ => id
  exact hhalted.drain turns _

/-- An event of another kind reaches its subscriptions. -/
theorem serves (hv : h.Vouched P) {e : Event} {is : List Nat} {n : Nat}
    (hserves : Serves (react order) e is h h' n) (he : e.kind ≠ .orderSubmitted) :
    h'.Vouched P := by
  induction hserves with
  | everybody => exact hv
  | given hs hd hroom _ ih =>
    refine ih (hv.step (fun j e' he' => ?_) fun _ _ => id)
    rw [given_eq_offer hs hd hroom] at he'
    exact (Bus.mem_queue_offer he').imp id fun hsame => by rwa [hsame]
  | passed _ _ _ ih => exact ih hv
  | worked ha _ ih => exact ih (hv.act ha)

end Vouched

end Hub

namespace Gateway

/-- An action submits an order for an instrument that is known. -/
inductive Submits (g : Gateway) : Action → SubmitOrder → Prop
  | asked {c : SubmitOrder} {id : Int64} (hid : g.directory.id? c.instrumentPair = some id) :
      Submits g (.submit c) c
  | queued {body : List UInt8} {c : SubmitOrder} {id : Int64}
      (hc : SubmitOrder.ofBytes? body = some c)
      (hid : g.directory.id? c.instrumentPair = some id) :
      Submits g (.message (submissionQueue g.provider) body) c

section Commands

variable (g : Gateway)

def placement (c : SubmitOrder) (id : Int64) : Errand :=
  ⟨g.submission c, Operation.sendOrder, (OrderRequest.ofCommand g.account id c).toJson⟩

/-- The errand on which a cancellation sends a gateway. -/
def withdrawal (c : CancelOrder) (id : Int64) : Errand :=
  ⟨.orderCanceled c.orderId, Operation.cancelOrder, (CancelRequest.onAccount g.account id).toJson⟩

variable {g} in
/-- A submission for an instrument that is known is carried out. -/
theorem carriedOut_submit {c : SubmitOrder} {id : Int64}
    (hid : g.directory.id? c.instrumentPair = some id) :
    ∃ logins orders s, CarriedOut g (g.submit c).1 (g.placement c id) logins orders s := by
  obtain ⟨logins, orders, hdone⟩ := exists_carriedOut (g.placement c id)
    (madeKnown_announce g (.onAccount g.account c.id) c.trackingKey) rfl rfl rfl
  rw [submit, hid]
  exact ⟨logins, orders, _, hdone.countSent _⟩

theorem submit_cases (c : SubmitOrder) :
    Untouched g (g.submit c).1 ∨ ∃ id logins orders s, g.directory.id? c.instrumentPair = some id ∧
      CarriedOut g (g.submit c).1 (g.placement c id) logins orders s := by
  cases hid : g.directory.id? c.instrumentPair with
  | none =>
    rw [submit, hid]
    exact .inl ⟨_, rfl⟩
  | some id =>
    obtain ⟨logins, orders, s, hdone⟩ := carriedOut_submit hid
    exact .inr ⟨id, logins, orders, s, rfl, hdone⟩

theorem cancel_cases (c : CancelOrder) :
    Untouched g (g.cancel c).1 ∨ ∃ id logins orders s,
      CarriedOut g (g.cancel c).1 (g.withdrawal c id) logins orders s := by
  unfold cancel
  cases hid : c.venueId? with
  | none => exact .inl ⟨_, rfl⟩
  | some id =>
    obtain ⟨logins, orders, hdone⟩ := exists_carriedOut (g.withdrawal c id)
      (madeKnown_publish g c.orderId) rfl rfl rfl
    exact .inr ⟨id, logins, orders, _, hdone.countSent _⟩

/-- A message is a command, or nothing is done about it. -/
theorem message_cases (queue : String) (body : List UInt8) :
    (g.handle queue body).1 = g ∨
      (∃ c, queue = submissionQueue g.provider ∧ SubmitOrder.ofBytes? body = some c ∧
        (g.handle queue body).1 = (g.submit c).1) ∨
      ∃ c, (g.handle queue body).1 = (g.cancel c).1 := by
  unfold handle
  split
  · next hq =>
    unfold handleSubmission
    split
    · exact .inl rfl
    · next c hc => exact .inr (.inl ⟨c, hq, hc, rfl⟩)
  · split
    · unfold handleCancellation
      split
      · exact .inl rfl
      · next c _ => exact .inr (.inr ⟨c, rfl⟩)
    · exact .inl rfl

/-- What an action comes to that commands: nothing, or the errand of its command. -/
inductive Obeys (g' : Gateway) : Action → Prop
  | nothing {a : Action} (h : Untouched g g') : Obeys g' a
  | placed {a : Action} {c : SubmitOrder} {id : Int64} {logins orders : List Frame} {s : Settlement}
      (hc : Submits g a c) (hdone : CarriedOut g g' (g.placement c id) logins orders s) : Obeys g' a
  | withdrawn {a : Action} {c : CancelOrder} {id : Int64} {logins orders : List Frame}
      {s : Settlement}
      (hdone : CarriedOut g g' (g.withdrawal c id) logins orders s) : Obeys g' a

theorem obeys_submit (c : SubmitOrder) : Obeys g (g.submit c).1 (.submit c) := by
  rcases g.submit_cases c with h | ⟨id, logins, orders, s, hid, hdone⟩
  · exact .nothing h
  · exact .placed (.asked hid) hdone

theorem obeys_cancel (c : CancelOrder) (a : Action) : Obeys g (g.cancel c).1 a := by
  rcases g.cancel_cases c with h | ⟨id, logins, orders, s, hdone⟩
  · exact .nothing h
  · exact .withdrawn hdone

theorem obeys_message (queue : String) (body : List UInt8) :
    Obeys g (g.handle queue body).1 (.message queue body) := by
  rcases g.message_cases queue body with h | ⟨c, rfl, hc, h⟩ | ⟨c, h⟩
  · exact .nothing ⟨g.hub.metrics, h⟩
  · rw [h]
    rcases g.submit_cases c with hnone | ⟨id, logins, orders, s, hid, hdone⟩
    · exact .nothing hnone
    · exact .placed (.queued hc hid) hdone
  · rw [h]
    exact g.obeys_cancel c _

end Commands

section Step

variable {g g' : Gateway} {P : String → TradeRef → Prop}

theorem Sends.vouched {frames : List Frame} (h : Sends g g' frames) (hv : g.hub.Vouched P) :
    g'.hub.Vouched P :=
  hv.congr h.bus (by rw [h.world])

theorem Untouched.vouched (h : Untouched g g') (hv : g.hub.Vouched P) : g'.hub.Vouched P := by
  obtain ⟨m, rfl⟩ := h
  exact hv.congr rfl rfl

/-- Of a submission that is made known something is known of its entry, too. -/
theorem MadeKnown.vouched {e : Event} (h : MadeKnown g g' e) (hv : g.hub.Vouched P)
    (hP : ∀ trade key, e = .orderSubmitted trade key → P key trade) : g'.hub.Vouched P := by
  cases h with
  | @handled trade key hb hw =>
    refine ⟨hb ▸ hv.unqueued, fun key' trade' ht => ?_⟩
    rw [hw, Listener.tracker_foldl_hear] at ht
    split at ht
    · rw [Tracker.tracks_track] at ht
      split at ht
      · next hkey => exact hkey ▸ ht ▸ hP trade key rfl
      · exact hv.entries key' trade' ht
    · exact hv.entries key' trade' ht
  | queued _ hserves hb hw =>
    have hserved := hv.serves hserves nofun
    exact hserved.congr hb (by rw [hw])

theorem Obeys.vouched {a : Action} (h : Obeys g g' a) (hv : g.hub.Vouched P)
    (hP : ∀ c, Submits g a c → P c.trackingKey (.onAccount g.account c.id)) : g'.hub.Vouched P := by
  cases h with
  | nothing h => exact h.vouched hv
  | placed hc hdone =>
    refine hdone.known.vouched hv fun trade key he => ?_
    cases he
    exact hP _ hc
  | withdrawn hdone => exact hdone.known.vouched hv nofun

theorem vouched_offers (hv : g.hub.Vouched P) {es : List Event}
    (hes : ∀ e ∈ es, e.kind ≠ .orderSubmitted) :
    (es.foldl offer g).hub.Vouched P := by
  induction es generalizing g with
  | nil => exact hv
  | cons e es ih =>
    have hfirst : (g.offer e).hub.Vouched P := hv.post (hes e List.mem_cons_self)
    exact ih hfirst fun e' he' => hes e' (List.mem_cons_of_mem _ he')

/-- No report is a submission. -/
theorem kind_of_report {directory : Directory} {o : ReportedOrder} {e : Event}
    (he : e ∈ o.events directory) :
    e.kind ≠ .orderSubmitted := by
  unfold ReportedOrder.events at he
  split at he
  · cases he
  · split at he
    · simp [List.mem_singleton.mp he]
    · split at he
      · simp [List.mem_singleton.mp he]
      · cases he

/-- No reply is answered with a submission. -/
theorem kind_of_effect {kind : ReplyKind} {directory : Directory} {f : Frame}
    {effect : Directory × List Event} (h : kind.effect? directory f = some effect) :
    ∀ e ∈ effect.2, e.kind ≠ .orderSubmitted := by
  intro e he
  cases kind with
  | order =>
    obtain ⟨r, -, rfl⟩ := Option.map_eq_some_iff.mp h
    simp only [OrderReply.events] at he
    split at he
    · simp [List.mem_singleton.mp he]
    · cases he
  | cancel =>
    obtain ⟨r, -, rfl⟩ := Option.map_eq_some_iff.mp h
    simp [List.mem_singleton.mp he]
  | status =>
    obtain ⟨r, -, rfl⟩ := Option.map_eq_some_iff.mp h
    obtain ⟨o, -, ho⟩ := List.mem_flatMap.mp he
    exact kind_of_report ho
  | instruments =>
    obtain ⟨r, -, rfl⟩ := Option.map_eq_some_iff.mp h
    cases he

/-- A reply tracks nothing. -/
theorem vouched_deliver (hv : g.hub.Vouched P) (f : Frame) : (g.deliver f).hub.Vouched P := by
  rw [deliver]
  split
  · next handler _ =>
    cases handler with
    | login => exact hv
    | note tag => exact hv
    | reply kind =>
      rw [runHandler]
      split
      · next effect heffect =>
        exact vouched_offers (g := { g with directory := effect.1 }) hv (kind_of_effect heffect)
      · exact hv.congr rfl rfl
  · exact hv

theorem vouched_receive (hv : g.hub.Vouched P) (text : String) :
    (g.receive text).hub.Vouched P := by
  rw [receive]
  split
  · next f _ => exact vouched_deliver (g := g.count (.framesReceived f.route)) (hv.congr rfl rfl) f
  · exact hv.congr rfl rfl

theorem vouched_poll (hv : g.hub.Vouched P) : g.poll.hub.Vouched P :=
  hv.congr (polled_poll g).bus (polled_poll g).trades

/-- What is known of every entry stays known where it is known of the entry that an action brings
in. -/
theorem vouched_act (hv : g.hub.Vouched P) {a : Action}
    (hP : ∀ c, Submits g a c → P c.trackingKey (.onAccount g.account c.id)) :
    (g.act a).hub.Vouched P := by
  cases a with
  | message queue body => exact (g.obeys_message queue body).vouched hv hP
  | submit c => exact (g.obeys_submit c).vouched hv hP
  | cancel c =>
    rw [act]
    exact (g.obeys_cancel c (.cancel c)).vouched hv hP
  | cancelAll =>
    obtain ⟨logins, orders, hs, -⟩ :=
      g.exists_fares Operation.cancelAllOrders (CancelAllRequest.onAccount g.account).toJson
    exact hs.vouched hv
  | requestInstruments => exact hv.congr rfl rfl
  | deliver f => exact vouched_deliver hv f
  | receive text => exact vouched_receive hv text
  | poll => exact vouched_poll hv
  | dispatch i => exact hv.dispatch i
  | settle => exact (hv.settle g.schedule).congr rfl rfl
  | linkState state => exact hv
  | linkRefusal refusal => exact hv
  | schedule schedule => exact hv

end Step

end Gateway

end VenueGateway
