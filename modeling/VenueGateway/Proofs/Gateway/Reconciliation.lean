import VenueGateway.Gateway.Run
import VenueGateway.Proofs.Gateway.Attribution
import VenueGateway.Proofs.Gateway.Hearing
import VenueGateway.Proofs.Gateway.Queries

/-!
Reconciliation. A poll asks about every tracked order; when the venue answers that each has come to
its end, no order is tracked any more, whatever the order of the replies and however often they are
repeated, and just those that were given up are announced as canceled, each once.
-/

namespace VenueGateway

theorem exists_of_forall₂_left {α β : Type} {R : α → β → Prop} {as : List α} {bs : List β}
    (h : List.Forall₂ R as bs) {a : α} (ha : a ∈ as) : ∃ b ∈ bs, R a b := by
  induction h with
  | nil => cases ha
  | @cons a' b as bs hr _ ih =>
    rcases List.mem_cons.mp ha with rfl | ha
    · exact ⟨b, List.mem_cons_self, hr⟩
    · obtain ⟨b', hb', hr'⟩ := ih ha
      exact ⟨b', List.mem_cons_of_mem b hb', hr'⟩

theorem exists_forall₂_of_forall {α β : Type} {R : α → β → Prop} {as : List α}
    (h : ∀ a ∈ as, ∃ b, R a b) :
    ∃ bs, List.Forall₂ R as bs := by
  induction as with
  | nil => exact ⟨[], .nil⟩
  | cons a as ih =>
    obtain ⟨b, hb⟩ := h a List.mem_cons_self
    obtain ⟨bs, hbs⟩ := ih fun a' ha' => h a' (List.mem_cons_of_mem a ha')
    exact ⟨b :: bs, .cons hb hbs⟩

/-- How the venue reports the end of an order: it was given up, or it was filled and the text of
what it leaves is nought. -/
inductive ReportedOrder.EndsAs (o : ReportedOrder) : Bool → Prop
  | givenUp (h : o.isGivenUp = true) : o.EndsAs true
  | filled (h : o.isFilled = true)
      (hl : Tracker.saysNothingLeft
        (ReportedOrder.amount (o.orderedQuantity - o.quantityExecuted)) = true) :
      o.EndsAs false

/-- A frame is a status reply that lists one order, under our number for it, as having come to its
end. The venue's number for it is no number of a tracked order. -/
def Reports (t : Tracker) (givenUp : Int64 → Bool) (f : Frame) (id : Int64) : Prop :=
  Text.lower f.operation = Text.lower Operation.orderStatus ∧
    ∃ o : ReportedOrder, f.body?.bind StatusReply.ofJson? = some { orders := [o] } ∧
      o.clientOrderId = id ∧
      o.orderId ≠ 0 ∧ (∀ key trade, t.Tracks key trade → trade.orderId ≠ o.orderId) ∧
        o.EndsAs (givenUp id)

theorem Reports.unique {t : Tracker} {givenUp : Int64 → Bool} {f : Frame} {id id' : Int64}
    (h : Reports t givenUp f id) (h' : Reports t givenUp f id') : id = id' := by
  obtain ⟨-, o, ho, rfl, -⟩ := h
  obtain ⟨-, o', ho', rfl, -⟩ := h'
  rw [ho, Option.some.injEq, StatusReply.mk.injEq, List.cons.injEq] at ho'
  rw [ho'.1]

/-- A report of the end of a tracked order is heard as one event, which closes that order. -/
theorem Reports.closes {t : Tracker} (hd : t.Distinct) {givenUp : Int64 → Bool} {f : Frame}
    {id : Int64} (hid : ∃ key trade, t.Tracks key trade ∧ trade.orderId = id)
    (h : Reports t givenUp f id) (directory : Directory) :
    ∃ e, ReplyKind.effect? .status directory f = some (directory, [e]) ∧
    t.Closes id (givenUp id) e := by
  obtain ⟨own, trade, ht, hnumber⟩ := hid
  have hz : id ≠ 0 := hnumber ▸ hd.nonzero own trade ht
  obtain ⟨-, o, ho, hc, hv, hforeign, hends⟩ := h
  have heffect : ReplyKind.effect? .status directory f = some (directory, o.events directory) := by
    simp [ReplyKind.effect?, ho, StatusReply.events]
  generalize givenUp id = up at hends ⊢
  cases hends with
  | givenUp hs =>
    have hknown : o.knownId = id := by rw [ReportedOrder.knownId, hc, if_neg hz]
    rw [ReportedOrder.events_of_isGivenUp hs, if_neg hv, hknown] at heffect
    exact ⟨_, heffect, .givenUp hz⟩
  | filled hs hl =>
    rw [ReportedOrder.events_of_isFilled hs, if_neg hv] at heffect
    have hkey : (o.fill directory).orderId = Text.ofInt64 id := by
      change ReportedOrder.textUnlessZero o.clientOrderId = _
      rw [hc, ReportedOrder.textUnlessZero, if_neg hz]
    refine ⟨_, heffect, .filled (Tracker.saysNothingLeft_iff.mp hl) ?_ ?_ ?_⟩
    · exact ReportedOrder.numbers_fill_iff.mpr ⟨hz, .inl hc.symm⟩
    · intro trade' ht'
      rw [hkey] at ht'
      obtain rfl := hd.plain _ trade' own trade ht' ht (by rw [hnumber])
      rw [ht'.unique ht, hnumber]
    · intro key trade' ht' hn
      rcases (ReportedOrder.numbers_fill_iff.mp hn).2 with hours | htheirs
      · exact hours.trans hc
      · exact absurd htheirs (hforeign key trade' ht')

/-- An event that closes an order is one that trackers listen to. -/
theorem Tracker.Closes.kind {t : Tracker} {id : Int64} {givenUp : Bool} {e : Event}
    (h : t.Closes id givenUp e) :
    e.kind = .attemptedCancel ∨ e.kind = .fillArrived := by
  cases h with
  | givenUp => exact .inl rfl
  | filled => exact .inr rfl

def Act.event? : Act → Option Event
  | .published e => some e
  | .sent _ => none

def cancellations (es : List Event) : List Event := es.filter fun e => e.kind = .orderCanceled

theorem cancellations_append (es es' : List Event) :
    cancellations (es ++ es') = cancellations es ++ cancellations es' :=
  List.filter_append ..

namespace Gateway

/-- A gateway whose bus is in service and idle, whose tracker listens to the ends of orders, and
which hands status replies to its desk. -/
structure Attentive (g : Gateway) : Prop where
  inService : g.hub.bus.InService
  idle : g.hub.bus.pending = 0
  cancels : ∃ i, g.hub.bus.Seated i .tracker .attemptedCancel
  fills : ∃ i, g.hub.bus.Seated i .tracker .fillArrived
  route : g.session.handler? Operation.orderStatus = some (.reply .status)

/-- A new gateway is attentive. -/
theorem attentive_new (account : Account) (provider : String) (credentials : Option Credentials)
    (directory : Directory) (capacity : Nat) (pollInterval : Duration)
    (observers : List EventKind) :
    (new account provider credentials directory capacity pollInterval observers).Attentive where
  inService :=
    newBus_keeps (P := Bus.InService) (fun _ kind listener h => h.subscribe kind listener) capacity
    observers
    (Bus.inService_new capacity)
  idle :=
    newBus_keeps (P := fun b => b.pending = 0) (fun b kind listener h =>
    (b.pending_subscribe kind listener).trans h)
    capacity observers rfl
  cancels := seated_newBus capacity observers (by decide)
  fills := seated_newBus capacity observers (by decide)
  route := by
    simp only [new, Session.registerAll, replyHandlers, List.foldl_cons, List.foldl_nil,
      Session.handler?_register]
    rw [if_neg (by decide), if_pos trivial]

/-- A reply, and the places whose dispatchers work when it has been handed on. -/
structure Turn where
  reply : Frame
  steps : List Nat

def turn (g : Gateway) (t : Turn) : Gateway := g.run (.deliver t.reply :: t.steps.map .dispatch)

/-- All that is published in a turn, by the desk and by listeners. -/
def published (g : Gateway) (t : Turn) : List Event :=
  let g' := g.deliver t.reply
  (g'.trace.drop g.trace.length).filterMap Act.event? ++ g'.hub.allReactions g'.reactor t.steps

def turns (g : Gateway) : List Turn → Gateway
  | [] => g
  | t :: ts => turns (g.turn t) ts

def allPublished (g : Gateway) : List Turn → List Event
  | [] => []
  | t :: ts => g.published t ++ allPublished (g.turn t) ts

def Drained (g : Gateway) : List Turn → Prop
  | [] => True
  | t :: ts => (g.turn t).hub.bus.pending = 0 ∧ Drained (g.turn t) ts

theorem run_dispatch (g : Gateway) (steps : List Nat) :
    g.run (steps.map .dispatch) = { g with hub := g.hub.dispatches g.reactor steps } := by
  induction steps generalizing g with
  | nil => rfl
  | cons i steps ih =>
    rw [List.map_cons, run_cons, ih]
    rfl

theorem turn_eq (g : Gateway) (t : Turn) :
    g.turn t =
      { g.deliver t.reply with
        hub := (g.deliver t.reply).hub.dispatches (g.deliver t.reply).reactor t.steps } :=
  run_dispatch (g.deliver t.reply) t.steps

theorem deliver_of_effect {g : Gateway} (ha : g.Attentive) {f : Frame} {e : Event}
    (hroute : Text.lower f.operation = Text.lower Operation.orderStatus)
    (he : ReplyKind.effect? .status g.directory f = some (g.directory, [e])) :
    g.deliver f = g.offer e := by
  have hhandler : g.session.handler? f.operation = some (.reply .status) := by
    rw [Session.handler?, hroute]
    exact ha.route
  simp only [deliver, hhandler, runHandler, he]
  rfl

theorem seated_dispatches {h : Hub Listener Floor} {react : Reactor Listener Floor} {i : Nat}
    {kind : EventKind} (hs : h.bus.Seated i .tracker kind) (steps : List Nat) :
    (h.dispatches react steps).bus.Seated i .tracker kind := by
  induction steps generalizing h with
  | nil => exact hs
  | cons j steps ih => exact ih (Hub.seated_act (a := .dispatch j) rfl hs)

section Turn

variable {g : Gateway} {t₀ : Tracker} {givenUp : Int64 → Bool}

/-- One reply closes the order it is about, once the bus is drained. -/
theorem turn_of_reports (ha : g.Attentive) (hd : t₀.Distinct) (hw : g.tracker.Within t₀) {t : Turn}
    {id : Int64} (hid : ∃ key trade, t₀.Tracks key trade ∧ trade.orderId = id)
    (hr : Reports t₀ givenUp t.reply id) (hdrained : (g.turn t).hub.bus.pending = 0) :
    (g.turn t).Attentive ∧ ∃ r, g.tracker.Closed id (givenUp id) r ∧ (g.turn t).tracker = r.world ∧
      cancellations (g.published t) = r.offers := by
  obtain ⟨e, heffect, hcloses⟩ := hr.closes hd hid g.directory
  have hdeliver := deliver_of_effect ha hr.1 heffect
  have hturn := g.turn_eq t
  rw [hdeliver] at hturn
  have hhub : (g.turn t).hub = (g.hub.post e).1.dispatches (Listener.react g.visits) t.steps := by
    rw [hturn]
    rfl
  obtain ⟨i, hseat⟩ : ∃ i, g.hub.bus.Seated i .tracker e.kind := by
    rcases hcloses.kind with hk | hk
    · exact hk ▸ ha.cancels
    · exact hk ▸ ha.fills
  rw [hhub] at hdrained
  obtain ⟨r, hclosed, hworld, hsaid⟩ :=
    Hub.closed_of_drained ha.idle hseat (hcloses.within hw) (hd.within hw) hdrained
  refine ⟨?_, r, hclosed, ?_, ?_⟩
  · obtain ⟨j, hcancels⟩ := ha.cancels
    obtain ⟨k, hfills⟩ := ha.fills
    refine ⟨?_, hhub ▸ hdrained, ⟨j, ?_⟩, ⟨k, ?_⟩, ?_⟩
    · rw [hhub]
      exact Hub.inService_dispatches (ha.inService.post e) t.steps
    · rw [hhub]
      exact seated_dispatches (hcancels.post e) t.steps
    · rw [hhub]
      exact seated_dispatches (hfills.post e) t.steps
    · rw [hturn]
      exact ha.route
  · rw [tracker, hhub, hworld]
  · have hpublished : g.published t = e :: r.offers := by
      rw [published, hdeliver, ← hsaid]
      change ((g.trace ++ [Act.published e]).drop g.trace.length).filterMap Act.event? ++ _ = _
      rw [List.drop_left]
      rfl
    have hkind : e.kind ≠ .orderCanceled := by
      rcases hcloses.kind with hk | hk <;> rw [hk] <;> decide
    rw [hpublished, cancellations, List.filter_cons, if_neg (by simpa using hkind)]
    exact List.filter_eq_self.mpr fun e' he' => by simpa using hclosed.kind_of_offered he'

/-- Replies about tracked orders, in any order and however often, close those orders and no others;
those that are given up are announced. -/
theorem turns_of_reports (ha : g.Attentive) (hd : t₀.Distinct) (hw : g.tracker.Within t₀)
    {ts : List Turn} {ids : List Int64}
    (hr : List.Forall₂ (fun t id => Reports t₀ givenUp t.reply id ∧ ∃ key trade,
      t₀.Tracks key trade ∧ trade.orderId = id) ts ids)
    (hdrained : g.Drained ts) :
    (∀ key trade, (g.turns ts).tracker.Tracks key trade ↔ g.tracker.Tracks key trade ∧
      trade.orderId ∉ ids) ∧
      (cancellations (g.allPublished ts)).Perm (g.tracker.announcements fun n =>
        n ∈ ids && givenUp n) := by
  induction hr generalizing g with
  | nil => exact ⟨by simp [turns], by simp [allPublished, cancellations, Tracker.announcements]⟩
  | @cons t id ts ids hfirst _ ih =>
    obtain ⟨hreports, hid⟩ := hfirst
    obtain ⟨hidle, hlater⟩ := hdrained
    obtain ⟨hattentive, r, hclosed, hworld, hsaid⟩ := turn_of_reports ha hd hw hid hreports hidle
    have hdistinct := hd.within hw
    have hwithin : (g.turn t).tracker.Within g.tracker := hworld ▸ hclosed.within hdistinct.apart
    obtain ⟨htracks, hannounced⟩ := ih hattentive (hwithin.trans hw) hlater
    refine ⟨fun key trade => ?_, ?_⟩
    · rw [turns, htracks, hworld, hclosed.tracks_iff hdistinct.apart,
        List.mem_cons, not_or, and_assoc]
    · rw [allPublished, cancellations_append, hsaid]
      have hperm := hclosed.announcements_perm hdistinct.apart fun n => n ∈ ids && givenUp n
      rw [← hworld] at hperm
      refine (hannounced.append_left _).trans (hperm.trans (.of_eq ?_))
      refine Tracker.announcements_congr fun key trade _ => ?_
      by_cases hn : trade.orderId = id <;> simp [hn]

end Turn

theorem inService_offers {g : Gateway} (hs : g.hub.bus.InService) (es : List Event) :
    (es.foldl offer g).hub.bus.InService := by
  induction es generalizing g with
  | nil => exact hs
  | cons e es ih => exact ih (g := g.offer e) (hs.post e)

theorem inService_deliver {g : Gateway} (hs : g.hub.bus.InService) (f : Frame) :
    (g.deliver f).hub.bus.InService := by
  unfold deliver
  split
  · unfold runHandler
    split
    · exact hs
    · exact hs
    · split
      · next effect _ => exact inService_offers (g := { g with directory := effect.1 }) hs effect.2
      · exact hs
  · exact hs

/-- Whatever replies come, the bus can be drained after each. -/
theorem exists_drained_turns {g : Gateway} (hs : g.hub.bus.InService) (replies : List Frame) :
    ∃ ts : List Turn, ts.map (·.reply) = replies ∧ g.Drained ts := by
  induction replies generalizing g with
  | nil => exact ⟨[], rfl, trivial⟩
  | cons f replies ih =>
    have hdelivered := inService_deliver hs f
    obtain ⟨steps, hsteps⟩ := Hub.exists_drained (Listener.calm (g.deliver f).visits) hdelivered
    have hturn := g.turn_eq ⟨f, steps⟩
    have hnext : (g.turn ⟨f, steps⟩).hub.bus.InService := by
      rw [hturn]
      exact Hub.inService_dispatches hdelivered steps
    obtain ⟨ts, hreplies, hdrained⟩ := ih hnext
    exact ⟨⟨f, steps⟩ :: ts, by rw [List.map_cons, hreplies], hturn ▸ hsteps, hdrained⟩

theorem attentive_poll {g : Gateway} (ha : g.Attentive) : g.poll.Attentive := by
  obtain ⟨⟨hub, link, trace, hkept⟩, hbus, -⟩ := g.polled_poll
  have hsession : g.poll.session = g.session := by rw [hkept]
  exact ⟨hbus ▸ ha.inService, hbus ▸ ha.idle, hbus ▸ ha.cancels, hbus ▸ ha.fills,
    hsession ▸ ha.route⟩

theorem tracks_poll_iff {g : Gateway} {key : String} {trade : TradeRef} :
    g.poll.tracker.Tracks key trade ↔ g.tracker.Tracks key trade := by
  rw [Tracker.Tracks, g.polled_poll.trades, Tracker.Tracks]

/-- One poll reconciles all orders that have come to their end. Each of its queries is answered, by
a reply that reports the end of the order it asks about, and there are no other replies. Then the
bus can be drained after each reply, and however dispatchers do this, no order is tracked in the end
and the cancellations published are those of the orders that were given up. -/
theorem reconciled_by_one_poll (g : Gateway) (ha : g.Attentive) (hd : g.tracker.Distinct)
    (givenUp : Int64 → Bool) (n : Nat) (hsent : g.poll.tracker.lastPoll = some ⟨n, 0⟩)
    (replies : List Frame)
    (hanswered : ∀ q ∈ g.queries, ∀ id, q.AsksAbout id → ∃ f ∈ replies,
      Reports g.tracker givenUp f id)
    (hanswers : ∀ f ∈ replies, ∃ q ∈ g.queries, ∃ id, q.AsksAbout id ∧
      Reports g.tracker givenUp f id) :
    (∃ ts : List Turn, ts.map (·.reply) = replies ∧ g.poll.Drained ts) ∧
    ∀ ts : List Turn, ts.map (·.reply) = replies → g.poll.Drained ts →
      (g.poll.turns ts).tracker.trades.entries = [] ∧
      (cancellations (g.poll.allPublished ts)).Perm
        ((g.tracker.trades.entries.filter fun e => givenUp e.2.orderId).map fun e =>
          .orderCanceled e.1) := by
  have hattentive := attentive_poll ha
  refine ⟨exists_drained_turns hattentive.inService replies, ?_⟩
  rintro ts rfl hdrained
  have hasks := asksAbout_queries hsent
  have hknown : ∀ t ∈ ts, ∃ id, Reports g.tracker givenUp t.reply id ∧
      ∃ key trade, g.tracker.Tracks key trade ∧ trade.orderId = id := by
    intro t ht
    obtain ⟨q, hq, id, hask, hreports⟩ := hanswers t.reply (List.mem_map_of_mem ht)
    obtain ⟨trade, htrade, hown⟩ := exists_of_forall₂_left hasks hq
    obtain ⟨key, hkey⟩ := mem_snapshot_iff.mp htrade
    exact ⟨id, hreports, key, trade, hkey, hown.unique hask⟩
  obtain ⟨ids, hids⟩ := exists_forall₂_of_forall hknown
  have hall : ∀ key trade, g.tracker.Tracks key trade → trade.orderId ∈ ids := by
    intro key trade hkey
    obtain ⟨q, hq, hask⟩ := exists_of_forall₂_left hasks.flip (mem_snapshot_iff.mpr ⟨key, hkey⟩)
    obtain ⟨f, hf, hreports⟩ := hanswered q hq _ hask
    obtain ⟨t, ht, rfl⟩ := List.mem_map.mp hf
    obtain ⟨id, hid, hreports', -⟩ := exists_of_forall₂_left hids ht
    exact hreports.unique hreports' ▸ hid
  have hwithin : g.poll.tracker.Within g.tracker := fun key trade => tracks_poll_iff.mp
  obtain ⟨htracks, hannounced⟩ := turns_of_reports hattentive hd hwithin hids hdrained
  refine ⟨List.eq_nil_iff_forall_not_mem.mpr fun e he => ?_, hannounced.trans (.of_eq ?_)⟩
  · obtain ⟨hkey, hleft⟩ := (htracks e.1 e.2).mp (Assoc.get?_eq_some_iff.mpr he)
    exact hleft (hall e.1 e.2 (tracks_poll_iff.mp hkey))
  · have hgiven : g.poll.tracker.announcements (fun n => n ∈ ids && givenUp n) =
        g.poll.tracker.announcements givenUp :=
      Tracker.announcements_congr fun key trade hkey => by
        simp [hall key trade (tracks_poll_iff.mp hkey)]
    rw [hgiven, Tracker.announcements, g.polled_poll.trades]

/-- A gateway with a queue for one event and two tracked orders. -/
def twoOpen : Gateway :=
  let g := new ⟨1, 9⟩ "kiiex" none .empty 1 ⟨0⟩ [.orderCanceled]
  let tracker := (g.tracker.track "a" ⟨1, 9, 1⟩).track "b" ⟨1, 9, 2⟩
  { g with
    link := { state := .connected }
    hub := { g.hub with world := { g.hub.world with tracker } } }

def firstCanceled : Frame := ⟨.response, 2, Operation.orderStatus,
  "\x7b\"orders\":[\x7b\"OrderId\":11,\"ClientOrderId\":1,\"OrderState\":\"Canceled\"\x7d]\x7d"⟩

def secondRejected : Frame := ⟨.response, 4, Operation.orderStatus,
  "\x7b\"orders\":[\x7b\"OrderId\":12,\"ClientOrderId\":2,\"OrderState\":\"REJECTED\"\x7d]\x7d"⟩

/-- Whether a reply lists one order, and what of it, is found out by reading it. -/
theorem exists_listed {f : Frame} {p : ReportedOrder → Bool}
    (h : ((f.body?.bind StatusReply.ofJson?).any fun r =>
      r.orders.length = 1 && r.orders.all p) = true) :
    ∃ o, f.body?.bind StatusReply.ofJson? = some { orders := [o] } ∧ p o = true := by
  obtain ⟨⟨orders⟩, hr, hcheck⟩ := (Option.any_eq_true _ _).mp h
  simp only [Bool.and_eq_true, decide_eq_true_eq] at hcheck
  obtain ⟨o, rfl⟩ := List.length_eq_one_iff.mp hcheck.1
  exact ⟨o, hr, by simpa using hcheck.2⟩

theorem reports_canceled {f : Frame} {id : Int64} (venueId : Int64)
    (hroute : f.operation = Operation.orderStatus)
    (h : ((f.body?.bind StatusReply.ofJson?).any fun r => r.orders.length = 1 &&
      r.orders.all fun o => o.clientOrderId = id && o.orderId = venueId && o.isGivenUp) = true)
    (hz : venueId ≠ 0) {t : Tracker} (hforeign : ∀ e ∈ t.trades.entries, e.2.orderId ≠ venueId) :
    Reports t (fun _ => true) f id := by
  obtain ⟨o, ho, hcheck⟩ := exists_listed h
  simp only [Bool.and_eq_true, decide_eq_true_eq] at hcheck
  obtain ⟨⟨hc, hv⟩, hs⟩ := hcheck
  refine ⟨by rw [hroute], o, ho, hc, hv ▸ hz, fun key trade ht => ?_, .givenUp hs⟩
  rw [hv]
  exact hforeign (key, trade) (Assoc.get?_eq_some_iff.mp ht)

theorem twoOpen_reconciled :
    ∃ ts : List Turn, ts.map (·.reply) = [secondRejected, firstCanceled, secondRejected] ∧
    twoOpen.poll.Drained ts ∧
      (twoOpen.poll.turns ts).tracker.trades.entries = [] ∧
      (cancellations (twoOpen.poll.allPublished ts)).Perm [.orderCanceled "a",
        .orderCanceled "b"] := by
  have hnew := attentive_new ⟨1, 9⟩ "kiiex" none .empty 1 ⟨0⟩ [.orderCanceled]
  have ha : twoOpen.Attentive := ⟨hnew.inService, hnew.idle, hnew.cancels, hnew.fills, hnew.route⟩
  have hd : twoOpen.tracker.Distinct := by decide +kernel
  have hsent : twoOpen.poll.tracker.lastPoll = some ⟨2, 0⟩ := by decide +kernel
  have hfirst : Reports twoOpen.tracker (fun _ => true) firstCanceled 1 :=
    reports_canceled 11 rfl (by decide +kernel) (by decide) (by decide)
  have hsecond : Reports twoOpen.tracker (fun _ => true) secondRejected 2 :=
    reports_canceled 12 rfl (by decide +kernel) (by decide) (by decide)
  have hsnapshot : twoOpen.tracker.snapshot twoOpen.visits = [⟨1, 9, 1⟩, ⟨1, 9, 2⟩] := by decide
  have hasks := asksAbout_queries hsent
  rw [hsnapshot] at hasks
  obtain ⟨⟨ts, hreplies, hdrained⟩, hall⟩ :=
    reconciled_by_one_poll twoOpen ha hd (fun _ => true) 2 hsent
    [secondRejected, firstCanceled, secondRejected]
    (by
      intro q hq id hask
      obtain ⟨trade, htrade, hown⟩ := exists_of_forall₂_left hasks hq
      obtain rfl := hown.unique hask
      simp only [List.mem_cons, List.not_mem_nil, or_false] at htrade
      rcases htrade with rfl | rfl
      · exact ⟨_, by simp, hfirst⟩
      · exact ⟨_, by simp, hsecond⟩)
    (by
      have hquery : ∀ trade ∈ [TradeRef.mk 1 9 1, ⟨1, 9, 2⟩], ∃ q ∈ twoOpen.queries,
          q.AsksAbout trade.orderId :=
        fun trade htrade => exists_of_forall₂_left hasks.flip htrade
      obtain ⟨q, hq, hask⟩ := hquery ⟨1, 9, 1⟩ (by simp)
      obtain ⟨q', hq', hask'⟩ := hquery ⟨1, 9, 2⟩ (by simp)
      intro f hf
      simp only [List.mem_cons, List.not_mem_nil, or_false] at hf
      rcases hf with rfl | rfl | rfl
      · exact ⟨q', hq', 2, hask', hsecond⟩
      · exact ⟨q, hq, 1, hask, hfirst⟩
      · exact ⟨q', hq', 2, hask', hsecond⟩)
  obtain ⟨hempty, hannounced⟩ := hall ts hreplies hdrained
  exact ⟨ts, hreplies, hdrained, hempty, hannounced⟩

end Gateway

end VenueGateway
