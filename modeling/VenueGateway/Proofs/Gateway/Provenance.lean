import Mathlib.Data.List.Induction
import VenueGateway.Proofs.Gateway.Entries
import VenueGateway.Proofs.Json.Wire

/-!
One order under three names. What is tracked, what is sent to place an order and what is sent to ask
for its state carry the same numbers, those of an order that was submitted. This holds whatever
happens in between, also to a poll: it asks about the orders that were tracked when it began, and
others may come and go before it ends.
-/

namespace VenueGateway

open Json (Value)

namespace Frame

def number? (f : Frame) (name : String) : Option Int64 :=
  (f.body?.bind (Value.field? name)).bind Value.int64?

structure Places (f : Frame) (trade : TradeRef) : Prop where
  operation : f.operation = Operation.sendOrder
  omsId : f.number? "OMSId" = some trade.omsId
  accountId : f.number? "AccountId" = some trade.accountId
  orderId : f.number? "ClientOrderId" = some trade.orderId

/-- A frame asks for the state of the order with a reference. -/
structure Inquires (f : Frame) (trade : TradeRef) : Prop where
  operation : f.operation = Operation.orderStatus
  omsId : f.number? "omsId" = some trade.omsId
  accountId : f.number? "accountId" = some trade.accountId
  orderId : f.number? "orderId" = some trade.orderId

theorem number?_of_wire {f : Frame} {fs : List (String × Value)}
    (hf : f.payload = (Value.fields fs).wire) (hfs : ∀ x ∈ fs, x.2.WellFormed)
    (hkeys : (fs.map Prod.fst).Nodup) {name : String} {n : Int64} (h : (name, .int64 n) ∈ fs) :
    f.number? name = some n := by
  rw [number?, body?, hf, Value.parse?_wire hfs, Option.bind_some, Value.field?_sortMembers hkeys h,
    Option.bind_some, Value.int64?_int64]

/-- What the payload of an order places is read off the frame. -/
theorem places_of_wire {f : Frame} {account : Account} {id : Int64} {c : SubmitOrder}
    (hop : f.operation = Operation.sendOrder)
    (hf : f.payload = (OrderRequest.ofCommand account id c).toJson.wire) :
    f.Places (.onAccount account c.id) := by
  have hnumber := @number?_of_wire f _ hf (by
    simp only [List.forall_mem_cons]
    exact ⟨Value.wellFormed_int _, Value.wellFormed_int _, Value.wellFormed_int _,
      Value.wellFormed_int _, Value.wellFormed_int _, Value.wellFormed_int _,
      Value.wellFormed_bool _, Value.wellFormed_int _, Value.wellFormed_real _,
      Value.wellFormed_int _, Value.wellFormed_int _, Value.wellFormed_real _, nofun⟩) (by simp)
  exact ⟨hop, hnumber (by simp [OrderRequest.ofCommand, TradeRef.onAccount]),
    hnumber (by simp [OrderRequest.ofCommand, TradeRef.onAccount]),
    hnumber (by simp [OrderRequest.ofCommand, TradeRef.onAccount])⟩

theorem inquires_of_wire {f : Frame} {trade : TradeRef} (hop : f.operation = Operation.orderStatus)
    (hf : f.payload = (StatusRequest.ofTrade trade).toJson.wire) : f.Inquires trade := by
  have hnumber := @number?_of_wire f _ hf (by
    simp only [List.forall_mem_cons]
    exact ⟨Value.wellFormed_int _, Value.wellFormed_int _, Value.wellFormed_int _, nofun⟩) (by simp)
  exact ⟨hop, hnumber (by simp [StatusRequest.ofTrade]), hnumber (by simp [StatusRequest.ofTrade]),
    hnumber (by simp [StatusRequest.ofTrade])⟩

end Frame

theorem Fares.eq_of_mem_orders {l : Link} {login : Option LoginRequest} {operation payload : String}
    {logins orders : List Frame} {s : Settlement}
    (h : Fares l login operation payload logins orders s) {f : Frame} (hf : f ∈ orders) :
    f = (l.behind login).nextFrame operation payload := by
  cases h with
  | loginLost | lost | loggedInAndLost => cases hf
  | done | loggedInAndDone => exact List.mem_singleton.mp hf

namespace Gateway

/-- Why a frame is written at an action, if it is about an order: it places the order that is
submitted, or a poll asks for the state of an order that is tracked. -/
inductive Warranted (g : Gateway) (a : Action) (f : Frame) : Prop
  | places {c : SubmitOrder} (hc : Submits g a c) (hf : f.Places (.onAccount g.account c.id))
  | inquires {key : String} {trade : TradeRef} (ha : a = .poll) (ht : g.tracker.Tracks key trade)
    (hf : f.Inquires trade)
  | other (hplaces : f.operation ≠ Operation.sendOrder)
    (hinquires : f.operation ≠ Operation.orderStatus)

def written (g g' : Gateway) : List Frame := g'.link.accepted.drop g.link.accepted.length

theorem written_eq {g g' : Gateway} {frames : List Frame}
    (h : g'.link.accepted = g.link.accepted ++ frames) :
    written g g' = frames := by
  rw [written, h, List.drop_left]

section Writing

variable {g g' : Gateway} {a : Action} {f : Frame}

theorem not_mem_written (h : g'.link.accepted = g.link.accepted) : f ∉ written g g' := by
  have hnone : g'.link.accepted = g.link.accepted ++ [] := by rw [h, List.append_nil]
  rw [written_eq hnone]
  exact List.not_mem_nil

/-- A login is about no order. -/
theorem Warranted.login {l : Link} {login : Option LoginRequest} {operation payload : String}
    {logins orders : List Frame} {s : Settlement}
    (h : Fares l login operation payload logins orders s) (hf : f ∈ logins) : Warranted g a f := by
  have hop := h.operation_of_mem_logins hf
  exact .other (by rw [hop]; decide) (by rw [hop]; decide)

/-- Nor is a request for something else, with the login in front of it. -/
theorem Warranted.of_fares {l : Link} {login : Option LoginRequest} {operation payload : String}
    {logins orders : List Frame} {s : Settlement}
    (h : Fares l login operation payload logins orders s)
    (hplaces : operation ≠ Operation.sendOrder) (hinquires : operation ≠ Operation.orderStatus)
    (hf : f ∈ logins ++ orders) : Warranted g a f := by
  rcases List.mem_append.mp hf with hf | hf
  · exact .login h hf
  · rw [h.eq_of_mem_orders hf]
    exact .other hplaces hinquires

/-- A command warrants what it sends. -/
theorem Obeys.warranted (h : Obeys g g' a) (hf : f ∈ written g g') : Warranted g a f := by
  cases h with
  | nothing h =>
    obtain ⟨m, rfl⟩ := h
    exact absurd hf (not_mem_written rfl)
  | placed hc hdone =>
    rw [written_eq hdone.accepted] at hf
    rcases List.mem_append.mp hf with hf | hf
    · exact .login hdone.fares hf
    · obtain rfl := hdone.fares.eq_of_mem_orders hf
      exact .places hc (Frame.places_of_wire rfl rfl)
  | withdrawn hdone =>
    rw [written_eq hdone.accepted] at hf
    exact .of_fares hdone.fares (show Operation.cancelOrder ≠ _ by decide)
      (show Operation.cancelOrder ≠ _ by decide) hf

/-- A query that is sent is about the order it was made for. -/
theorem sends_ask (g : Gateway) (trade : TradeRef) :
    ∃ frames, Sends g (g.ask trade).1 frames ∧ ∀ f ∈ frames, f.Inquires trade := by
  cases hs : (g.link.send Operation.orderStatus (StatusRequest.ofTrade trade).toJson.wire).2 with
  | ok n =>
    refine ⟨_, sends_of_ok hs, fun f hf => ?_⟩
    obtain rfl := List.mem_singleton.mp hf
    exact Frame.inquires_of_wire rfl rfl
  | error e => exact ⟨[], sends_of_error hs, nofun⟩

/-- A poll sends nothing but queries about its orders. -/
theorem sends_asks (g : Gateway) (trades : List TradeRef) :
    ∃ frames, Sends g (Tracker.askAll ask g trades).1 frames ∧ ∀ f ∈ frames, ∃ trade ∈ trades,
    f.Inquires trade := by
  induction trades generalizing g with
  | nil => exact ⟨[], .nil g, nofun⟩
  | cons trade trades ih =>
    obtain ⟨first, hfirst, hasks⟩ := g.sends_ask trade
    obtain ⟨rest, hrest, hmore⟩ := ih (g.ask trade).1
    refine ⟨first ++ rest, hfirst.trans hrest, fun f hf => ?_⟩
    rcases List.mem_append.mp hf with hf | hf
    · exact ⟨trade, List.mem_cons_self, hasks f hf⟩
    · obtain ⟨trade', hmem, hf'⟩ := hmore f hf
      exact ⟨trade', List.mem_cons_of_mem _ hmem, hf'⟩

theorem warranted_of_poll (hf : f ∈ written g g.poll) : Warranted g .poll f := by
  obtain ⟨frames, hsends, hasks⟩ := g.sends_asks (g.tracker.snapshot g.visits)
  have haccepted : g.poll.link.accepted = g.link.accepted ++ frames := hsends.accepted
  rw [written_eq haccepted] at hf
  obtain ⟨trade, hmem, hf⟩ := hasks f hf
  obtain ⟨key, ht⟩ := mem_snapshot_iff.mp hmem
  exact .inquires rfl ht hf

/-- Whatever is written about an order at an action has its reason. -/
theorem warranted_of_act (hf : f ∈ written g (g.act a)) : Warranted g a f := by
  cases a with
  | message queue body => exact (g.obeys_message queue body).warranted hf
  | submit c => exact (g.obeys_submit c).warranted hf
  | cancel c =>
    rw [act] at hf
    exact (g.obeys_cancel c (.cancel c)).warranted hf
  | cancelAll =>
    obtain ⟨logins, orders, hs, hfares⟩ :=
      g.exists_fares Operation.cancelAllOrders (CancelAllRequest.onAccount g.account).toJson
    have haccepted : (g.act .cancelAll).link.accepted = g.link.accepted ++ (logins ++ orders) :=
      hs.accepted
    rw [written_eq haccepted] at hf
    exact .of_fares hfares (by decide) (by decide) hf
  | requestInstruments =>
    cases hs :
      (g.link.send Operation.instruments (ListRequest.mk g.account.omsId).toJson.wire).2 with
    | ok n =>
      have haccepted : (g.act .requestInstruments).link.accepted = g.link.accepted ++ [_] :=
        Link.accepted_send_of_ok hs
      rw [written_eq haccepted, List.mem_singleton] at hf
      rw [hf]
      exact .other (show Operation.instruments ≠ _ by decide)
        (show Operation.instruments ≠ _ by decide)
    | error e => exact absurd hf (not_mem_written (Link.accepted_send_of_error hs))
  | deliver f' =>
    obtain ⟨_, _, _, _, heq⟩ := g.exists_deliver_eq f'
    exact absurd hf (not_mem_written (by rw [act, heq]))
  | receive text =>
    obtain ⟨_, _, _, _, heq⟩ := g.exists_receive_eq text
    exact absurd hf (not_mem_written (by rw [act, heq]))
  | poll => exact warranted_of_poll hf
  | _ => exact absurd hf (not_mem_written rfl)

theorem kept_cancel (g : Gateway) (c : CancelOrder) : Kept g (g.cancel c).1 := by
  unfold cancel
  split
  · exact ⟨_, _, _, rfl⟩
  · have hpublished : Kept g (g.publish (.orderCanceled c.orderId)) := ⟨_, _, _, rfl⟩
    exact (hpublished.trans (kept_sendLoggedIn _ _ _)).trans (kept_countSent _ _)

theorem account_act (g : Gateway) (a : Action) : (g.act a).account = g.account := by
  cases a with
  | message queue body =>
    rcases g.message_cases queue body with h | ⟨c, -, -, h⟩ | ⟨c, h⟩
    · rw [act, h]
    · rw [act, h, (kept_submit g c).account]
    · rw [act, h, (kept_cancel g c).account]
  | submit c => rw [act, (kept_submit g c).account]
  | cancel c => rw [act, (kept_cancel g c).account]
  | cancelAll => rw [act, cancelAll, (kept_sendLoggedIn g _ _).account]
  | deliver f =>
    obtain ⟨_, _, _, _, heq⟩ := g.exists_deliver_eq f
    rw [act, heq]
  | receive text =>
    obtain ⟨_, _, _, _, heq⟩ := g.exists_receive_eq text
    rw [act, heq]
  | poll => exact (polled_poll g).kept.account
  | requestInstruments | dispatch i | settle | linkState state | linkRefusal refusal
    | schedule schedule => rfl

end Writing

end Gateway

namespace Busy

theorem run_concat (b : Busy) (ms : List Move) (m : Move) :
    b.run (ms ++ [m]) = (b.run ms).step m := by
  rw [run, List.foldl_append]
  rfl

theorem step_ask_cases (b : Busy) (n : Nat) :
    b.step (.ask n) = b ∨ ∃ began trade pending sent, b.polls[n]? =
      some ⟨began, trade :: pending, sent⟩ ∧
      b.step (.ask n) = ⟨(b.gateway.ask trade).1,
        b.polls.set n ⟨began, pending, sent ++ [(b.gateway.ask trade).2]⟩⟩ := by
  simp only [step]
  split
  · next began trade pending sent hp => exact .inr ⟨began, trade, pending, sent, hp, rfl⟩
  · exact .inl rfl

theorem step_finish_cases (b : Busy) (n : Nat) :
    b.step (.finish n) = b ∨ ∃ sent, b.step (.finish n) =
      ⟨b.gateway.notePoll sent, b.polls.eraseIdx n⟩ := by
  simp only [step]
  split
  · next sent _ => exact .inr ⟨sent, rfl⟩
  · exact .inl rfl

def written (b : Busy) (m : Move) : List Frame := Gateway.written b.gateway (b.step m).gateway

/-- A move is a step of a poll that began with the given tracker. -/
inductive Polls (b : Busy) : Move → Tracker → Prop
  | atOnce : Polls b (.act .poll) b.gateway.tracker
  | underWay {n : Nat} {p : Poll} (hp : b.polls[n]? = some p) : Polls b (.ask n) p.began

/-- An entry came in when an order was submitted whose instrument was known, under the key of that
order, and carries the account of the gateway and the number of the order. -/
def Entered (start : Busy) (ms : List Move) (key : String) (trade : TradeRef) : Prop :=
  ∃ before a after c, ms = before ++ .act a :: after ∧ (start.run before).gateway.Submits a c ∧
    c.trackingKey = key ∧ trade = .onAccount start.gateway.account c.id

/-- A poll began at some time, with the tracker as it was then. -/
def Begun (start : Busy) (ms : List Move) (began : Tracker) : Prop :=
  ∃ before after, ms = before ++ .begin :: after ∧ began = (start.run before).gateway.tracker

section Runs

variable {start : Busy} {ms : List Move} {key : String} {trade : TradeRef} {began : Tracker}

theorem Entered.concat (h : Entered start ms key trade) (m : Move) :
    Entered start (ms ++ [m]) key trade := by
  obtain ⟨before, a, after, c, rfl, hc, hkey, htrade⟩ := h
  exact ⟨before, a, after ++ [m], c, by simp, hc, hkey, htrade⟩

theorem Begun.concat (h : Begun start ms began) (m : Move) : Begun start (ms ++ [m]) began := by
  obtain ⟨before, after, rfl, hbegan⟩ := h
  exact ⟨before, after ++ [m], by simp, hbegan⟩

structure Sound (start : Busy) (ms : List Move) (b : Busy) : Prop where
  account : b.gateway.account = start.gateway.account
  vouched : b.gateway.hub.Vouched (Entered start ms)
  pending : ∀ p ∈ b.polls, ∀ trade ∈ p.pending, ∃ key, p.began.Tracks key trade
  begun : ∀ p ∈ b.polls, Begun start ms p.began

/-- The step of the induction: a move brings in an entry, begins a poll, or asks one query. -/
theorem sound_step (h : Sound start ms (start.run ms)) (m : Move) :
    Sound start (ms ++ [m]) ((start.run ms).step m) := by
  have hvouched := h.vouched.mono fun _ _ hentered => hentered.concat m
  have hbegun : ∀ p ∈ (start.run ms).polls, Begun start (ms ++ [m]) p.began :=
    fun p hp => (h.begun p hp).concat m
  cases m with
  | act a =>
    refine ⟨((start.run ms).gateway.account_act a).trans h.account, ?_, h.pending, hbegun⟩
    refine Gateway.vouched_act hvouched fun c hc => ⟨ms, a, [], c, rfl, hc, rfl, ?_⟩
    rw [h.account]
  | begin =>
    refine ⟨h.account, hvouched, fun p hp => ?_, fun p hp => ?_⟩
    · rcases List.mem_append.mp hp with hp | hp
      · exact h.pending p hp
      · obtain rfl := List.mem_singleton.mp hp
        exact fun trade ht => Gateway.mem_snapshot_iff.mp ht
    · rcases List.mem_append.mp hp with hp | hp
      · exact hbegun p hp
      · obtain rfl := List.mem_singleton.mp hp
        exact ⟨ms, [], rfl, rfl⟩
  | ask n =>
    rcases (start.run ms).step_ask_cases n with hsame | ⟨began, trade, pending, sent, hp, hstep⟩
    · rw [hsame]
      exact ⟨h.account, hvouched, h.pending, hbegun⟩
    · have hmem := List.mem_of_getElem? hp
      obtain ⟨frames, hsends, -⟩ := (start.run ms).gateway.sends_ask trade
      rw [hstep]
      refine ⟨h.account, hsends.vouched hvouched, fun p hp' => ?_, fun p hp' => ?_⟩
      · rcases List.mem_or_eq_of_mem_set hp' with hp' | rfl
        · exact h.pending p hp'
        · exact fun trade' ht => h.pending _ hmem trade' (List.mem_cons_of_mem _ ht)
      · rcases List.mem_or_eq_of_mem_set hp' with hp' | rfl
        · exact hbegun p hp'
        · have hbegan := hbegun _ hmem
          exact hbegan
  | finish n =>
    rcases (start.run ms).step_finish_cases n with hsame | ⟨sent, hstep⟩
    · rw [hsame]
      exact ⟨h.account, hvouched, h.pending, hbegun⟩
    · rw [hstep]
      exact ⟨h.account, hvouched.congr rfl rfl,
        fun p hp => h.pending p (List.mem_of_mem_eraseIdx hp),
        fun p hp => hbegun p (List.mem_of_mem_eraseIdx hp)⟩

theorem sound_run (h : Sound start [] start) (ms : List Move) : Sound start ms (start.run ms) := by
  induction ms using List.reverseRecOn with
  | nil => exact h
  | append_singleton ms m ih =>
    rw [run_concat]
    exact sound_step ih m

end Runs

structure SameOrder (start : Busy) (ms : List Move) : Prop where
  /-- An entry that is tracked came in by a submission and carries the numbers of its order. -/
  tracked : ∀ key trade, (start.run ms).gateway.tracker.Tracks key trade →
    Entered start ms key trade
  /-- A frame that places an order is written when the order is submitted and carries its
  numbers. -/
  placed : ∀ m, ∀ f ∈ (start.run ms).written m, f.operation = Operation.sendOrder →
    ∃ a c, m = .act a ∧ (start.run ms).gateway.Submits a c ∧
      f.Places (.onAccount start.gateway.account c.id)
  /-- A frame that asks for the state of an order is written by a poll and carries the numbers of an
  entry that was tracked when the poll began. -/
  asked : ∀ m, ∀ f ∈ (start.run ms).written m, f.operation = Operation.orderStatus →
    ∃ began key trade, (start.run ms).Polls m began ∧ began.Tracks key trade ∧ f.Inquires trade
  /-- A poll under way began at one of the moves. -/
  begun : ∀ p ∈ (start.run ms).polls, Begun start ms p.began

/-- A gateway that has done nothing yet, whose tracker walks through its orders in a given way. -/
def opening (account : Account) (provider : String) (credentials : Option Credentials)
    (directory : Directory) (capacity : Nat) (pollInterval : Duration) (observers : List EventKind)
    (visits : VisitOrder Tracker.Entry) : Busy :=
  let g := Gateway.new account provider credentials directory capacity pollInterval observers
  ⟨{ g with visits }, []⟩

theorem sound_opening (account : Account) (provider : String) (credentials : Option Credentials)
    (directory : Directory) (capacity : Nat) (pollInterval : Duration) (observers : List EventKind)
    (visits : VisitOrder Tracker.Entry) :
    let start :=
      opening account provider credentials directory capacity pollInterval observers visits
    Sound start [] start where
  account := rfl
  vouched := {
    unqueued := fun i e he => by
      have hidle :=
        (Gateway.attentive_new account provider credentials directory capacity pollInterval
        observers).idle
      have hqueue := Bus.queue_eq_nil_of_pending hidle i
      change e ∈ (Gateway.new account provider credentials directory capacity pollInterval
        observers).hub.bus.queue i at he
      rw [hqueue] at he
      cases he
    entries := nofun }
  pending := nofun
  begun := nofun

/-- What a move writes places the order that it submits, or asks about an order that a poll met, or
is about no order. -/
theorem reason_of_step {start b : Busy} {ms : List Move} (h : Sound start ms b) {m : Move}
    {f : Frame} (hf : f ∈ b.written m) :
    (∃ a c, m = .act a ∧ b.gateway.Submits a c ∧ f.Places (.onAccount b.gateway.account c.id)) ∨
      (∃ began key trade, b.Polls m began ∧ began.Tracks key trade ∧ f.Inquires trade) ∨
      f.operation ≠ Operation.sendOrder ∧ f.operation ≠ Operation.orderStatus := by
  cases m with
  | act a =>
    cases Gateway.warranted_of_act hf with
    | places hc hplaces => exact .inl ⟨a, _, rfl, hc, hplaces⟩
    | inquires ha ht hinquires =>
      subst ha
      exact .inr (.inl ⟨_, _, _, .atOnce, ht, hinquires⟩)
    | other hplaces hinquires => exact .inr (.inr ⟨hplaces, hinquires⟩)
  | begin => exact absurd hf (Gateway.not_mem_written rfl)
  | ask n =>
    rcases b.step_ask_cases n with hsame | ⟨began, trade, pending, sent, hp, hstep⟩
    · exact absurd hf (Gateway.not_mem_written (by rw [hsame]))
    · obtain ⟨frames, hsends, hasks⟩ := b.gateway.sends_ask trade
      rw [written, hstep, Gateway.written_eq hsends.accepted] at hf
      obtain ⟨key, ht⟩ := h.pending _ (List.mem_of_getElem? hp) trade List.mem_cons_self
      exact .inr (.inl ⟨began, key, trade, .underWay hp, ht, hasks f hf⟩)
  | finish n =>
    refine absurd hf (Gateway.not_mem_written ?_)
    rcases b.step_finish_cases n with hsame | ⟨sent, hstep⟩
    · rw [hsame]
    · rw [hstep]
      rfl

/-- Whatever happens to a gateway, what it tracks, what it sends to place an order and what it asks
for name the same orders by the same numbers. -/
theorem names_same_order (account : Account) (provider : String) (credentials : Option Credentials)
    (directory : Directory) (capacity : Nat) (pollInterval : Duration) (observers : List EventKind)
    (visits : VisitOrder Tracker.Entry) (ms : List Move) :
    SameOrder (opening account provider credentials directory capacity pollInterval observers
      visits) ms := by
  have hsound := sound_run
    (sound_opening account provider credentials directory capacity pollInterval observers visits) ms
  refine ⟨hsound.vouched.entries, fun m f hf hop => ?_, fun m f hf hop => ?_, hsound.begun⟩
  · rcases reason_of_step hsound hf with ⟨a, c, hm, hc, hplaces⟩
      | ⟨began, key, trade, -, -, hinquires⟩ | ⟨hnot, -⟩
    · exact ⟨a, c, hm, hc, hsound.account ▸ hplaces⟩
    · exact absurd (hop.symm.trans hinquires.operation) (by decide)
    · exact absurd hop hnot
  · rcases reason_of_step hsound hf with ⟨a, c, -, -, hplaces⟩ | hpoll | ⟨-, hnot⟩
    · exact absurd (hop.symm.trans hplaces.operation) (by decide)
    · exact hpoll
    · exact absurd hop hnot

/-- A poll asks about an order that has come to its end since the poll began. -/
example :
    let b :=
      (opening ⟨1, 9⟩ "kiiex" none (Directory.empty.insert "BTCUSD" 1) 8 ⟨0⟩ [] .asKept).run [
      .act
        (.submit
        { id := 7, instrumentPair := "BTCUSD", sideName := "buy", clientOrderId := "seven" }),
      .begin,
      .act (.deliver ⟨.response, 2, Operation.sendOrder,
        "\x7b\"status\":\"Rejected\",\"OrderId\":7\x7d"⟩),
      .act .settle, .act (.linkState .connected)]
    b.gateway.tracker.trades.size = 0 ∧ b.polls.map Poll.pending = [[⟨1, 9, 7⟩]] ∧
      (b.written (.ask 0)).map (·.operation) = [Operation.orderStatus] := by
  decide +kernel

end Busy

end VenueGateway
