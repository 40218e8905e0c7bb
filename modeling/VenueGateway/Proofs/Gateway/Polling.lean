import VenueGateway.Proofs.Gateway.Provenance
import VenueGateway.Proofs.Metrics

/-!
One poll. Every order that is tracked when it begins is asked about once, whatever becomes of the
queries before; the summary and the counts tell how many were sent and how many were not; and
nothing else about the tracker changes.
-/

namespace VenueGateway

namespace Tracker

/-- Queries one after another, from one state of those who are asked to another, each with whether
it was sent. -/
inductive Asked {S : Type} (ask : S → TradeRef → S × Bool) : S → List (TradeRef × Bool) → S → Prop
  | nil (s : S) : Asked ask s [] s
  | cons {s s' : S} {calls : List (TradeRef × Bool)} (trade : TradeRef)
      (h : Asked ask (ask s trade).1 calls s') :
      Asked ask s ((trade, (ask s trade).2) :: calls) s'

def failures (calls : List (TradeRef × Bool)) : Nat := calls.countP fun c => !c.2

/-- Orders are asked about in their order, and none is passed over. -/
theorem exists_asked {S : Type} (ask : S → TradeRef → S × Bool) (s : S) (trades : List TradeRef) :
    ∃ calls, Asked ask s calls (askAll ask s trades).1 ∧ calls.map Prod.fst = trades ∧
      calls.map Prod.snd = (askAll ask s trades).2 := by
  induction trades generalizing s with
  | nil => exact ⟨[], .nil s, rfl, rfl⟩
  | cons trade trades ih =>
    obtain ⟨calls, hasked, htrades, hsent⟩ := ih (ask s trade).1
    refine ⟨(trade, (ask s trade).2) :: calls, .cons trade hasked, ?_, ?_⟩
    · rw [List.map_cons, htrades]
    · rw [List.map_cons, hsent]
      rfl

theorem count_countQueries (m : Metrics) (sent : List Bool) (c : Counter) :
    (countQueries m sent).count c =
      m.count c + sent.countP fun ok =>
        Counter.statusQueries (if ok then .sent else .failed) = c := by
  induction sent generalizing m with
  | nil => rfl
  | cons ok sent ih =>
    have hcons : countQueries m (ok :: sent) =
        countQueries (m.increment (.statusQueries (if ok then .sent else .failed))) sent := rfl
    rw [hcons, ih, Metrics.increment, Metrics.count_add, List.countP_cons]
    by_cases hc : Counter.statusQueries (if ok then .sent else .failed) = c
    · subst hc
      simp only [if_true, decide_true]
      omega
    · simp only [hc, if_false, decide_false, Bool.false_eq_true, Nat.add_zero]

end Tracker

namespace Gateway

open Tracker (Asked failures)

theorem askAll_askBeside {E : Type} (g : Gateway) (e : E) (trades : List TradeRef) :
    Tracker.askAll askBeside (g, e) trades =
      (((Tracker.askAll ask g trades).1, e), (Tracker.askAll ask g trades).2) := by
  induction trades generalizing g with
  | nil => rfl
  | cons trade trades ih =>
    simp only [Tracker.askAll, askBeside]
    rw [ih]

/-- The poll of the gateway is the one whose queries go to its own link. -/
theorem poll_eq_pollBy {E : Type} (g : Gateway) (e : E) : g.poll = g.pollBy askBeside e := by
  rw [pollBy, pollWith, askAll_askBeside]
  rfl

/-- What a poll that began at a gateway asks, and what it makes of the gateway that its last query
left. -/
structure Complete (g : Gateway) (calls : List (TradeRef × Bool)) (last g' : Gateway) : Prop where
  /-- There is one query for each entry that was tracked at the start, with the reference of the
  entry. -/
  asked : (calls.map Prod.fst).Perm (g.tracker.trades.entries.map Prod.snd)
  summary : g'.tracker.lastPoll = some ⟨g.tracker.trades.size, failures calls⟩
  sent : g'.metrics.count (.statusQueries .sent) =
    last.metrics.count (.statusQueries .sent) + (g.tracker.trades.size - failures calls)
  failed : g'.metrics.count (.statusQueries .failed) =
    last.metrics.count (.statusQueries .failed) + failures calls
  /-- Nothing else is counted, -/
  others : ∀ c, (∀ outcome, c ≠ .statusQueries outcome) → g'.metrics.count c = last.metrics.count c
  /-- and all orders stay. -/
  tracked : g'.tracker.trades = last.tracker.trades

/-- What is noted of a poll follows from its calls alone. -/
theorem complete_notePoll {g : Gateway} {calls : List (TradeRef × Bool)} {sent : List Bool}
    (hcalls : calls.map Prod.fst = g.tracker.snapshot g.visits) (hsent : calls.map Prod.snd = sent)
    (last : Gateway) :
    Complete g calls last (last.notePoll sent) := by
  subst hsent
  have hlength : calls.length = g.tracker.trades.size := by
    rw [← List.length_map (f := Prod.fst), hcalls, Tracker.snapshot, List.length_map,
      (g.visits.perm _).length_eq, Assoc.size]
  have hfailures : failures calls = (calls.map Prod.snd).countP (!·) := by
    rw [List.countP_map]
    rfl
  have hcount : ∀ c, (last.notePoll (calls.map Prod.snd)).metrics.count c = _ :=
    Tracker.count_countQueries last.metrics (calls.map Prod.snd)
  constructor
  case asked =>
    rw [hcalls]
    exact (g.visits.perm _).map Prod.snd
  case summary =>
    rw [← hlength, hfailures, ← List.length_map (f := Prod.snd)]
    rfl
  case sent =>
    have hsent : ∀ ok : Bool,
        decide (Counter.statusQueries (if ok then .sent else .failed) = .statusQueries .sent) =
          ok := by decide
    have hparts := List.length_eq_countP_add_countP (fun ok => !ok) (l := calls.map Prod.snd)
    rw [List.length_map, hlength] at hparts
    rw [hcount, hfailures]
    simp only [hsent]
    simp only [Bool.not_eq_true', Bool.not_eq_false, Bool.decide_eq_true] at hparts
    omega
  case failed =>
    have hfailed : ∀ ok : Bool,
        decide (Counter.statusQueries (if ok then .sent else .failed) = .statusQueries .failed) =
          !ok := by decide
    rw [hcount, hfailures]
    simp only [hfailed]
  case others =>
    intro c hc
    rw [hcount, List.countP_eq_zero.mpr fun ok _ => by simpa using (hc _).symm, Nat.add_zero]
  case tracked => rfl

/-- Only tracker and counts matter of what the last query left. -/
theorem Complete.congr {g last last' g' : Gateway} {calls : List (TradeRef × Bool)}
    (h : Complete g calls last g') (hhub : last.hub = last'.hub) : Complete g calls last' g' where
  asked := h.asked
  summary := h.summary
  sent := by rw [h.sent, metrics, hhub, metrics]
  failed := by rw [h.failed, metrics, hhub, metrics]
  others c hc := by rw [h.others c hc, metrics, hhub, metrics]
  tracked := by rw [h.tracked, tracker, hhub, tracker]

/-- A query is written if it is sent, and nothing is written if it is not. -/
theorem sends_ask_iff (g : Gateway) (trade : TradeRef) :
    ∃ frames, Sends g (g.ask trade).1 frames ∧
      List.Forall₂ Frame.Inquires frames (if (g.ask trade).2 then [trade] else []) := by
  cases hs : (g.link.send Operation.orderStatus (StatusRequest.ofTrade trade).toJson.wire).2 with
  | ok n =>
    have hsent : (g.ask trade).2 = true := by
      change (g.link.send Operation.orderStatus (StatusRequest.ofTrade trade).toJson.wire).2.isOk =
        true
      rw [hs]
      rfl
    rw [hsent]
    exact ⟨_, sends_of_ok hs, .cons (Frame.inquires_of_wire rfl rfl) .nil⟩
  | error e =>
    have hfailed : (g.ask trade).2 = false := by
      change (g.link.send Operation.orderStatus (StatusRequest.ofTrade trade).toJson.wire).2.isOk =
        false
      rw [hs]
      rfl
    rw [hfailed]
    exact ⟨[], sends_of_error hs, .nil⟩

/-- Of the queries those that are sent are written, and nobody who listens notices any of them. -/
theorem sends_of_asked {g last : Gateway} {calls : List (TradeRef × Bool)}
    (h : Asked ask g calls last) :
    last.hub = g.hub ∧ ∃ frames, Sends g last frames ∧
      List.Forall₂ Frame.Inquires frames ((calls.filter fun c => c.2).map Prod.fst) := by
  induction h with
  | nil g => exact ⟨rfl, [], .nil g, .nil⟩
  | @cons g last calls trade _ ih =>
    obtain ⟨hhub, rest, hrest, hinquiries⟩ := ih
    obtain ⟨first, hfirst, hinquiry⟩ := g.sends_ask_iff trade
    refine ⟨hhub, first ++ rest, hfirst.trans hrest, ?_⟩
    have hsplit : (((trade, (g.ask trade).2) :: calls).filter fun c => c.2).map Prod.fst =
        (if (g.ask trade).2 then [trade] else []) ++ (calls.filter fun c => c.2).map Prod.fst := by
      cases hsent : (g.ask trade).2 <;> simp
    rw [hsplit]
    exact List.rel_append hinquiry hinquiries

/-- A poll asks about all orders that are tracked when it begins, whichever of its queries fail and
whatever happens in between. Where nothing does, those that are sent are the frames that are
written, and the tracker is as before. -/
theorem polls_every_order (g : Gateway) :
    (∀ (E : Type) (ask : Gateway × E → TradeRef → (Gateway × E) × Bool) (e : E),
      ∃ calls last e', Asked ask (g, e) calls (last, e') ∧ Complete g calls last (g.pollBy ask e)) ∧
    ∃ calls last, Asked ask g calls last ∧ Complete g calls g g.poll ∧
      ∃ frames, g.poll.link.accepted = g.link.accepted ++ frames ∧
        List.Forall₂ Frame.Inquires frames ((calls.filter fun c => c.2).map Prod.fst) := by
  constructor
  · intro E ask e
    obtain ⟨calls, hasked, htrades, hsent⟩ :=
      Tracker.exists_asked ask (g, e) (g.tracker.snapshot g.visits)
    exact ⟨calls, _, _, hasked, complete_notePoll htrades hsent _⟩
  · obtain ⟨calls, hasked, htrades, hsent⟩ :=
      Tracker.exists_asked ask g (g.tracker.snapshot g.visits)
    obtain ⟨hhub, frames, hsends, hinquiries⟩ := sends_of_asked hasked
    exact ⟨calls, _, hasked, (complete_notePoll htrades hsent _).congr hhub, frames,
      hsends.accepted, hinquiries⟩

/-- Two of three orders have the same number, and the second query is refused. -/
example :
    let g := new ⟨1, 9⟩ "kiiex" none .empty 8 ⟨0⟩ []
    let tracker := ((g.tracker.track "a" ⟨1, 9, 5⟩).track "b" ⟨1, 9, 7⟩).track "c" ⟨1, 9, 5⟩
    let link : Link :=
      { state := .connected, refusal := fun f => if f.sequence = 4 then some .closed else none }
    let g := { g with link, hub := { g.hub with world := { g.hub.world with tracker } } }
    g.poll.tracker.lastPoll = some ⟨3, 1⟩ ∧ g.poll.link.accepted.length = 2 ∧
      g.poll.tracker.trades = tracker.trades ∧
      g.poll.metrics.count (.statusQueries .sent) = 2 ∧
        g.poll.metrics.count (.statusQueries .failed) = 1 := by
  decide +kernel

end Gateway

end VenueGateway
