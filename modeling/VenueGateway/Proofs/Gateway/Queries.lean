import Mathlib.Data.List.Forall2
import VenueGateway.Gateway.Polling
import VenueGateway.Proofs.Gateway.Settlement
import VenueGateway.Proofs.Text.Numerals
import VenueGateway.Proofs.Tracker.Change

/-!
What a poll asks. When none of its queries fails, one request goes out for every order that is
tracked, and a request tells which order it is about: its number is what stands behind the last
colon.
-/

namespace VenueGateway

open Json (Value Numeral)

namespace Text

theorem colon_notMem_integerChars (n : Int) : ':' ∉ integerChars n := by
  intro h
  cases n with
  | ofNat n => exact absurd (isDigit_of_mem_digits h) (by decide)
  | negSucc n =>
    rcases List.mem_cons.mp h with h | h
    · exact absurd h (by decide)
    · exact absurd (isDigit_of_mem_digits h) (by decide)

theorem integerChars_inj {m n : Int} (h : integerChars m = integerChars n) : m = n := by
  have hread := congrArg integer? h
  rw [integer?_integerChars, integer?_integerChars] at hread
  exact Option.some.inj hread

end Text

theorem Json.Numeral.chars_ofInt (n : Int) : (Numeral.ofInt n).chars = Text.integerChars n := by
  cases n <;> simp [Numeral.ofInt, Numeral.chars, Text.integerChars]

namespace StatusRequest

theorem sortMembers_toJson (q : StatusRequest) :
    q.toJson.sortMembers =
      .fields [("accountId", .int64 q.accountId), ("omsId", .int64 q.omsId),
        ("orderId", .int64 q.orderId)] := by
  simp [toJson, Value.sortMembers, Value.fields, List.mergeSort, List.MergeSort.Internal.splitInTwo]

/-- The number of the order is the last of the fields. -/
theorem toList_wire (q : StatusRequest) :
    ∃ front, q.toJson.wire.toList = front ++
      ':' :: (Text.integerChars q.orderId.toInt ++ ['\x7d']) := by
  have hchars : q.toJson.wire.toList = q.toJson.sortMembers.chars := String.toList_ofList
  rw [hchars, sortMembers_toJson]
  simp only [Value.fields, Value.chars, List.map_cons, List.map_nil, Value.tokens,
    Value.moreMembers, Value.int64, Value.int, List.cons_append, List.nil_append, List.flatMap_cons,
    List.flatMap_nil, Json.Token.chars, Numeral.chars_ofInt]
  exact ⟨'\x7b' :: (Json.literal (some "accountId") ++
    ':' :: (Text.integerChars q.accountId.toInt ++
    ',' :: (Json.literal (some "omsId") ++ ':' :: (Text.integerChars q.omsId.toInt ++
      ',' :: Json.literal (some "orderId"))))), by simp⟩

/-- What stands behind the last colon of a request. -/
theorem takeWhile_wire (q : StatusRequest) :
    q.toJson.wire.toList.reverse.takeWhile (· != ':') =
      '\x7d' :: (Text.integerChars q.orderId.toInt).reverse := by
  obtain ⟨front, hfront⟩ := q.toList_wire
  have hfree : ∀ c ∈ '\x7d' :: (Text.integerChars q.orderId.toInt).reverse, (c != ':') = true := by
    intro c hc
    rcases List.mem_cons.mp hc with rfl | hc
    · decide
    · rw [bne_iff_ne]
      rintro rfl
      exact Text.colon_notMem_integerChars _ (List.mem_reverse.mp hc)
  rw [hfront, List.reverse_append, List.reverse_cons, List.reverse_append, List.append_assoc]
  refine (List.takeWhile_append_of_pos hfree).trans ?_
  simp

/-- Requests that go out alike are about the same number. -/
theorem orderId_eq_of_wire_eq {p q : StatusRequest} (h : p.toJson.wire = q.toJson.wire) :
    p.orderId = q.orderId := by
  have htail := congrArg (fun s : String => s.toList.reverse.takeWhile (· != ':')) h
  simp only [takeWhile_wire, List.cons.injEq, true_and, List.reverse_inj] at htail
  exact Int64.toInt_inj.mp (Text.integerChars_inj htail)

end StatusRequest

def Frame.AsksAbout (f : Frame) (id : Int64) : Prop :=
  f.operation = Operation.orderStatus ∧ ∃ q : StatusRequest, q.orderId = id ∧
    f.payload = q.toJson.wire

theorem Frame.AsksAbout.unique {f : Frame} {id id' : Int64} (h : f.AsksAbout id)
    (h' : f.AsksAbout id') : id = id' := by
  obtain ⟨-, q, rfl, hq⟩ := h
  obtain ⟨-, q', rfl, hq'⟩ := h'
  exact StatusRequest.orderId_eq_of_wire_eq (hq.symm.trans hq')

namespace Gateway

def queries (g : Gateway) : List Frame := g.poll.link.accepted.drop g.link.accepted.length

/-- Queries leave alone what any sending does; when all are sent, each is about its own order. -/
theorem sends_askAll (g : Gateway) (trades : List TradeRef) :
    let r := Tracker.askAll ask g trades
    Kept g r.1 ∧ ∃ frames, Sends g r.1 frames ∧
      ((∀ sent ∈ r.2, sent = true) →
        List.Forall₂ (fun f trade => f.AsksAbout trade.orderId) frames trades) := by
  induction trades generalizing g with
  | nil => exact ⟨⟨_, _, _, rfl⟩, [], .nil g, fun _ => .nil⟩
  | cons trade trades ih =>
    have hkept : Kept g (g.ask trade).1 := ⟨_, _, _, rfl⟩
    obtain ⟨hrest, frames, hsends, hasks⟩ := ih (g.ask trade).1
    refine ⟨hkept.trans hrest, ?_⟩
    cases hs : (g.link.send Operation.orderStatus (StatusRequest.ofTrade trade).toJson.wire).2 with
    | ok n =>
      have hfirst : Sends g (g.ask trade).1 _ := sends_of_ok hs
      refine ⟨_, hfirst.trans hsends,
        fun hsent => .cons ⟨rfl, StatusRequest.ofTrade trade, rfl, rfl⟩ (hasks ?_)⟩
      exact fun sent hmem => hsent sent (List.mem_cons_of_mem _ hmem)
    | error e =>
      have hfirst : Sends g (g.ask trade).1 _ := sends_of_error hs
      refine ⟨_, hfirst.trans hsends, fun hsent => ?_⟩
      have hfailed : (g.ask trade).2 = false := by
        change (g.link.send Operation.orderStatus
          (StatusRequest.ofTrade trade).toJson.wire).2.isOk = false
        rw [hs]
        rfl
      exact absurd (hsent _ List.mem_cons_self) (by rw [hfailed]; decide)

/-- What a poll leaves alone. -/
structure Polled (g g' : Gateway) : Prop where
  kept : Kept g g'
  bus : g'.hub.bus = g.hub.bus
  trades : g'.tracker.trades = g.tracker.trades

theorem polled_poll (g : Gateway) : Polled g g.poll := by
  obtain ⟨⟨hub, link, trace, hkept⟩, frames, hsends, -⟩ :=
    g.sends_askAll (g.tracker.snapshot g.visits)
  have htrades : g.poll.tracker.trades =
      (Tracker.askAll ask g (g.tracker.snapshot g.visits)).1.hub.world.tracker.trades := rfl
  refine ⟨?_, hsends.bus, htrades.trans (by rw [hsends.world, tracker])⟩
  rw [poll, hkept]
  exact ⟨_, _, _, rfl⟩

/-- A poll none of whose queries failed asked about each tracked order, and about nothing else. -/
theorem asksAbout_queries {g : Gateway} {n : Nat} (h : g.poll.tracker.lastPoll = some ⟨n, 0⟩) :
    List.Forall₂ (fun f trade => f.AsksAbout trade.orderId) g.queries
      (g.tracker.snapshot g.visits) := by
  obtain ⟨-, frames, hsends, hasks⟩ := g.sends_askAll (g.tracker.snapshot g.visits)
  have haccepted : g.poll.link.accepted = g.link.accepted ++ frames := hsends.accepted
  have hframes : g.queries = frames := by rw [queries, haccepted, List.drop_left]
  rw [hframes]
  refine hasks fun sent hmem => ?_
  have hsummary : some (Tracker.summary (Tracker.askAll ask g (g.tracker.snapshot g.visits)).2) =
    some ⟨n, 0⟩ := h
  simp only [Tracker.summary, Option.some.injEq, PollTally.mk.injEq,
    List.countP_eq_zero] at hsummary
  simpa using hsummary.2 sent hmem

theorem mem_snapshot_iff {t : Tracker} {order : VisitOrder Tracker.Entry} {trade : TradeRef} :
    trade ∈ t.snapshot order ↔ ∃ key, t.Tracks key trade := by
  simp [Tracker.snapshot, order.mem_arrange, Tracker.Tracks, Assoc.get?_eq_some_iff]

end Gateway

end VenueGateway
