import VenueGateway.Gateway.Replies
import VenueGateway.Proofs.Text.Numerals
import VenueGateway.Proofs.Tracker.Change

/-!
Which orders a reply about one order may untrack. Our numbers, the venue's numbers and keys are
compared with one another, so a reply about an order may untrack another one whose number or key
happens to be a number of the first. `Spares` is the condition under which that cannot happen, in
whatever order entries are met.
-/

namespace VenueGateway

namespace VisitOrder

/-- Meets the entries with a property before all others. -/
def first {α : Type} (p : α → Bool) : VisitOrder α where
  arrange l := l.filter p ++ l.filter fun a => !p a
  perm l := List.filter_append_perm p l

end VisitOrder

namespace Tracker

variable {t : Tracker}

/-- Any entry with one of the numbers looked for may be the one that is found. -/
theorem keyOf?_first {key : String} {trade : TradeRef} (ht : t.Tracks key trade) {ids : List Int64}
    (hid : trade.orderId ∈ ids) : t.keyOf? (.first (· = (key, trade))) ids = some key := by
  have hmem : (key, trade) ∈ t.trades.entries.filter (· = (key, trade)) := by
    simpa using Assoc.get?_eq_some_iff.mp ht
  have hfound :
      ((t.trades.entries.filter (· = (key, trade))).find? fun e => ids.contains e.2.orderId) =
      some (key, trade) := by
    cases hf : (t.trades.entries.filter (· = (key, trade))).find? fun e =>
      ids.contains e.2.orderId with
    | none =>
      have hnot := List.find?_eq_none.mp hf (key, trade) hmem
      simp [hid] at hnot
    | some e =>
      have he := (List.mem_filter.mp (List.mem_of_find?_eq_some hf)).2
      rw [decide_eq_true_eq.mp he]
  simp only [keyOf?, VisitOrder.first, List.find?_append, hfound]
  rfl

/-- No order but the one with our number is tracked under a number. -/
def Sole (t : Tracker) (c n : Int64) : Prop :=
  ∀ key trade, t.Tracks key trade → trade.orderId = n → n = c

/-- No order but the one with our number can be untracked by an event. -/
def UntracksOnly (t : Tracker) (c : Int64) (e : Event) : Prop :=
  ∀ order m key trade, t.Tracks key trade → ¬ (t.handle order e m).world.Tracks key trade →
    trade.orderId = c

theorem UntracksOnly.eq_of_untrack {c : Int64} {e : Event} (h : t.UntracksOnly c e)
    {order : VisitOrder Entry} {key : String} {trade : TradeRef} (ht : t.Tracks key trade)
    (hw : (t.handle order e {}).world = t.untrack key) : trade.orderId = c := by
  refine h order {} key trade ht ?_
  rw [hw]
  exact not_tracks_untrack

/-- An attempted cancel spares all other orders where no other has its number. -/
theorem untracksOnly_canceled_iff {c n : Int64} :
    t.UntracksOnly c (.attemptedCancel n) ↔ n = 0 ∨ t.Sole c n := by
  constructor
  · intro h
    by_cases hn : n = 0
    · exact .inl hn
    · right
      rintro key trade ht rfl
      have hfound : t.canceledKey? (.first (· = (key, trade))) trade.orderId = some key := by
        rw [canceledKey?, if_neg hn]
        exact keyOf?_first ht List.mem_cons_self
      exact h.eq_of_untrack ht (handle_canceled_world hfound)
  · intro h order m key trade ht hl
    cases (change_handle order t (.attemptedCancel n) m).ends ht hl with
    | canceled hz =>
      rcases h with hzero | hsole
      · exact absurd hzero hz
      · exact hsole key trade ht rfl

/-- A fill that leaves nothing spares other orders where its key is that of its own order, or no key
at all and the venue's number is not that of another one. -/
theorem untracksOnly_filled_iff {c v : Int64} {f : Fill} (hl : LeavesNothing f)
    (hk : f.orderId ≠ "") (hn : ∀ id, Numbers f id ↔ id ≠ 0 ∧ (id = c ∨ id = v)) :
    t.UntracksOnly c (.fillArrived f) ↔
      (∃ trade, t.Tracks f.orderId trade ∧ trade.orderId = c) ∨ ¬ t.Holds f.orderId ∧
      (v = 0 ∨ t.Sole c v) := by
  have hleaves : saysNothingLeft f.quantityLeaves = true := saysNothingLeft_iff.mpr hl
  constructor
  · intro h
    -- A key that is tracked is taken before any number is looked at.
    by_cases hheld : t.Holds f.orderId
    · left
      have ⟨trade, ht⟩ := hheld
      have hfilled : t.filledKey? .asKept f = some f.orderId := by
        rw [filledKey?, if_pos hleaves, if_pos ⟨hk, contains_iff_holds.mpr hheld⟩]
      exact ⟨trade, ht, h.eq_of_untrack ht (handle_filled_world hfilled)⟩
    · refine .inr ⟨hheld, ?_⟩
      by_cases hv : v = 0
      · exact .inl hv
      · right
        rintro key trade ht rfl
        have hfound : t.filledKey? (.first (· = (key, trade))) f = some key := by
          rw [filledKey?, if_pos hleaves, if_neg (not_named_iff.mpr (.inr hheld))]
          exact keyOf?_first ht (mem_candidates_iff.mpr ((hn _).mpr ⟨hv, .inr rfl⟩))
        exact h.eq_of_untrack ht (handle_filled_world hfound)
  · intro h order m key trade ht hlost
    have hc := change_handle order t (.fillArrived f) m
    generalize (t.handle order (.fillArrived f) m).world = t' at hc hlost
    cases hc with
    | filledByKey _ _ hheld =>
      obtain rfl := eq_of_not_tracks_untrack ht hlost
      rcases h with ⟨own, hown, hid⟩ | ⟨hfree, -⟩
      · rw [ht.unique hown, hid]
      · exact absurd hheld hfree
    | filledByNumber _ hother htracks hnumbers =>
      obtain rfl := eq_of_not_tracks_untrack ht hlost
      obtain rfl := ht.unique htracks
      obtain ⟨hzero, hid | hid⟩ := (hn _).mp hnumbers
      · exact hid
      · rcases h with ⟨own, hown, -⟩ | ⟨-, hv | hsole⟩
        · exact absurd ⟨own, hown⟩ (hother.resolve_left hk)
        · exact absurd (hid.trans hv) hzero
        · exact hid.trans (hsole _ _ ht hid)
    | notFilled => exact absurd ht hlost

end Tracker

inductive Verdict where
  | refused
  | canceled
  | givenUp
  | filled
  deriving DecidableEq, Repr

/-- A frame is a reply about the order whose number is c with us and v at the venue, and what
follows from what it says of that order. A status reply may speak of other orders too. -/
inductive About (directory : Directory) (c v : Int64) :
    ReplyKind → Frame → Verdict → List Event → Prop
  | refused {f : Frame} {r : OrderReply} (hf : f.body?.bind OrderReply.ofJson? = some r)
      (hs : r.isRejected = true) (hv : r.orderId = v) :
        About directory c v .order f .refused r.events
  | canceled {f : Frame} {r : CancelReply} (hf : f.body?.bind CancelReply.ofJson? = some r)
      (hv : r.orderId = v) : About directory c v .cancel f .canceled r.events
  | givenUp {f : Frame} {r : StatusReply} {o : ReportedOrder}
      (hf : f.body?.bind StatusReply.ofJson? = some r)
      (ho : o ∈ r.orders) (hv : o.orderId = v) (hc : o.clientOrderId = c) (hz : c ≠ 0)
      (hs : o.isGivenUp = true) : About directory c v .status f .givenUp (o.events directory)
  | filled {f : Frame} {r : StatusReply} {o : ReportedOrder}
      (hf : f.body?.bind StatusReply.ofJson? = some r)
      (ho : o ∈ r.orders) (hv : o.orderId = v) (hc : o.clientOrderId = c) (hz : c ≠ 0)
      (hs : o.isFilled = true) (hl : Tracker.LeavesNothing (o.fill directory)) :
      About directory c v .status f .filled (o.events directory)

/-- The condition under which a reply spares all orders but its own. -/
def Tracker.Spares (t : Tracker) (c v : Int64) : Verdict → Prop
  | .refused => v = 0 ∨ t.Sole c v
  | .canceled => v = 0 ∨ t.Sole c v
  | .givenUp => True
  | .filled => v = 0 ∨ (∃ trade, t.Tracks (Text.ofInt64 c) trade ∧ trade.orderId = c) ∨
      ¬ t.Holds (Text.ofInt64 c) ∧ t.Sole c v

namespace ReportedOrder

theorem not_isGivenUp_of_isFilled {o : ReportedOrder} (h : o.isFilled = true) :
    o.isGivenUp = false := by
  have hs : Text.lower o.state = Text.lower "filled" := by
    simpa [isFilled, Text.sameIgnoringCase] using h
  simp only [isGivenUp, Text.sameIgnoringCase, hs]
  decide

theorem events_of_isGivenUp {directory : Directory} {o : ReportedOrder} (h : o.isGivenUp = true) :
    o.events directory = if o.orderId = 0 then [] else [.attemptedCancel o.knownId] := by
  simp [events, h]

theorem events_of_isFilled {directory : Directory} {o : ReportedOrder} (h : o.isFilled = true) :
    o.events directory = if o.orderId = 0 then [] else [.fillArrived (o.fill directory)] := by
  simp [events, h, not_isGivenUp_of_isFilled h]

/-- A fill names its order by our number and by the venue's, where they are numbers at all. -/
theorem numbers_fill_iff {directory : Directory} {o : ReportedOrder} {id : Int64} :
    Tracker.Numbers (o.fill directory) id ↔ id ≠ 0 ∧ (id = o.clientOrderId ∨ id = o.orderId) := by
  simp only [Tracker.Numbers, fill, Text.int64?_ofInt64, Option.some.injEq, eq_comm]

end ReportedOrder

namespace About

variable {directory : Directory} {c v : Int64} {kind : ReplyKind} {f : Frame} {verdict : Verdict}
  {es : List Event}

/-- What follows from what a reply says of an order is part of what follows from the reply. -/
theorem sublist_effect (h : About directory c v kind f verdict es) :
    ∃ effect, kind.effect? directory f = some effect ∧ es.Sublist effect.2 := by
  have hlisted : ∀ {r : StatusReply} {o : ReportedOrder},
      f.body?.bind StatusReply.ofJson? = some r →
      o ∈ r.orders → ∃ effect, ReplyKind.effect? .status directory f = some effect ∧
        (o.events directory).Sublist effect.2 := by
    intro r o hf ho
    refine ⟨(directory, r.events directory), by simp [ReplyKind.effect?, hf], ?_⟩
    exact List.sublist_flatten_of_mem (List.mem_map_of_mem ho)
  cases h with
  | @refused _ r hf => exact ⟨(directory, r.events), by simp [ReplyKind.effect?, hf], .refl _⟩
  | @canceled _ r hf => exact ⟨(directory, r.events), by simp [ReplyKind.effect?, hf], .refl _⟩
  | givenUp hf ho => exact hlisted hf ho
  | filled hf ho => exact hlisted hf ho

/-- A reply about one order untracks no other order, in whatever order entries are met, exactly
where the venue's number for it is not our number for another one, and its own number is not the key
of another one. -/
theorem spares_others_iff (t : Tracker) (h : About directory c v kind f verdict es) :
    (∃ effect, kind.effect? directory f = some effect ∧ es.Sublist effect.2) ∧
      ((∀ e ∈ es, t.UntracksOnly c e) ↔ t.Spares c v verdict) := by
  refine ⟨h.sublist_effect, ?_⟩
  cases h with
  | refused _ hs hv =>
    simp only [OrderReply.events, hs, hv, ↓reduceIte, List.forall_mem_singleton]
    exact Tracker.untracksOnly_canceled_iff
  | canceled _ hv =>
    simp only [CancelReply.events, hv, List.forall_mem_singleton]
    exact Tracker.untracksOnly_canceled_iff
  | @givenUp _ _ o _ _ hv hc hz hs =>
    have hown : t.UntracksOnly c (.attemptedCancel c) :=
      Tracker.untracksOnly_canceled_iff.mpr (.inr fun _ _ _ _ => rfl)
    refine ⟨fun _ => trivial, fun _ e he => ?_⟩
    have hknown : o.knownId = c := by rw [ReportedOrder.knownId, hc, if_neg hz]
    rw [ReportedOrder.events_of_isGivenUp hs, hknown] at he
    split at he
    · cases he
    · exact List.mem_singleton.mp he ▸ hown
  | @filled _ _ o _ _ hv hc hz hs hl =>
    subst hv hc
    have hkey : (o.fill directory).orderId = Text.ofInt64 o.clientOrderId := if_neg hz
    have hk : (o.fill directory).orderId ≠ "" := hkey ▸ Text.ofInt64_ne_empty _
    have hiff := Tracker.untracksOnly_filled_iff (t := t) hl hk fun _ =>
      ReportedOrder.numbers_fill_iff
    rw [hkey] at hiff
    rw [ReportedOrder.events_of_isFilled hs, Tracker.Spares]
    by_cases hv : o.orderId = 0
    · simp [hv]
    · simpa [hv] using hiff

/-- The venue has canceled its order 5, which is our order 1. -/
def cancelAnswer : Frame :=
  ⟨.response, 4, Operation.cancelOrder, "\x7b\"result\":true,\"orderId\":5\x7d"⟩

theorem about_cancelAnswer :
    About .empty 1 5 .cancel cancelAnswer .canceled [.attemptedCancel 5] := by
  have hf : cancelAnswer.body?.bind CancelReply.ofJson? =
      some { result := true, orderId := 5 } := by
    decide +kernel
  exact .canceled hf rfl

def alone : Tracker := (Tracker.new ⟨0⟩).track "one" ⟨1, 9, 1⟩

theorem cancelAnswer_spares_alone :
    alone.Spares 1 5 .canceled ∧ ∀ e ∈ [Event.attemptedCancel 5], alone.UntracksOnly 1 e := by
  have hspares : alone.Spares 1 5 .canceled := by
    right
    intro key trade ht hid
    rw [alone, Tracker.tracks_track] at ht
    split at ht
    · subst ht
      cases hid
    · cases ht
  exact ⟨hspares, (spares_others_iff alone about_cancelAnswer).2.mpr hspares⟩

/-- Beside our order 5, the answer about order 1 untracks the wrong one. -/
theorem cancelAnswer_untracks_other :
    let t := alone.track "five" ⟨1, 9, 5⟩
    About .empty 1 5 .cancel cancelAnswer .canceled [.attemptedCancel 5] ∧
      (t.trades.entries.map fun e => e.2.orderId).Nodup ∧ t.Tracks "five" ⟨1, 9, 5⟩ ∧
      ¬ (t.handle .asKept (.attemptedCancel 5) {}).world.Tracks "five" ⟨1, 9, 5⟩ ∧
        (5 : Int64) ≠ 1 :=
  ⟨about_cancelAnswer, by decide, by decide, by decide, by decide⟩

end About

end VenueGateway
