import VenueGateway.Proofs.Assoc
import VenueGateway.Proofs.Tracker.Change

/-!
How the end of an order closes its entry. Where tracked orders cannot be mistaken for one another,
an event that reports the end of one takes its entry away and no other, once: heard again, the event
does nothing.
-/

namespace VenueGateway.Tracker

/-- Each tracked order has a number of its own, and no key reads like the number of another
order. -/
structure Distinct (t : Tracker) : Prop where
  nonzero : ∀ key trade, t.Tracks key trade → trade.orderId ≠ 0
  apart : ∀ key trade key' trade', t.Tracks key trade → t.Tracks key' trade' → trade.orderId =
    trade'.orderId →
    key = key'
  plain : ∀ key trade key' trade', t.Tracks key trade → t.Tracks key' trade' →
    key = Text.ofInt64 trade'.orderId →
    key = key'

/-- No two tracked orders have the same number, which may be nought. -/
def Apart (t : Tracker) : Prop :=
  ∀ key trade key' trade', t.Tracks key trade → t.Tracks key' trade' → trade.orderId =
    trade'.orderId → key = key'

/-- Distinctness can be checked entry by entry. -/
theorem distinct_iff {t : Tracker} :
    t.Distinct ↔ (∀ e ∈ t.trades.entries, e.2.orderId ≠ 0) ∧
      (∀ e ∈ t.trades.entries, ∀ e' ∈ t.trades.entries, e.2.orderId = e'.2.orderId → e.1 = e'.1) ∧
      ∀ e ∈ t.trades.entries, ∀ e' ∈ t.trades.entries, e.1 = Text.ofInt64 e'.2.orderId →
      e.1 = e'.1 := by
  constructor
  · rintro ⟨hz, ha, hp⟩
    have htracks : ∀ e ∈ t.trades.entries, t.Tracks e.1 e.2 :=
      fun e he => Assoc.get?_eq_some_iff.mpr he
    exact ⟨fun e he => hz _ _ (htracks e he),
      fun e he e' he' => ha _ _ _ _ (htracks e he) (htracks e' he'),
      fun e he e' he' => hp _ _ _ _ (htracks e he) (htracks e' he')⟩
  · rintro ⟨hz, ha, hp⟩
    have hentry : ∀ key trade, t.Tracks key trade → (key, trade) ∈ t.trades.entries := fun _ _ =>
      Assoc.get?_eq_some_iff.mp
    exact ⟨fun key trade ht => hz _ (hentry key trade ht),
      fun key trade key' trade' ht ht' => ha _ (hentry key trade ht) _ (hentry key' trade' ht'),
      fun key trade key' trade' ht ht' => hp _ (hentry key trade ht) _ (hentry key' trade' ht')⟩

instance (t : Tracker) : Decidable t.Distinct := decidable_of_iff _ distinct_iff.symm

/-- An event reports that an order was given up, or that it was filled and nothing is left, in terms
that name no other tracked order. -/
inductive Closes (t : Tracker) (id : Int64) : Bool → Event → Prop
  | givenUp (hz : id ≠ 0) : Closes t id true (.attemptedCancel id)
  | filled {f : Fill} (hl : LeavesNothing f) (hn : Numbers f id)
      (hkey : ∀ trade, t.Tracks f.orderId trade → trade.orderId = id)
      (hother : ∀ key trade, t.Tracks key trade → Numbers f trade.orderId → trade.orderId = id) :
      Closes t id false (.fillArrived f)

/-- What is tracked in one state is tracked in the other. -/
def Within (t t' : Tracker) : Prop := ∀ key trade, t.Tracks key trade → t'.Tracks key trade

variable {t t' : Tracker} {id : Int64} {givenUp : Bool} {e : Event}

theorem Within.trans {t'' : Tracker} (h : t.Within t') (h' : t'.Within t'') : t.Within t'' :=
  fun key trade ht => h' key trade (h key trade ht)

theorem Distinct.within (h : t.Distinct) (ht : t'.Within t) : t'.Distinct where
  nonzero key trade hk := h.nonzero key trade (ht key trade hk)
  apart key trade key' trade' hk hk' :=
    h.apart key trade key' trade' (ht key trade hk) (ht key' trade' hk')
  plain key trade key' trade' hk hk' :=
    h.plain key trade key' trade' (ht key trade hk) (ht key' trade' hk')

theorem Closes.within (h : Closes t id givenUp e) (ht : t'.Within t) : Closes t' id givenUp e := by
  cases h with
  | givenUp hz => exact .givenUp hz
  | filled hl hn hkey hother =>
    exact .filled hl hn (fun trade hk => hkey trade (ht _ trade hk)) fun key trade hk =>
      hother key trade (ht key trade hk)

def announced (givenUp : Bool) (key : String) : List Event :=
  if givenUp then [.orderCanceled key] else []

/-- What becomes of a tracker when the end of an order is reported: its entry goes, or it had
none. -/
inductive Closed (t : Tracker) (id : Int64) (givenUp : Bool) (r : Reaction Tracker) : Prop
  | now {key : String} {trade : TradeRef} (ht : t.Tracks key trade) (hid : trade.orderId = id)
      (hworld : r.world = t.untrack key) (hoffers : r.offers = announced givenUp key)
  | before (hnone : ∀ key trade, t.Tracks key trade →
    trade.orderId ≠ id) (hworld : r.world = t) (hoffers : r.offers = [])

/-- A report that closes an order takes its entry away, whatever the order of the visit. -/
theorem closed_handle (h : Closes t id givenUp e) (order : VisitOrder Entry) (m : Metrics) :
    Closed t id givenUp (t.handle order e m) := by
  cases h with
  | givenUp hz =>
    cases hk : t.canceledKey? order id with
    | none =>
      refine .before ((canceledKey?_eq_none hk).resolve_left hz) ?_ ?_
        <;> simp only [handle, hk, unmoved]
    | some key =>
      obtain ⟨-, trade, ht, hid⟩ := canceledKey?_eq_some hk
      refine .now ht hid ?_ ?_ <;> simp only [handle, hk, moved]
      rfl
  | @filled f hl hn hkey hother =>
    cases hk : t.filledKey? order f with
    | none =>
      have hnone := (filledKey?_eq_none hk hl).2
      refine .before (fun key trade ht hid => hnone key trade ht (hid ▸ hn)) ?_ ?_ <;>
        simp only [handle, hk, unmoved]
    | some key =>
      have hfound : ∃ trade, t.Tracks key trade ∧ trade.orderId = id := by
        obtain ⟨-, ⟨-, ⟨trade, ht⟩, rfl⟩ | ⟨-, trade, ht, hnumbers⟩⟩ := filledKey?_eq_some hk
        · exact ⟨trade, ht, hkey trade ht⟩
        · exact ⟨trade, ht, hother key trade ht hnumbers⟩
      obtain ⟨trade, ht, hid⟩ := hfound
      refine .now ht hid ?_ ?_ <;> simp only [handle, hk, moved]
      rfl

/-- Nothing else goes with the entry of the order. -/
theorem Closed.tracks_iff {r : Reaction Tracker} (h : Closed t id givenUp r) (ha : t.Apart)
    {key : String} {trade : TradeRef} :
    r.world.Tracks key trade ↔ t.Tracks key trade ∧ trade.orderId ≠ id := by
  cases h with
  | @now closed own ht hid hworld =>
    rw [hworld, tracks_untrack]
    constructor
    · rintro ⟨hne, hk⟩
      exact ⟨hk, fun hsame => hne (ha _ _ _ _ ht hk (hid.trans hsame.symm))⟩
    · rintro ⟨hk, hne⟩
      refine ⟨?_, hk⟩
      rintro rfl
      exact hne ((congrArg TradeRef.orderId (hk.unique ht)).trans hid)
  | before hnone hworld =>
    rw [hworld]
    exact ⟨fun hk => ⟨hk, hnone key trade hk⟩, And.left⟩

theorem Closed.within {r : Reaction Tracker} (h : Closed t id givenUp r) (ha : t.Apart) :
    r.world.Within t :=
  fun _ _ hk => ((h.tracks_iff ha).mp hk).1

/-- Heard again, it changes nothing and is not announced. -/
theorem handle_again (h : Closes t id givenUp e) (hd : t.Distinct) {order : VisitOrder Entry}
    {m : Metrics} (ht : t' = (t.handle order e m).world) (m' : Metrics) :
    (t'.handle order e m').world = t' ∧ (t'.handle order e m').offers = [] := by
  subst ht
  have hclosed := closed_handle h order m
  cases closed_handle (h.within (hclosed.within hd.apart)) order m' with
  | now hk hid => exact absurd hid ((hclosed.tracks_iff hd.apart).mp hk).2
  | before _ hworld hoffers => exact ⟨hworld, hoffers⟩

/-- The entry of an order apart from the others. -/
theorem entries_perm_untrack {key : String} {trade : TradeRef} (ht : t.Tracks key trade) :
    t.trades.entries.Perm ((key, trade) :: (t.untrack key).trades.entries) := by
  have hparted := List.filter_append_perm (fun e : Entry => decide (e.1 = key)) t.trades.entries
  rw [Assoc.filter_entries_eq ht] at hparted
  simpa [untrack, Assoc.erase] using hparted.symm

/-- The announcements of the orders that are given up, by number. -/
def announcements (t : Tracker) (givenUp : Int64 → Bool) : List Event :=
  (t.trades.entries.filter fun e => givenUp e.2.orderId).map fun e => .orderCanceled e.1

theorem announcements_congr {p q : Int64 → Bool}
    (h : ∀ key trade, t.Tracks key trade → p trade.orderId = q trade.orderId) :
    t.announcements p = t.announcements q := by
  have hentries : ∀ e ∈ t.trades.entries, p e.2.orderId = q e.2.orderId := fun e he =>
    h e.1 e.2 (Assoc.get?_eq_some_iff.mpr he)
  rw [announcements, List.filter_congr hentries, announcements]

/-- What is announced for one order and for those that are left is what is announced for all of
them. -/
theorem Closed.announcements_perm {r : Reaction Tracker} (h : Closed t id givenUp r) (ha : t.Apart)
    (later : Int64 → Bool) :
    (r.offers ++ r.world.announcements later).Perm
      (t.announcements fun n => if n = id then givenUp else later n) := by
  have hleft : r.world.announcements later =
      r.world.announcements fun n => if n = id then givenUp else later n :=
    announcements_congr fun key trade hk => (if_neg ((h.tracks_iff ha).mp hk).2).symm
  rw [hleft]
  cases h with
  | @now key trade ht hid hworld hoffers =>
    have hentries := ((entries_perm_untrack ht).filter fun e => if e.2.orderId = id then givenUp
      else later e.2.orderId).map
      fun e => Event.orderCanceled e.1
    rw [hworld, hoffers]
    refine .trans (.of_eq ?_) hentries.symm
    rw [List.filter_cons, if_pos hid]
    cases givenUp <;> rfl
  | before _ hworld hoffers =>
    rw [hworld, hoffers]
    exact .refl _

theorem Closed.kind_of_offered {r : Reaction Tracker} (h : Closed t id givenUp r) {e : Event}
    (he : e ∈ r.offers) :
    e.kind = .orderCanceled := by
  cases h with
  | now _ _ _ hoffers =>
    rw [hoffers, announced] at he
    split at he
    · rw [List.mem_singleton.mp he]
      rfl
    · cases he
  | before _ _ hoffers =>
    rw [hoffers] at he
    cases he

end VenueGateway.Tracker
