import VenueGateway.Tracker.Basic

/-!
What one event does to a tracker. `Ends` says which events may end the tracking of an order, in
terms of the key, the numbers and the quantity they spell out. `Change` lists everything that can
happen at one event, and `change_handle` says that nothing else does, in whatever order entries are
met.
-/

namespace VenueGateway.Tracker

def Tracks (t : Tracker) (key : String) (trade : TradeRef) : Prop := t.trades.get? key = some trade

instance (t : Tracker) (key : String) (trade : TradeRef) : Decidable (t.Tracks key trade) :=
  inferInstanceAs (Decidable (_ = _))

def Holds (t : Tracker) (key : String) : Prop := ∃ trade, t.Tracks key trade

/-- A fill spells the quantity it leaves, and that is nought. -/
def LeavesNothing (f : Fill) : Prop :=
  ∃ d, Decimal.ofText? (Text.trim f.quantityLeaves) = some d ∧ d.isZero = true

/-- A fill spells a number other than nought, as ours or as the venue's. -/
def Numbers (f : Fill) (id : Int64) : Prop :=
  id ≠ 0 ∧
    (Text.int64? (Text.trim f.clientOrderId) = some id ∨ Text.int64? (Text.trim f.fillId) = some id)

/-- The events that may end the tracking of an order under a key. -/
inductive Ends (key : String) (trade : TradeRef) : Event → Prop
  | resubmitted (other : TradeRef) : Ends key trade (.orderSubmitted other key)
  | canceled (h : trade.orderId ≠ 0) : Ends key trade (.attemptedCancel trade.orderId)
  | filledByKey {f : Fill} (hl : LeavesNothing f) (h : f.orderId = key) :
    Ends key trade (.fillArrived f)
  | filledByNumber {f : Fill} (hl : LeavesNothing f) (h : Numbers f trade.orderId) :
      Ends key trade (.fillArrived f)

inductive Change (t : Tracker) : Event → Tracker → Prop
  | tracked (trade : TradeRef) (key : String) :
    Change t (.orderSubmitted trade key) (t.track key trade)
  | canceled {id : Int64} {key : String} {trade : TradeRef} (hid : id ≠ 0) (ht : t.Tracks key trade)
      (hn : trade.orderId = id) : Change t (.attemptedCancel id) (t.untrack key)
  | notCanceled {id : Int64} (h : id = 0 ∨ ∀ key trade, t.Tracks key trade → trade.orderId ≠ id) :
      Change t (.attemptedCancel id) t
  | filledByKey {f : Fill} (hl : LeavesNothing f) (hk : f.orderId ≠ "") (ht : t.Holds f.orderId) :
      Change t (.fillArrived f) (t.untrack f.orderId)
  | filledByNumber {f : Fill} {key : String} {trade : TradeRef} (hl : LeavesNothing f)
      (hk : f.orderId = "" ∨ ¬ t.Holds f.orderId) (ht : t.Tracks key trade)
        (hn : Numbers f trade.orderId) :
      Change t (.fillArrived f) (t.untrack key)
  | notFilled {f : Fill} (h : LeavesNothing f → (f.orderId = "" ∨ ¬ t.Holds f.orderId) ∧
      ∀ key trade, t.Tracks key trade → ¬ Numbers f trade.orderId) : Change t (.fillArrived f) t
  | ignored (key : String) : Change t (.orderCanceled key) t

variable {t : Tracker}

theorem Tracks.unique {key : String} {a b : TradeRef} (ha : t.Tracks key a) (hb : t.Tracks key b) :
    a = b :=
  Option.some.inj (ha.symm.trans hb)

theorem tracks_track {key key' : String} {trade trade' : TradeRef} :
    (t.track key trade).Tracks key' trade' ↔ if key = key' then trade = trade'
      else t.Tracks key' trade' := by
  simp only [Tracks, track, Assoc.get?_insert]
  split <;> simp

theorem tracks_untrack {key key' : String} {trade : TradeRef} :
    (t.untrack key).Tracks key' trade ↔ key ≠ key' ∧ t.Tracks key' trade := by
  simp only [Tracks, untrack, Assoc.get?_erase]
  split <;> simp_all

/-- An order that is submitted takes no other order's place. -/
theorem Holds.track {key : String} (h : t.Holds key) (key' : String) (trade : TradeRef) :
    (t.track key' trade).Holds key := by
  obtain ⟨trade', ht⟩ := h
  by_cases hk : key' = key
  · exact ⟨trade, tracks_track.mpr (by simp [hk])⟩
  · exact ⟨trade', tracks_track.mpr (by simpa [hk] using ht)⟩

theorem not_tracks_untrack {key : String} {trade : TradeRef} :
    ¬ (t.untrack key).Tracks key trade := by
  intro h
  exact (tracks_untrack.mp h).1 rfl

theorem contains_iff_holds {key : String} : t.trades.contains key = true ↔ t.Holds key := by
  rw [Assoc.contains_eq_isSome, Option.isSome_iff_exists]
  rfl

instance (t : Tracker) (key : String) : Decidable (t.Holds key) :=
  decidable_of_iff _ contains_iff_holds

theorem saysNothingLeft_iff {f : Fill} :
    saysNothingLeft f.quantityLeaves = true ↔ LeavesNothing f := by
  simp [saysNothingLeft, LeavesNothing, Option.any_eq_true]

theorem nonzeroId?_eq_some_iff {s : String} {id : Int64} :
    nonzeroId? s = some id ↔ Text.int64? (Text.trim s) = some id ∧ id ≠ 0 := by
  simp [nonzeroId?, Option.filter_eq_some_iff]

theorem mem_candidates_iff {f : Fill} {id : Int64} : id ∈ candidates f ↔ Numbers f id := by
  simp only [candidates, List.mem_filterMap, List.mem_cons, List.not_mem_nil, or_false,
    exists_eq_or_imp, exists_eq_left, nonzeroId?_eq_some_iff, Numbers]
  constructor
  · rintro (⟨h, hz⟩ | ⟨h, hz⟩)
    · exact ⟨hz, .inl h⟩
    · exact ⟨hz, .inr h⟩
  · rintro ⟨hz, h | h⟩
    · exact .inl ⟨h, hz⟩
    · exact .inr ⟨h, hz⟩

/-- The entry that is found carries one of the numbers looked for. -/
theorem keyOf?_eq_some {order : VisitOrder Entry} {ids : List Int64} {key : String}
    (h : t.keyOf? order ids = some key) : ∃ trade, t.Tracks key trade ∧ trade.orderId ∈ ids := by
  obtain ⟨e, he, rfl⟩ := Option.map_eq_some_iff.mp h
  have hmem : e ∈ t.trades.entries := (order.mem_arrange _ _).mp (List.mem_of_find?_eq_some he)
  have hid := List.find?_some he
  refine ⟨e.2, Assoc.get?_eq_some_iff.mpr hmem, ?_⟩
  simpa using hid

/-- Nothing is found only where no entry carries any of the numbers looked for. -/
theorem keyOf?_eq_none_iff {order : VisitOrder Entry} {ids : List Int64} :
    t.keyOf? order ids = none ↔ ∀ key trade, t.Tracks key trade → trade.orderId ∉ ids := by
  simp only [keyOf?, Option.map_eq_none_iff, List.find?_eq_none]
  constructor
  · intro h key trade ht
    have hmem :=
      (order.mem_arrange t.trades.entries (key, trade)).mpr (Assoc.get?_eq_some_iff.mp ht)
    simpa using h _ hmem
  · intro h e he
    have hmem := (order.mem_arrange _ _).mp he
    simpa using h e.1 e.2 (Assoc.get?_eq_some_iff.mpr hmem)

theorem canceledKey?_eq_some {order : VisitOrder Entry} {id : Int64} {key : String}
    (h : t.canceledKey? order id = some key) :
    id ≠ 0 ∧ ∃ trade, t.Tracks key trade ∧ trade.orderId = id := by
  unfold canceledKey? at h
  split at h
  · cases h
  · next hz =>
    obtain ⟨trade, ht, hid⟩ := keyOf?_eq_some h
    exact ⟨hz, trade, ht, by simpa using hid⟩

theorem canceledKey?_eq_none {order : VisitOrder Entry} {id : Int64}
    (h : t.canceledKey? order id = none) :
    id = 0 ∨ ∀ key trade, t.Tracks key trade → trade.orderId ≠ id := by
  unfold canceledKey? at h
  split at h
  · next hz => exact .inl hz
  · right
    intro key trade ht
    simpa using keyOf?_eq_none_iff.mp h key trade ht

/-- Whether the key that a fill gives names no tracked order. -/
theorem not_named_iff {f : Fill} :
    ¬ (f.orderId ≠ "" ∧ t.trades.contains f.orderId = true) ↔ f.orderId = "" ∨
    ¬ t.Holds f.orderId := by
  rw [contains_iff_holds, Classical.not_and_iff_not_or_not, Classical.not_not]

/-- How a fill finds its order: by key first, and by number where no key is known. -/
theorem filledKey?_eq_some {order : VisitOrder Entry} {f : Fill} {key : String}
    (h : t.filledKey? order f = some key) : LeavesNothing f ∧
      ((f.orderId ≠ "" ∧ t.Holds f.orderId ∧ f.orderId = key) ∨
        ((f.orderId = "" ∨ ¬ t.Holds f.orderId) ∧ ∃ trade, t.Tracks key trade ∧
          Numbers f trade.orderId)) := by
  unfold filledKey? at h
  split at h
  · next hl =>
    refine ⟨saysNothingLeft_iff.mp hl, ?_⟩
    split at h
    · next hk => exact .inl ⟨hk.1, contains_iff_holds.mp hk.2, Option.some.inj h⟩
    · next hk =>
      obtain ⟨trade, ht, hid⟩ := keyOf?_eq_some h
      exact .inr ⟨not_named_iff.mp hk, trade, ht, mem_candidates_iff.mp hid⟩
  · cases h

theorem filledKey?_eq_none {order : VisitOrder Entry} {f : Fill} (h : t.filledKey? order f = none)
    (hl : LeavesNothing f) : (f.orderId = "" ∨ ¬ t.Holds f.orderId) ∧
      ∀ key trade, t.Tracks key trade → ¬ Numbers f trade.orderId := by
  rw [filledKey?, if_pos (saysNothingLeft_iff.mpr hl)] at h
  split at h
  · cases h
  · next hk =>
    refine ⟨not_named_iff.mp hk, ?_⟩
    intro key trade ht hn
    exact keyOf?_eq_none_iff.mp h key trade ht (mem_candidates_iff.mpr hn)

theorem handle_canceled_world {order : VisitOrder Entry} {id : Int64} {m : Metrics} {key : String}
    (h : t.canceledKey? order id = some key) :
    (t.handle order (.attemptedCancel id) m).world = t.untrack key := by
  simp only [handle, h, moved]

theorem handle_filled_world {order : VisitOrder Entry} {f : Fill} {m : Metrics} {key : String}
    (h : t.filledKey? order f = some key) :
    (t.handle order (.fillArrived f) m).world = t.untrack key := by
  simp only [handle, h, moved]

/-- Every event does one of the listed things to a tracker. -/
theorem change_handle (order : VisitOrder Entry) (t : Tracker) (e : Event) (m : Metrics) :
    Change t e (t.handle order e m).world := by
  cases e with
  | orderSubmitted trade key => exact .tracked trade key
  | orderCanceled key => exact .ignored key
  | attemptedCancel id =>
    simp only [handle]
    cases hk : t.canceledKey? order id with
    | none => exact .notCanceled (canceledKey?_eq_none hk)
    | some key =>
      obtain ⟨hid, trade, ht, hn⟩ := canceledKey?_eq_some hk
      exact .canceled hid ht hn
  | fillArrived f =>
    simp only [handle]
    cases hk : t.filledKey? order f with
    | none => exact .notFilled (filledKey?_eq_none hk)
    | some key =>
      obtain ⟨hl, ⟨hne, ht, rfl⟩ | ⟨hother, trade, ht, hn⟩⟩ := filledKey?_eq_some hk
      · exact .filledByKey hl hne ht
      · exact .filledByNumber hl hother ht hn

/-- Only the entry under the given key is left out. -/
theorem eq_of_not_tracks_untrack {key key' : String} {trade : TradeRef} (ht : t.Tracks key' trade)
    (hl : ¬ (t.untrack key).Tracks key' trade) : key = key' :=
  Classical.byContradiction fun hne => hl (tracks_untrack.mpr ⟨hne, ht⟩)

/-- An order that is no longer tracked after an event is one that the event may end. -/
theorem Change.ends {t' : Tracker} {e : Event} (h : Change t e t') {key : String} {trade : TradeRef}
    (ht : t.Tracks key trade) (hl : ¬ t'.Tracks key trade) : Ends key trade e := by
  cases h with
  | tracked trade' key' =>
    rw [tracks_track] at hl
    split at hl
    · next hk => exact hk ▸ .resubmitted trade'
    · exact absurd ht hl
  | canceled hid ht' hn =>
    obtain rfl := eq_of_not_tracks_untrack ht hl
    obtain rfl := ht.unique ht'
    subst hn
    exact .canceled hid
  | filledByKey hleaves => exact .filledByKey hleaves (eq_of_not_tracks_untrack ht hl)
  | filledByNumber hleaves _ ht' hn =>
    obtain rfl := eq_of_not_tracks_untrack ht hl
    obtain rfl := ht.unique ht'
    exact .filledByNumber hleaves hn
  | notCanceled => exact absurd ht hl
  | notFilled => exact absurd ht hl
  | ignored => exact absurd ht hl

/-- A key that comes into use is that of a submission. -/
theorem Change.eq_of_gained {t' : Tracker} {e : Event} (h : Change t e t') {key : String}
    (hn : ¬ t.Holds key) (hg : t'.Holds key) : ∃ trade, e = .orderSubmitted trade key := by
  obtain ⟨trade', ht'⟩ := hg
  have hold : ∀ {key' : String}, (t.untrack key').Tracks key trade' → False :=
    fun ht => hn ⟨trade', (tracks_untrack.mp ht).2⟩
  cases h with
  | tracked trade key' =>
    rw [tracks_track] at ht'
    split at ht'
    · next hk => exact ⟨trade, by rw [hk]⟩
    · exact absurd ⟨trade', ht'⟩ hn
  | canceled => exact (hold ht').elim
  | filledByKey => exact (hold ht').elim
  | filledByNumber => exact (hold ht').elim
  | notCanceled => exact absurd ⟨trade', ht'⟩ hn
  | notFilled => exact absurd ⟨trade', ht'⟩ hn
  | ignored => exact absurd ⟨trade', ht'⟩ hn

/-- A key that falls out of use leaves every other entry as it was. -/
theorem Change.eq_untrack_of_lost {t' : Tracker} {e : Event} (h : Change t e t') {key : String}
    (hholds : t.Holds key) (hl : ¬ t'.Holds key) : t' = t.untrack key := by
  have ⟨trade, ht⟩ := hholds
  have hlost : ¬ t'.Tracks key trade := fun h => hl ⟨trade, h⟩
  cases h with
  | tracked trade' key' => exact absurd (hholds.track key' trade') hl
  | canceled => rw [eq_of_not_tracks_untrack ht hlost]
  | filledByKey => rw [eq_of_not_tracks_untrack ht hlost]
  | filledByNumber => rw [eq_of_not_tracks_untrack ht hlost]
  | notCanceled => exact absurd hholds hl
  | notFilled => exact absurd hholds hl
  | ignored => exact absurd hholds hl

/-- A key falls out of use by an attempted cancel or a fill. -/
theorem Change.canceled_or_filled_of_lost {t' : Tracker} {e : Event} (h : Change t e t')
    {key : String} (ht : t.Holds key) (hl : ¬ t'.Holds key) :
    (∃ id, e = .attemptedCancel id) ∨ ∃ f, e = .fillArrived f := by
  cases h with
  | tracked trade key' => exact absurd (ht.track key' trade) hl
  | canceled => exact .inl ⟨_, rfl⟩
  | notCanceled => exact .inl ⟨_, rfl⟩
  | filledByKey => exact .inr ⟨_, rfl⟩
  | filledByNumber => exact .inr ⟨_, rfl⟩
  | notFilled => exact .inr ⟨_, rfl⟩
  | ignored => exact absurd ht hl

/-- The end of an order by an attempted cancel is announced under the key of the order. -/
theorem handle_canceled_of_lost {order : VisitOrder Entry} {id : Int64} {m : Metrics} {key : String}
    (ht : t.Holds key) (hl : ¬ (t.handle order (.attemptedCancel id) m).world.Holds key) :
    t.handle order (.attemptedCancel id) m = moved (t.untrack key) m [.orderCanceled key] := by
  simp only [handle] at hl ⊢
  cases hk : t.canceledKey? order id with
  | none =>
    rw [hk] at hl
    exact absurd ht hl
  | some key' =>
    rw [hk] at hl
    obtain ⟨trade, ht⟩ := ht
    obtain rfl := eq_of_not_tracks_untrack ht fun h => hl ⟨trade, h⟩
    rfl

/-- An event takes away one entry at most. -/
theorem Change.lost_unique {t' : Tracker} {e : Event} (h : Change t e t') {key key' : String}
    (ht : t.Holds key) (hl : ¬ t'.Holds key) (ht' : t.Holds key') (hl' : ¬ t'.Holds key') :
    key = key' := by
  have he := h.eq_untrack_of_lost ht hl
  obtain ⟨trade, htrade⟩ := ht'
  subst he
  exact eq_of_not_tracks_untrack htrade fun h => hl' ⟨trade, h⟩

/-- A tracker answers an attempted cancel at most, with the cancellation of one order. -/
theorem handle_offers (order : VisitOrder Entry) (t : Tracker) (e : Event) (m : Metrics) :
    (t.handle order e m).offers = [] ∨
      ∃ id key, e = .attemptedCancel id ∧ (t.handle order e m).offers = [.orderCanceled key] := by
  cases e with
  | attemptedCancel id =>
    cases hkey : t.canceledKey? order id with
    | none => exact .inl (by simp [handle, hkey, unmoved])
    | some key => exact .inr ⟨id, key, rfl, by simp [handle, hkey, moved]⟩
  | fillArrived f =>
    refine .inl ?_
    simp only [handle]
    split <;> rfl
  | orderSubmitted trade key => exact .inl rfl
  | orderCanceled key => exact .inl rfl

end VenueGateway.Tracker
