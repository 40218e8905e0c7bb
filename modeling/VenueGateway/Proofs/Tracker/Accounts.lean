import VenueGateway.Proofs.Assoc
import VenueGateway.Proofs.Tracker.Run

/-!
The accounts of a tracker. Every order that was taken up is tracked still, or was given up, or was
filled, and none is in two of these places. The number that is shown is that of the orders that are
tracked, and exactly those that were given up are announced, each of them once and in the order in
which they went.
-/

namespace VenueGateway.Tracker

variable {t : Tracker}

/-- What a tracker does at an event: the entries that it keeps, the number that it shows and what it
announces. -/
inductive Does (t : Tracker) (m : Metrics) : Event → Reaction Tracker → Prop
  | tracks (trade : TradeRef) (key : String) :
      Does t m (.orderSubmitted trade key) (moved (t.track key trade) m [])
  | givesUp {id : Int64} {key : String} {trade : TradeRef} (hid : id ≠ 0) (ht : t.Tracks key trade)
      (hn : trade.orderId = id) :
      Does t m (.attemptedCancel id) (moved (t.untrack key) m [.orderCanceled key])
  | fills {f : Fill} {key : String} (ht : t.Holds key) :
    Does t m (.fillArrived f) (moved (t.untrack key) m [])
  | rests {e : Event} (he : ∀ trade key, e ≠ .orderSubmitted trade key) : Does t m e (t.unmoved m)

/-- A tracker does one of four things at an event. -/
theorem does_handle (order : VisitOrder Entry) (t : Tracker) (e : Event) (m : Metrics) :
    Does t m e (t.handle order e m) := by
  cases e with
  | orderSubmitted trade key => exact .tracks trade key
  | orderCanceled key => exact .rests (by simp)
  | attemptedCancel id =>
    simp only [handle]
    cases hk : t.canceledKey? order id with
    | none => exact .rests (by simp)
    | some key =>
      obtain ⟨hid, trade, ht, hn⟩ := canceledKey?_eq_some hk
      exact .givesUp hid ht hn
  | fillArrived f =>
    simp only [handle]
    cases hk : t.filledKey? order f with
    | none => exact .rests (by simp)
    | some key =>
      obtain ⟨-, ⟨-, ht, rfl⟩ | ⟨-, trade, ht, -⟩⟩ := filledKey?_eq_some hk
      · exact .fills ht
      · exact .fills ⟨trade, ht⟩

/-- An event in a run, between the tracker that met it and the one that it left. -/
structure Passage where
  before : Tracker
  event : Event
  after : Tracker

namespace Passage

/-- The key that is taken up: that of a submission, unless it is tracked already. -/
def opened? (p : Passage) : Option String :=
  match p.event with
  | .orderSubmitted _ key => if p.before.trades.contains key then none else some key
  | _ => none

/-- The keys that are no longer tracked, where that is due to an event of a kind. -/
def closedBy (kind : EventKind) (p : Passage) : List String :=
  if p.event.kind = kind then p.before.trades.missing p.after.trades else []

theorem mem_closedBy_iff {p : Passage} {kind : EventKind} {key : String} :
    key ∈ p.closedBy kind ↔ p.event.kind = kind ∧ p.before.Holds key ∧ ¬ p.after.Holds key := by
  unfold closedBy
  split
  · next hk => simp [hk, Assoc.mem_missing_iff, ← contains_iff_holds]
  · next hk => simp [hk]

end Passage

def passages (t : Tracker) (m : Metrics) : List Handling → List Passage
  | [] => []
  | h :: hs =>
    let r := t.handle h.visits h.event m
    ⟨t, h.event, r.world⟩ :: passages r.world r.metrics hs

def opened (ps : List Passage) : List String := ps.filterMap Passage.opened?

def closedBy (kind : EventKind) (ps : List Passage) : List String :=
  ps.flatMap (Passage.closedBy kind)

/-- The accounts of a run: what is shown, where every key went that was tracked at the start or
taken up, and what was announced. -/
structure Balanced (t : Tracker) (r : Reaction Tracker) (ps : List Passage) : Prop where
  shown : r.metrics.trackedOrders = r.world.trades.size
  parted : (opened ps ++ t.trades.keys).Perm
    (r.world.trades.keys ++ (closedBy .attemptedCancel ps ++ closedBy .fillArrived ps))
  announced : r.offers = (closedBy .attemptedCancel ps).map .orderCanceled

theorem opened_of_other {e : Event} (he : ∀ trade key, e ≠ .orderSubmitted trade key)
    (t t' : Tracker) :
    opened [⟨t, e, t'⟩] = [] := by
  cases e with
  | orderSubmitted trade key => exact absurd rfl (he trade key)
  | _ => rfl

theorem keys_track (t : Tracker) (key : String) (trade : TradeRef) :
    (t.track key trade).trades.keys = t.trades.keys ++ if t.trades.contains key then []
      else [key] :=
  Assoc.keys_insert _ _ _

theorem missing_untrack {key : String} (h : t.Holds key) :
    t.trades.missing (t.untrack key).trades = [key] :=
  Assoc.missing_erase (contains_iff_holds.mpr h)

theorem keys_untrack_perm {key : String} (h : t.Holds key) :
    t.trades.keys.Perm ((t.untrack key).trades.keys ++ [key]) :=
  Assoc.keys_erase_perm (contains_iff_holds.mpr h)

/-- One event moves one key at most from one account into another. -/
theorem Does.balanced {m : Metrics} (hm : m.trackedOrders = t.trades.size) {e : Event}
    {r : Reaction Tracker} (h : Does t m e r) : Balanced t r [⟨t, e, r.world⟩] := by
  cases h with
  | tracks trade key =>
    refine ⟨rfl, ?_, by simp [closedBy, Passage.closedBy, moved]⟩
    by_cases hk : t.trades.contains key = true
    · simp [opened, Passage.opened?, closedBy, Passage.closedBy, moved, keys_track, hk]
    · have hnew : ([key] ++ t.trades.keys).Perm (t.trades.keys ++ [key]) := List.perm_append_comm
      simpa [opened, Passage.opened?, closedBy, Passage.closedBy, moved, keys_track, hk] using hnew
  | @givesUp id key trade hid ht hn =>
    have hheld : t.Holds key := ⟨trade, ht⟩
    have hopened : opened [⟨t, .attemptedCancel id, t.untrack key⟩] = [] := rfl
    refine ⟨rfl, ?_, by simp [closedBy, Passage.closedBy, moved, missing_untrack hheld]⟩
    simpa [hopened, closedBy, Passage.closedBy, moved,
      missing_untrack hheld] using keys_untrack_perm hheld
  | @fills f key hheld =>
    have hopened : opened [⟨t, .fillArrived f, t.untrack key⟩] = [] := rfl
    refine ⟨rfl, ?_, by simp [closedBy, Passage.closedBy, moved]⟩
    simpa [hopened, closedBy, Passage.closedBy, moved,
      missing_untrack hheld] using keys_untrack_perm hheld
  | rests he =>
    refine ⟨hm, ?_, by simp [closedBy, Passage.closedBy, unmoved]⟩
    simp [opened_of_other he, closedBy, Passage.closedBy, unmoved]

/-- The accounts of a run are those of its first event and of the rest together. -/
theorem Balanced.cons {r r' : Reaction Tracker} {p : Passage} {ps : List Passage}
    (h : Balanced t r [p]) (h' : Balanced r.world r' ps) :
    Balanced t { r' with offers := r.offers ++ r'.offers } (p :: ps) where
  shown := h'.shown
  parted := by
    have hsplit : ∀ kind, closedBy kind (p :: ps) = closedBy kind [p] ++ closedBy kind ps := by
      simp [closedBy]
    have hopened : opened (p :: ps) = opened [p] ++ opened ps := List.filterMap_append (l := [p])
    rw [List.perm_iff_count]
    intro key
    have hfirst := h.parted.count_eq key
    have hrest := h'.parted.count_eq key
    simp only [hopened, hsplit, List.count_append] at hfirst hrest ⊢
    omega
  announced := by
    change r.offers ++ r'.offers = _
    rw [h.announced, h'.announced]
    simp [closedBy]

theorem balanced_handleAll (t : Tracker) (m : Metrics) (hm : m.trackedOrders = t.trades.size)
    (hs : List Handling) : Balanced t (t.handleAll m hs) (t.passages m hs) := by
  induction hs generalizing t m with
  | nil => exact ⟨hm, by simp [opened, closedBy, passages, handleAll, unmoved], rfl⟩
  | cons h hs ih =>
    have hfirst := (does_handle h.visits t h.event m).balanced hm
    exact hfirst.cons (ih _ _ hfirst.shown)

/-- What is given up in a run was tracked under a number other than nought, and the venue named that
number. -/
theorem named_of_mem_passages {t : Tracker} {m : Metrics} {hs : List Handling} {p : Passage}
    (hp : p ∈ t.passages m hs) {key : String} (hk : key ∈ p.closedBy .attemptedCancel) :
    ∃ trade, p.event = .attemptedCancel trade.orderId ∧ trade.orderId ≠ 0 ∧
    p.before.Tracks key trade := by
  induction hs generalizing t m with
  | nil => cases hp
  | cons h hs ih =>
    rcases List.mem_cons.mp hp with rfl | hp
    · obtain ⟨hkind, ⟨trade, ht⟩, hlost⟩ := Passage.mem_closedBy_iff.mp hk
      have hends := (change_handle h.visits t h.event m).ends ht fun h' => hlost ⟨trade, h'⟩
      generalize h.event = e at hkind hends
      cases hends with
      | canceled hz => exact ⟨trade, rfl, hz, ht⟩
      | _ => cases hkind
    · exact ih hp

/-- In a run from nothing tracked, the number that is shown is that of the orders tracked; every
order taken up is tracked still, was given up or was filled; and just those that were given up are
announced, in order, each because the venue gave up the number that it was tracked under. -/
theorem accounts_balance (interval : Duration) (m : Metrics) (hs : List Handling) :
    let r := (new interval).handleAll (m.setTracked 0) hs
    let ps := (new interval).passages (m.setTracked 0) hs
    r.metrics.trackedOrders = r.world.trades.size ∧
    (opened ps).length =
      r.world.trades.size + (closedBy .attemptedCancel ps).length +
        (closedBy .fillArrived ps).length ∧
    (opened ps).Perm
      (r.world.trades.keys ++ (closedBy .attemptedCancel ps ++ closedBy .fillArrived ps)) ∧
    r.offers = (closedBy .attemptedCancel ps).map .orderCanceled ∧
    ∀ p ∈ ps, ∀ key ∈ p.closedBy .attemptedCancel,
      ∃ trade, p.event = .attemptedCancel trade.orderId ∧ trade.orderId ≠ 0 ∧
        p.before.Tracks key trade := by
  intro r ps
  have hnew : (new interval).trades.keys = [] := rfl
  obtain ⟨hshown, hparted, hannounced⟩ := balanced_handleAll (new interval) (m.setTracked 0) rfl hs
  rw [hnew, List.append_nil] at hparted
  refine ⟨hshown, ?_, hparted, hannounced, fun p hp key hk => named_of_mem_passages hp hk⟩
  have hlength := hparted.length_eq
  simp only [List.length_append, Assoc.keys, List.length_map] at hlength
  rw [hlength, Assoc.size, Nat.add_assoc]

end VenueGateway.Tracker
