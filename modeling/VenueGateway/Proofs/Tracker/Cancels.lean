import VenueGateway.Proofs.Tracker.Closing
import VenueGateway.Proofs.Tracker.Run

/-!
Attempted cancels one after another. Where no two tracked orders have the same number, what is
tracked in the end and what is announced depend on which numbers were given up, and neither on their
order nor on how often each was named.
-/

namespace VenueGateway

namespace Assoc

variable {κ ν : Type}

def filter (m : Assoc κ ν) (p : κ × ν → Bool) : Assoc κ ν :=
  ⟨m.entries.filter p, (List.filter_sublist.map Prod.fst).nodup m.nodup⟩

theorem filter_congr {m : Assoc κ ν} {p q : κ × ν → Bool} (h : ∀ e ∈ m.entries, p e = q e) :
    m.filter p = m.filter q := by
  simp only [filter, List.filter_congr h]

theorem filter_eq_self {m : Assoc κ ν} {p : κ × ν → Bool} (h : ∀ e ∈ m.entries, p e = true) :
    m.filter p = m := by
  simp only [filter, List.filter_eq_self.mpr h]

theorem filter_filter (m : Assoc κ ν) (p q : κ × ν → Bool) :
    (m.filter p).filter q = m.filter fun e => p e && q e := by
  simp only [filter, List.filter_filter, Bool.and_comm]

theorem erase_eq_filter [DecidableEq κ] (m : Assoc κ ν) (k : κ) :
    m.erase k = m.filter fun e => e.1 ≠ k := rfl

end Assoc

namespace Tracker

/-- Whether an order is given up by attempted cancels with some numbers. The number nought names no
order. -/
def givenUp (ids : List Int64) (id : Int64) : Bool := id ≠ 0 && id ∈ ids

def without (t : Tracker) (ids : List Int64) : Tracker :=
  { t with trades := t.trades.filter fun e => !givenUp ids e.2.orderId }

/-- Attempted cancels, and the order in which entries are met at each of them. -/
def attempts (cs : List (VisitOrder Entry × Int64)) : List Handling :=
  cs.map fun c => ⟨c.1, .attemptedCancel c.2⟩

variable {t : Tracker} {ids : List Int64} {id : Int64}

theorem givenUp_eq_true_iff : givenUp ids id = true ↔ id ≠ 0 ∧ id ∈ ids := by simp [givenUp]

theorem givenUp_cons (id id' : Int64) (ids : List Int64) :
    givenUp (id :: ids) id' = (givenUp [id] id' || givenUp ids id') := by
  rw [Bool.eq_iff_iff, Bool.or_eq_true]
  simp only [givenUp_eq_true_iff, List.mem_cons, List.not_mem_nil, or_false, and_or_left]

theorem tracks_without {key : String} {trade : TradeRef} :
    (t.without ids).Tracks key trade ↔ t.Tracks key trade ∧
    ¬ (trade.orderId ≠ 0 ∧ trade.orderId ∈ ids) := by
  rw [Tracks, Tracks, Assoc.get?_eq_some_iff, Assoc.get?_eq_some_iff, without, Assoc.filter,
    List.mem_filter, Bool.not_eq_true', ← Bool.not_eq_true, givenUp_eq_true_iff]

theorem without_nil (t : Tracker) : t.without [] = t := by
  have hall : t.trades.filter (fun e => !givenUp [] e.2.orderId) = t.trades :=
    Assoc.filter_eq_self fun e _ => by simp [givenUp]
  rw [without, hall]

theorem without_without (t : Tracker) (id : Int64) (ids : List Int64) :
    (t.without [id]).without ids = t.without (id :: ids) := by
  have hkeeps : ∀ id', (!givenUp [id] id' && !givenUp ids id') = !givenUp (id :: ids) id' :=
      fun id' => by
    rw [givenUp_cons id id' ids, Bool.not_or]
  simp only [without, Assoc.filter_filter, hkeeps]

theorem Apart.without (ha : t.Apart) (ids : List Int64) : (t.without ids).Apart :=
  fun key trade key' trade' ht ht' =>
    ha key trade key' trade' (tracks_without.mp ht).1 (tracks_without.mp ht').1

/-- With an order goes its entry, which is the only one that carries its number. -/
theorem untrack_eq_without (ha : t.Apart) {key : String} {trade : TradeRef}
    (ht : t.Tracks key trade) (hz : trade.orderId ≠ 0) :
    t.untrack key = t.without [trade.orderId] := by
  have hentries : ∀ e ∈ t.trades.entries, decide (e.1 ≠ key) =
      !givenUp [trade.orderId] e.2.orderId := by
    intro e he
    have hte : t.Tracks e.1 e.2 := Assoc.get?_eq_some_iff.mpr he
    rw [Bool.eq_iff_iff, decide_eq_true_iff, Bool.not_eq_true', ← Bool.not_eq_true,
      givenUp_eq_true_iff, List.mem_singleton]
    constructor
    · rintro hne ⟨-, hid⟩
      exact hne (ha _ _ _ _ hte ht hid)
    · rintro hkept rfl
      obtain hsame : e.2 = trade := hte.unique ht
      exact hkept ⟨by rw [hsame]; exact hz, by rw [hsame]⟩
  rw [untrack, Assoc.erase_eq_filter, Assoc.filter_congr hentries, Tracker.without]

/-- A number that no order has gives up none. -/
theorem without_eq_self (h : id = 0 ∨ ∀ key trade, t.Tracks key trade → trade.orderId ≠ id) :
    t.without [id] = t := by
  have hall : t.trades.filter (fun e => !givenUp [id] e.2.orderId) = t.trades := by
    refine Assoc.filter_eq_self fun e he => ?_
    have hte : t.Tracks e.1 e.2 := Assoc.get?_eq_some_iff.mpr he
    rw [Bool.not_eq_true', ← Bool.not_eq_true, givenUp_eq_true_iff, List.mem_singleton]
    rintro ⟨hne, hid⟩
    rcases h with hz | hnone
    · exact hne (hid.trans hz)
    · exact hnone e.1 e.2 hte hid
  rw [Tracker.without, hall]

/-- One attempted cancel. What it announces, and what is announced of the orders that it leaves when
further ones are given up, is together what is announced when all of them are given up. -/
theorem handle_attempt (ha : t.Apart) (order : VisitOrder Entry) (id : Int64) (m : Metrics) :
    let r := t.handle order (.attemptedCancel id) m
    r.world = t.without [id] ∧ ∀ ids,
      (r.offers ++ (t.without [id]).announcements (givenUp ids)).Perm
        (t.announcements (givenUp (id :: ids))) := by
  intro r
  by_cases hz : id = 0
  · have hr : r = t.unmoved m := by
      simp only [r, handle, canceledKey?, if_pos hz]
    have hcongr : ∀ ids, t.announcements (givenUp ids) = t.announcements (givenUp (id :: ids)) :=
        fun ids => by
      refine announcements_congr fun key trade _ => ?_
      rw [givenUp_cons]
      simp [givenUp, hz]
    rw [hr, without_eq_self (.inl hz)]
    exact ⟨rfl, fun ids => .of_eq (hcongr ids)⟩
  · have hclosed := closed_handle (t := t) (.givenUp hz) order m
    have hworld : r.world = t.without [id] := by
      cases hclosed with
      | now ht hid hworld =>
        subst hid
        rw [hworld, untrack_eq_without ha ht hz]
      | before hnone hworld => rw [hworld, without_eq_self (.inr hnone)]
    refine ⟨hworld, fun ids => ?_⟩
    have hperm := hclosed.announcements_perm ha (givenUp ids)
    rw [← hworld]
    refine hperm.trans (.of_eq (announcements_congr fun key trade _ => ?_))
    rw [givenUp_cons]
    by_cases hid : trade.orderId = id <;> simp [givenUp, hid, hz]

/-- After attempted cancels the orders that they name are gone and announced. -/
theorem handleAll_attempts (ha : t.Apart) (m : Metrics) (cs : List (VisitOrder Entry × Int64)) :
    let r := t.handleAll m (attempts cs)
    r.world = t.without (cs.map Prod.snd) ∧
      r.offers.Perm (t.announcements (givenUp (cs.map Prod.snd))) := by
  induction cs generalizing t m with
  | nil =>
    exact ⟨t.without_nil.symm, by simp [attempts, handleAll, unmoved, announcements, givenUp]⟩
  | cons c cs ih =>
    obtain ⟨hworld, hannounced⟩ := handle_attempt ha c.1 c.2 m
    obtain ⟨hrest, hoffers⟩ := ih (ha.without [c.2]) (t.handle c.1 (.attemptedCancel c.2) m).metrics
    rw [← hworld] at hrest hoffers
    refine ⟨hrest.trans ?_, (hoffers.append_left _).trans ?_⟩
    · rw [hworld, without_without, List.map_cons]
    · rw [hworld]
      exact hannounced (cs.map Prod.snd)

theorem nodup_announcements (t : Tracker) (p : Int64 → Bool) : (t.announcements p).Nodup := by
  have hkeys : ((t.trades.filter fun e => p e.2.orderId).entries.map Prod.fst).Nodup :=
    Assoc.nodup _
  have hinjective : Function.Injective Event.orderCanceled := fun _ _ h => Event.orderCanceled.inj h
  have hmap : t.announcements p =
      ((t.trades.filter fun e => p e.2.orderId).entries.map Prod.fst).map .orderCanceled := by
    rw [announcements, List.map_map]
    rfl
  rw [hmap]
  exact hkeys.map hinjective

theorem mem_announcements_iff {p : Int64 → Bool} {e : Event} :
    e ∈ t.announcements p ↔ ∃ key trade, t.Tracks key trade ∧ p trade.orderId = true ∧
    e = .orderCanceled key := by
  simp only [announcements, List.mem_map, List.mem_filter, Prod.exists, Tracks,
    Assoc.get?_eq_some_iff, and_assoc]
  simp only [eq_comm]

/-- Attempted cancels that name the same numbers leave the same orders tracked and announce the same
ones, each once, in whatever order they come, however often one of them is repeated and in whatever
order entries are met. -/
theorem cancels_alike (t : Tracker) (ha : t.Apart) (m m' : Metrics)
    (cs cs' : List (VisitOrder Entry × Int64))
    (hsame : ∀ id, id ∈ cs.map Prod.snd ↔ id ∈ cs'.map Prod.snd) :
    let r := t.handleAll m (attempts cs)
    let r' := t.handleAll m' (attempts cs')
    r.world = r'.world ∧
    (∀ key trade, r.world.Tracks key trade ↔
      t.Tracks key trade ∧ (trade.orderId = 0 ∨ trade.orderId ∉ cs.map Prod.snd)) ∧
    r.offers.Perm r'.offers ∧ r.offers.Nodup ∧
    ∀ e, e ∈ r.offers ↔ ∃ key trade, t.Tracks key trade ∧
      (trade.orderId ≠ 0 ∧ trade.orderId ∈ cs.map Prod.snd) ∧
      e = .orderCanceled key := by
  intro r r'
  obtain ⟨hworld, hoffers⟩ := handleAll_attempts ha m cs
  obtain ⟨hworld', hoffers'⟩ := handleAll_attempts ha m' cs'
  have hgivenUp : givenUp (cs.map Prod.snd) = givenUp (cs'.map Prod.snd) := by
    funext id
    rw [Bool.eq_iff_iff, givenUp_eq_true_iff, givenUp_eq_true_iff, hsame id]
  refine ⟨?_, fun key trade => ?_, ?_, ?_, fun e => ?_⟩
  · rw [hworld, hworld', without, without, hgivenUp]
  · rw [hworld, tracks_without, Classical.not_and_iff_not_or_not, Classical.not_not]
  · rw [← hgivenUp] at hoffers'
    exact hoffers.trans hoffers'.symm
  · exact hoffers.nodup_iff.mpr (t.nodup_announcements _)
  · rw [hoffers.mem_iff, mem_announcements_iff]
    simp only [givenUp_eq_true_iff]

def threeOrders : Tracker :=
  (((new ⟨0⟩).track "a" ⟨1, 9, 1⟩).track "b" ⟨1, 9, 2⟩).track "c" ⟨1, 9, 0⟩

/-- Numbers come again, in another order, among them one that is not tracked. -/
theorem threeOrders_cancels_alike :
    let backwards : VisitOrder Entry := ⟨List.reverse, List.reverse_perm⟩
    let cs := [(backwards, 2), (.asKept, 0), (.asKept, 7), (backwards, 2)]
    let cs' := [(VisitOrder.asKept, 7), (.asKept, 7), (backwards, 0), (.asKept, 2)]
    threeOrders.Apart ∧ (∀ id, id ∈ cs.map Prod.snd ↔ id ∈ cs'.map Prod.snd) ∧
      (threeOrders.handleAll {} (attempts cs)).world =
        (threeOrders.handleAll {} (attempts cs')).world ∧
      ∀ e, e ∈ (threeOrders.handleAll {} (attempts cs)).offers ↔ e = .orderCanceled "b" := by
  intro backwards cs cs'
  have hentries : ∀ e ∈ threeOrders.trades.entries, ∀ e' ∈ threeOrders.trades.entries,
      e.2.orderId = e'.2.orderId → e.1 = e'.1 := by decide
  have ha : threeOrders.Apart := fun key trade key' trade' ht ht' =>
    hentries (key, trade) (Assoc.get?_eq_some_iff.mp ht) (key',
      trade') (Assoc.get?_eq_some_iff.mp ht')
  have hsame : ∀ id, id ∈ cs.map Prod.snd ↔ id ∈ cs'.map Prod.snd := by
    intro id
    simp only [cs, cs', List.map_cons, List.map_nil, List.mem_cons, List.not_mem_nil, or_false]
    grind
  obtain ⟨hworld, -, -, -, hoffers⟩ := cancels_alike threeOrders ha {} {} cs cs' hsame
  have honly : ∀ e ∈ threeOrders.trades.entries, e.2.orderId ≠ 0 ∧ e.2.orderId ∈ cs.map Prod.snd →
    e.1 = "b" := by decide
  refine ⟨ha, hsame, hworld, fun e => (hoffers e).trans ⟨?_, ?_⟩⟩
  · rintro ⟨key, trade, ht, hnamed, rfl⟩
    exact congrArg Event.orderCanceled (honly (key, trade) (Assoc.get?_eq_some_iff.mp ht) hnamed)
  · rintro rfl
    exact ⟨"b", ⟨1, 9, 2⟩, by decide, by decide, rfl⟩

end Tracker

end VenueGateway
