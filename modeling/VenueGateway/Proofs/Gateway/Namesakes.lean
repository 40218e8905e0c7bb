import VenueGateway.Proofs.Gateway.Entries

/-!
Orders under one key. An order is tracked under the name that the platform gave it, or else under
its number, and one that is submitted later takes the place of another with the same key. Names and
numbers are not kept apart, so an order without a name gives way to one whose name spells its
number, or takes its place.
-/

namespace VenueGateway

/-- A number is spelled by one text only. -/
theorem Text.ofInt64_injective {m n : Int64} (h : ofInt64 m = ofInt64 n) : m = n := by
  have hread := int64?_ofInt64 m
  rw [h, int64?_ofInt64 n] at hread
  exact (Option.some.inj hread).symm

namespace SubmitOrder

/-- The one has no name, and the name of the other spells its number. -/
def Namesake (c d : SubmitOrder) : Prop :=
  c.clientOrderId = "" ∧ d.clientOrderId = Text.ofInt64 c.id

instance (c d : SubmitOrder) : Decidable (Namesake c d) := inferInstanceAs (Decidable (_ ∧ _))

variable {c d : SubmitOrder}

theorem Namesake.trackingKey_eq (h : Namesake c d) : c.trackingKey = d.trackingKey := by
  have hnamed : d.clientOrderId ≠ "" := h.2 ▸ Text.ofInt64_ne_empty c.id
  rw [trackingKey, trackingKey, if_pos h.1, if_neg hnamed, h.2]

theorem Namesake.ne (h : Namesake c d) : c ≠ d := by
  rintro rfl
  exact Text.ofInt64_ne_empty c.id (h.2.symm.trans h.1)

/-- Orders of which both numbers and names differ share a key as namesakes only. -/
theorem trackingKey_ne (hid : c.id ≠ d.id)
    (hname : c.clientOrderId ≠ "" → d.clientOrderId ≠ "" → c.clientOrderId ≠ d.clientOrderId)
    (h : ¬ Namesake c d) (h' : ¬ Namesake d c) : c.trackingKey ≠ d.trackingKey := by
  unfold trackingKey
  by_cases hc : c.clientOrderId = "" <;> by_cases hd : d.clientOrderId = ""
  · rw [if_pos hc, if_pos hd]
    exact fun hsame => hid (Text.ofInt64_injective hsame)
  · rw [if_pos hc, if_neg hd]
    exact fun hsame => h ⟨hc, hsame.symm⟩
  · rw [if_neg hc, if_pos hd]
    exact fun hsame => h' ⟨hd, hsame⟩
  · rw [if_neg hc, if_neg hd]
    exact hname hc hd

/-- Orders of which no two have the same number or the same name. -/
structure Told (cs : List SubmitOrder) : Prop where
  ids : (cs.map (·.id)).Nodup
  names : ((cs.map (·.clientOrderId)).filter (· ≠ "")).Nodup

/-- Two orders share a key where one is a namesake of the other. -/
theorem nodup_trackingKey_iff {cs : List SubmitOrder} (h : Told cs) :
    (cs.map trackingKey).Nodup ↔ ∀ c ∈ cs, ∀ d ∈ cs, ¬ Namesake c d := by
  constructor
  · intro hkeys c hc d hd hsame
    exact hsame.ne (List.inj_on_of_nodup_map hkeys hc hd hsame.trackingKey_eq)
  · intro hnone
    have hids := List.pairwise_map.mp h.ids
    have hnames := List.pairwise_map.mp (List.pairwise_filter.mp h.names)
    refine List.pairwise_map.mpr ((hids.and hnames).imp_of_mem fun {c d} hc hd hdiffer => ?_)
    refine trackingKey_ne hdiffer.1 (fun hc' hd' => ?_) (hnone c hc d hd) (hnone d hd c hc)
    exact hdiffer.2 (by simpa using hc') (by simpa using hd')

end SubmitOrder

namespace Gateway

def entry (g : Gateway) (c : SubmitOrder) : Tracker.Entry :=
  (c.trackingKey, .onAccount g.account c.id)

/-- With a tracker on the bus an order is tracked, however the sending ends. -/
theorem attempted_submit {g : Gateway} {c : SubmitOrder} {id : Int64}
    (hid : g.directory.id? c.instrumentPair = some id)
    (ht : .tracker ∈ g.hub.bus.handlers .orderSubmitted) :
    Attempted g (g.submit c).1 c := by
  obtain ⟨logins, orders, s, hdone⟩ := carriedOut_submit hid
  have hknown :
    MadeKnown g (g.submit c).1 (.orderSubmitted (.onAccount g.account c.id) c.trackingKey) :=
    hdone.known
  obtain ⟨hb, hw⟩ := hknown.heard
  exact ⟨kept_submit g c, hb, by rw [tracker, hw, Listener.tracker_foldl_hear, if_pos ht, tracker]⟩

variable {g : Gateway} {batch : List (LinkCondition × SubmitOrder)}

def Mapped (g : Gateway) (batch : List (LinkCondition × SubmitOrder)) : Prop :=
  ∀ b ∈ batch, ∃ id, g.directory.id? b.2.instrumentPair = some id

/-- Every order of a batch is tracked, one after another. -/
theorem trades_submitAll (ht : .tracker ∈ g.hub.bus.handlers .orderSubmitted)
    (hmapped : g.Mapped batch) :
    (g.submitAll batch).tracker.trades =
      g.tracker.trades.insertAll ((batch.map Prod.snd).map g.entry) := by
  induction batch generalizing g with
  | nil => rfl
  | cons b batch ih =>
    obtain ⟨w, c⟩ := b
    obtain ⟨⟨id, hid⟩, hrest⟩ := List.forall_mem_cons.mp hmapped
    have hdone : Attempted (g.under w) ((g.under w).submit c).1 c := attempted_submit hid ht
    have haccount : ((g.under w).submit c).1.account = g.account := hdone.kept.account
    have hdirectory : ((g.under w).submit c).1.directory = g.directory := hdone.kept.directory
    have hnext := ih (g := ((g.under w).submit c).1) (hdone.bus ▸ ht) fun b hb => by
      rw [hdirectory]; exact hrest b hb
    have hentry : ((g.under w).submit c).1.entry = g.entry := by
      funext d
      rw [entry, entry, haccount]
    rw [submitAll, hnext, hdone.tracker, hentry]
    rfl

/-- The numbers of all orders are tracked exactly where no key is repeated. -/
theorem perm_ids_iff {cs : List SubmitOrder} :
    ((Assoc.ofList (cs.map g.entry)).entries.map (·.2.orderId)).Perm (cs.map (·.id)) ↔
      (cs.map SubmitOrder.trackingKey).Nodup := by
  have hkeys : (cs.map g.entry).map Prod.fst = cs.map SubmitOrder.trackingKey := by
    rw [List.map_map]; rfl
  rw [← hkeys]
  constructor
  · intro hperm
    refine Assoc.size_ofList_iff.mp ?_
    have hlength := hperm.length_eq
    rwa [List.length_map, List.length_map, ← List.length_map g.entry] at hlength
  · intro hnodup
    have hentries : (Assoc.ofList (cs.map g.entry)).entries = cs.map g.entry :=
      Assoc.entries_insertAll (by simpa [Assoc.empty, Assoc.keys] using hnodup)
    rw [hentries, List.map_map]
    rfl

/-- What a batch of orders leaves behind that differ in their numbers and in their names, wherever
the sending fails. Under each key there is the last order that has it; and there is one entry for
each order, with its number, unless the batch has an order without a name and one whose name spells
the number of that order. -/
theorem tracked_apart_iff (g : Gateway) (batch : List (LinkCondition × SubmitOrder))
    (ht : .tracker ∈ g.hub.bus.handlers .orderSubmitted) (hempty : g.tracker.trades = .empty)
    (hmapped : g.Mapped batch) (htold : SubmitOrder.Told (batch.map Prod.snd)) :
    let cs := batch.map Prod.snd
    let trades := (g.submitAll batch).tracker.trades
    (∀ key, trades.get? key = (cs.reverse.find? (·.trackingKey = key)).map fun c =>
      .onAccount g.account c.id) ∧
    ((trades.entries.map (·.2.orderId)).Perm (cs.map (·.id)) ↔ ∀ c ∈ cs, ∀ d ∈ cs,
      ¬ c.Namesake d) := by
  intro cs trades
  have htrades : trades = .ofList (cs.map g.entry) := by
    rw [Assoc.ofList, ← hempty]; exact trades_submitAll ht hmapped
  refine ⟨fun key => ?_, ?_⟩
  · rw [htrades, Assoc.ofList, Assoc.get?_insertAll, Assoc.get?_empty, Option.or_none,
      ← List.map_reverse, List.find?_map, Option.map_map]
    rfl
  · rw [htrades, perm_ids_iff]
    exact SubmitOrder.nodup_trackingKey_iff htold

/-- Two orders, of which the first has no name. It cannot be sent. -/
def unnamedFirst (name : String) : List (LinkCondition × SubmitOrder) :=
  [(lost, { id := 5, instrumentPair := "BTCUSD" }),
    (working, { id := 7, instrumentPair := "BTCUSD", clientOrderId := name })]

theorem mapped_unnamedFirst (name : String) : oneMarket.Mapped (unnamedFirst name) := by
  intro b hb
  simp only [unnamedFirst, List.mem_cons, List.not_mem_nil, or_false] at hb
  have hid : oneMarket.directory.id? "BTCUSD" = some 1 := by decide
  rcases hb with rfl | rfl <;> exact ⟨1, hid⟩

theorem unnamedFirst_apart :
    ((oneMarket.submitAll (unnamedFirst "05")).tracker.trades.entries.map
      (·.2.orderId)).Perm [5, 7] ∧
      (oneMarket.submitAll (unnamedFirst "05")).tracker.trades.get? "5" = some ⟨1, 9, 5⟩ := by
  obtain ⟨hlast, hiff⟩ :=
    tracked_apart_iff oneMarket (unnamedFirst "05") (by decide) rfl (mapped_unnamedFirst "05")
    ⟨by decide, by decide⟩
  exact ⟨hiff.mpr (by decide +kernel), (hlast "5").trans (by decide +kernel)⟩

/-- An order gives way to its namesake. -/
theorem namesake_overwrites : ¬ ∀ (g : Gateway) (batch : List (LinkCondition × SubmitOrder)),
    .tracker ∈ g.hub.bus.handlers .orderSubmitted → g.tracker.trades = .empty → g.Mapped batch →
    SubmitOrder.Told (batch.map Prod.snd) →
    ((g.submitAll batch).tracker.trades.entries.map (·.2.orderId)).Perm (batch.map (·.2.id)) := by
  intro h
  have hperm := h oneMarket (unnamedFirst "5") (by decide) rfl (mapped_unnamedFirst "5")
    ⟨by decide, by decide⟩
  have htrades : (oneMarket.submitAll (unnamedFirst "5")).tracker.trades =
      .ofList [("5", ⟨1, 9, 5⟩), ("5", ⟨1, 9, 7⟩)] :=
    (trades_submitAll (by decide) (mapped_unnamedFirst "5")).trans (by decide +kernel)
  rw [htrades] at hperm
  exact absurd hperm.length_eq (by decide)

end Gateway

end VenueGateway
