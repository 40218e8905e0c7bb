import VenueGateway.Proofs.Tracker.Change

/-!
Runs of a tracker. Events are handled one after another, and at each of them entries may be met in
another order. An order stays tracked until an event is handled that may end it.
-/

namespace VenueGateway.Tracker

theorem handleAll_cons_world (t : Tracker) (m : Metrics) (h : Handling) (hs : List Handling) :
    (t.handleAll m (h :: hs)).world =
      ((t.handle h.visits h.event m).world.handleAll (t.handle h.visits h.event m).metrics
        hs).world := rfl

theorem handleAll_append_world (t : Tracker) (m : Metrics) (hs hs' : List Handling) :
    (t.handleAll m (hs ++ hs')).world =
      ((t.handleAll m hs).world.handleAll (t.handleAll m hs).metrics hs').world := by
  induction hs generalizing t m with
  | nil => rfl
  | cons h hs ih =>
    rw [List.cons_append, handleAll_cons_world, ih]
    rfl

/-- What is tracked at the start of a run and not at its end was named by an event in between. -/
theorem exists_ends_of_lost {t : Tracker} {m : Metrics} {hs : List Handling} {key : String}
    {trade : TradeRef} (ht : t.Tracks key trade)
    (hl : ¬ (t.handleAll m hs).world.Tracks key trade) :
    ∃ h ∈ hs, Ends key trade h.event := by
  induction hs generalizing t m with
  | nil => exact absurd ht hl
  | cons h hs ih =>
    by_cases hstep : (t.handle h.visits h.event m).world.Tracks key trade
    · obtain ⟨h', hmem, hends⟩ := ih hstep (by rwa [handleAll_cons_world] at hl)
      exact ⟨h', List.mem_cons_of_mem _ hmem, hends⟩
    · exact ⟨h, List.mem_cons_self, (change_handle h.visits t h.event m).ends ht hstep⟩

/-- An order that is tracked at one moment and not at a later one was resubmitted, canceled or
filled by an event in between, and no event does more than add the entry of its own order or take
one entry away. -/
theorem tracked_until_ended (t₀ : Tracker) (m : Metrics) (before : List Handling) :
    let t := (t₀.handleAll m before).world
    (∀ between key trade, t.Tracks key trade →
      ¬ (t₀.handleAll m (before ++ between)).world.Tracks key trade → ∃ h ∈ between,
        Ends key trade h.event) ∧
    ∀ order e n,
      let t' := (t.handle order e n).world
      Change t e t' ∧
      (∀ key, ¬ t.Holds key → t'.Holds key → ∃ trade, e = .orderSubmitted trade key) ∧
      ∀ key key', t.Holds key → ¬ t'.Holds key → t.Holds key' → ¬ t'.Holds key' → key = key' := by
  intro t
  refine ⟨?_, ?_⟩
  · intro between key trade ht hl
    rw [handleAll_append_world] at hl
    exact exists_ends_of_lost ht hl
  · intro order e n
    have hc := change_handle order t e n
    exact ⟨hc, fun _ => hc.eq_of_gained, fun _ _ => hc.lost_unique⟩

/-- Two orders, the key of the second of which is the number of the first. -/
def twoOrders : List Handling :=
  [⟨.asKept, .orderSubmitted ⟨1, 9, 1⟩ "a"⟩, ⟨.asKept, .orderSubmitted ⟨1, 9, 2⟩ "1"⟩]

/-- A fill of the first order, which also is the key of the second. -/
def fillOfOne : Event :=
  .fillArrived { orderId := "1", clientOrderId := "1", quantityLeaves := " 0.000 " }

theorem second_order_tracked_until_ended :
    ((new ⟨0⟩).handleAll {} twoOrders).world.Tracks "1" ⟨1, 9, 2⟩ ∧
      ¬ ((new ⟨0⟩).handleAll {} (twoOrders ++ [⟨.asKept, fillOfOne⟩])).world.Tracks "1" ⟨1, 9, 2⟩ ∧
      ∃ h ∈ [(⟨.asKept, fillOfOne⟩ : Handling)], Ends "1" ⟨1, 9, 2⟩ h.event := by
  have hb : ((new ⟨0⟩).handleAll {} twoOrders).world.Tracks "1" ⟨1, 9, 2⟩ := by decide
  have ha :
      ¬ ((new ⟨0⟩).handleAll {} (twoOrders ++ [⟨.asKept, fillOfOne⟩])).world.Tracks
        "1" ⟨1, 9, 2⟩ := by
    decide
  exact ⟨hb, ha, (tracked_until_ended (new ⟨0⟩) {} twoOrders).1 _ _ _ hb ha⟩

end VenueGateway.Tracker
