import VenueGateway.Gateway.Basic
import VenueGateway.Proofs.Bus.Feedback
import VenueGateway.Proofs.Tracker.Change

/-!
Any number of trackers and outboxes on one bus, and others who publish nothing. Only a tracker
answers, and only an attempted cancel, with the cancellation of an order, which no tracker and no
outbox answers. So nobody keeps the others busy: from every state the number of events in queues,
and for each attempted cancel in the queue of a tracker the number of subscriptions to
cancellations, say how many handlers are run at most.
-/

namespace VenueGateway

/-- Those who listen on a bus, trackers and outboxes by their numbers. -/
inductive Party (X : Type) where
  | tracker (i : Nat)
  | outbox (i : Nat)
  /-- One who publishes nothing. -/
  | other (x : X)
  deriving DecidableEq, Repr

structure Hall (W : Type) where
  trackers : List Tracker
  outboxes : List Outbox
  rest : W

/-- What others do with an event, and whether they break off. -/
abbrev Bystander (X W : Type) := X → Event → Hall W → Metrics → Hall W × Metrics × Bool

namespace Party

variable {X W : Type}

/-- What each of them does with an event. Each tracker meets its entries in an order of its own. -/
def react (orders : Nat → VisitOrder Tracker.Entry) (others : Bystander X W) :
    Reactor (Party X) (Hall W)
  | tracker i, e, w, m =>
    match w.trackers[i]? with
    | some t =>
      let r := t.handle (orders i) e m
      { world := { w with trackers := w.trackers.set i r.world }
        metrics := r.metrics
        offers := r.offers }
    | none => { world := w, metrics := m }
  | outbox i, e, w, m =>
    { world := { w with outboxes := w.outboxes.modify i fun o => o.handle e }, metrics := m }
  | other x, e, w, m =>
    let r := others x e w m
    { world := r.1, metrics := r.2.1, panicked := r.2.2 }

def answers : Party X → Event → Bool
  | tracker _, .attemptedCancel _ => true
  | _, _ => false

/-- Whoever offers anything is a tracker, and offers one cancellation. -/
theorem react_offers (orders : Nat → VisitOrder Tracker.Entry) (others : Bystander X W)
    (p : Party X) (e : Event) (w : Hall W) (m : Metrics) :
    (react orders others p e w m).offers = [] ∨
      answers p e = true ∧ ∃ key, (react orders others p e w m).offers = [.orderCanceled key] := by
  cases p with
  | tracker i =>
    cases ht : w.trackers[i]? with
    | none => exact .inl (by simp only [react, ht])
    | some t =>
      simp only [react, ht]
      rcases t.handle_offers (orders i) e m with hnone | ⟨id, key, rfl, hone⟩
      · exact .inl hnone
      · exact .inr ⟨rfl, key, hone⟩
  | outbox i => exact .inl rfl
  | other x => exact .inl rfl

/-- Nobody answers a cancellation, so answers come to an end. -/
theorem react_answers (orders : Nat → VisitOrder Tracker.Entry) (others : Bystander X W) :
    (react orders others).Answers answers .orderCanceled where
  single := by
    intro p e w m
    rcases react_offers orders others p e w m with hnone | ⟨-, key, hone⟩
    · rw [hnone]
      exact Nat.zero_le 1
    · rw [hone]
      exact Nat.le_refl 1
  kind := by
    intro p e w m e' he'
    rcases react_offers orders others p e w m with hnone | ⟨-, key, hone⟩
    · rw [hnone] at he'
      cases he'
    · rw [hone] at he'
      rw [List.mem_singleton.mp he']
      rfl
  silent := by
    intro p e w m hsilent
    rcases react_offers orders others p e w m with hnone | ⟨hanswers, -⟩
    · exact hnone
    · rw [hsilent] at hanswers
      cases hanswers
  final := by
    intro p e he
    cases p with
    | tracker i =>
      cases e with
      | attemptedCancel id => cases he
      | _ => rfl
    | _ => rfl

def attempts (b : Bus (Party X)) : Nat := b.answerable answers

/-- Whatever state a bus is in, with any number of trackers and outboxes and others who publish
nothing, and in whatever order dispatchers run: they run out of work, and until then run no more
handlers than events wait, and for each attempted cancel that waits for a tracker one for each
subscription to cancellations. -/
theorem no_feedback_loop (orders : Nat → VisitOrder Tracker.Entry) (others : Bystander X W)
    (h : Hub (Party X) (Hall W)) :
    Hub.Quiets (react orders others) h
      (h.bus.pending + attempts h.bus * h.bus.audience .orderCanceled) :=
  Hub.quiets_of_answers (react_answers orders others) h

/-- Two trackers that know the same order, one of which knows another besides, and two outboxes. -/
def rivals : Hall Unit where
  trackers := [((Tracker.new ⟨0⟩).track "A" ⟨1, 2, 7⟩).track "B" ⟨1, 2, 8⟩,
    (Tracker.new ⟨0⟩).track "C" ⟨1, 2, 7⟩]
  outboxes := [.new 1, .new 3]
  rest := ()

/-- A hub where all that trackers know is given up, and both outboxes hear of it. -/
def rivalry : Hub (Party Empty) (Hall Unit) where
  bus :=
    { capacity := 3
      capacity_pos := by decide
      subscriptions :=
        [{ kind := .attemptedCancel
           handler := tracker 0
           queue := [.attemptedCancel 7, .attemptedCancel 8] },
          { kind := .orderCanceled, handler := outbox 0 },
          { kind := .attemptedCancel, handler := tracker 1, queue := [.attemptedCancel 7] },
          { kind := .orderCanceled, handler := outbox 1 }] }
  world := rivals

/-- Three attempted cancels and two subscriptions to cancellations make for nine deliveries at most,
and there may be as many. -/
theorem rivalry_quiets :
    let react := react (fun _ => .asKept) (nofun : Bystander Empty Unit)
    let steps : List (Hub.Action (Party Empty)) := [0, 2, 1, 0, 3, 3, 3, 1, 1].map .dispatch
    Hub.Quiets react rivalry 9 ∧ Hub.Works react rivalry steps ∧ steps.length = 9 ∧
      (rivalry.run react steps).1.bus.pending = 0 := by
  have hmain := no_feedback_loop (fun _ => .asKept) (nofun : Bystander Empty Unit) rivalry
  refine ⟨hmain, ?_, rfl, by decide⟩
  simp only [List.map_cons, List.map_nil, Hub.Works, Hub.Busy]
  decide

end Party

end VenueGateway
