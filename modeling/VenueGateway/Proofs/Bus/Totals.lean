import Mathlib.Algebra.BigOperators.Group.List.Basic
import Mathlib.Algebra.Order.BigOperators.Ring.List
import Mathlib.Data.List.Perm.Basic
import VenueGateway.Proofs.Bus.Share

/-!
Sums over the subscriptions of a bus, those that have ended included. An offer and a dispatcher at
work change one subscription, so they change a sum by what that one contributes; a publication
changes it by what each subscription contributes on its own. The number of events that wait is such
a sum, and so is the number of subscriptions to a kind.
-/

namespace VenueGateway

/-- A sum where one element of a list is replaced by another. -/
theorem sum_set_add {α : Type} (f : α → Nat) {l : List α} {i : Nat} {a : α} (h : l[i]? = some a)
    (a' : α) :
    ((l.set i a').map f).sum + f a = (l.map f).sum + f a' := by
  obtain ⟨hlt, rfl⟩ := List.getElem?_eq_some_iff.mp h
  have hbefore := ((List.getElem_cons_eraseIdx_perm hlt).map f).sum_nat
  have hafter := ((List.set_perm_cons_eraseIdx hlt a').map f).sum_nat
  rw [List.map_cons, List.sum_cons] at hbefore hafter
  omega

/-- A sum where one element of a list is taken out. -/
theorem sum_eraseIdx_add {α : Type} (f : α → Nat) {l : List α} {i : Nat} {a : α}
    (h : l[i]? = some a) :
    ((l.eraseIdx i).map f).sum + f a = (l.map f).sum := by
  obtain ⟨hlt, rfl⟩ := List.getElem?_eq_some_iff.mp h
  have hparted := ((List.getElem_cons_eraseIdx_perm hlt).map f).sum_nat
  rw [List.map_cons, List.sum_cons] at hparted
  omega

namespace Bus

variable {H : Type} {b : Bus H}

def total (f : Subscription H → Nat) (b : Bus H) : Nat := (b.subscriptions.map f).sum

theorem pending_eq_total (b : Bus H) : b.pending = b.total fun s => s.queue.length := by
  have hall : ∀ l : List (Subscription H),
      l.foldr (fun s n => s.queue.length + n) 0 = (l.map fun s => s.queue.length).sum := by
    intro l
    induction l with
    | nil => rfl
    | cons s l ih => rw [List.foldr_cons, ih, List.map_cons, List.sum_cons]
  exact hall b.subscriptions

theorem total_set (f : Subscription H → Nat) {i : Nat} {s : Subscription H}
    (h : b.subscriptions[i]? = some s) (s' : Subscription H) :
    ({ b with subscriptions := b.subscriptions.set i s' } : Bus H).total f + f s =
      b.total f + f s' :=
  sum_set_add f h s'

/-- Where all queues are empty, nothing waits. -/
theorem pending_eq_zero (h : ∀ i, b.queue i = []) : b.pending = 0 := by
  rw [pending_eq_total]
  refine List.sum_eq_zero fun n hn => ?_
  obtain ⟨s, hs, rfl⟩ := List.mem_map.mp hn
  obtain ⟨i, hi⟩ := List.mem_iff_getElem?.mp hs
  have hempty := h i
  rw [queue, hi] at hempty
  simpa using hempty

/-- A new subscription has nothing in its queue. -/
theorem pending_subscribe (b : Bus H) (kind : EventKind) (handler : H) :
    (b.subscribe kind handler).1.pending = b.pending := by
  simp [pending, subscribe]

/-- What a subscription that ends has in its queue stays there. -/
theorem pending_unsubscribe (b : Bus H) (i : Nat) : (b.unsubscribe i).1.pending = b.pending := by
  unfold unsubscribe
  split
  · next s hs =>
    split
    · have htotal := total_set (fun s => s.queue.length) hs { s with subscribed := false }
      rw [pending_eq_total, pending_eq_total]
      exact Nat.add_right_cancel htotal
    · rfl
  · rfl

/-- An event that is taken no longer waits. -/
theorem pending_take? {i : Nat} {handler : H} {e : Event} {b' : Bus H}
    (ht : b.take? i = some (handler, e, b')) :
    b.pending = b'.pending + 1 := by
  obtain ⟨s, rest, hs, -, -, hq, rfl⟩ := take?_eq_some ht
  have htotal := total_set (fun s => s.queue.length) hs { s with queue := rest }
  rw [← pending_eq_total, ← pending_eq_total] at htotal
  simp only [hq, List.length_cons] at htotal
  omega

/-- An event that is accepted waits. -/
theorem pending_offer (b : Bus H) (i : Nat) (e : Event) :
    (b.offer i e).1.pending = b.pending + if (b.offer i e).2 = .accepted then 1 else 0 := by
  cases hs : b.subscriptions[i]? with
  | none => simp [offer, hs]
  | some s =>
    have htotal := total_set (fun s => s.queue.length) hs (s.offer b.capacity e).1
    rw [← pending_eq_total, ← pending_eq_total] at htotal
    have hoffer : b.offer i e =
        ({ b with subscriptions := b.subscriptions.set i (s.offer b.capacity e).1 },
          (s.offer b.capacity e).2) := by
      simp only [offer, hs]
    rw [hoffer]
    have hlength : (s.offer b.capacity e).1.queue.length =
        s.queue.length + if (s.offer b.capacity e).2 = .accepted then 1 else 0 := by
      rw [Subscription.offer]
      split
      · split <;> simp
      · simp
    rw [hlength] at htotal
    change Bus.pending { b with subscriptions := b.subscriptions.set i (s.offer b.capacity e).1 } =
      b.pending + if (s.offer b.capacity e).2 = .accepted then 1 else 0
    omega

/-- As many events wait more as queues accepted. -/
theorem pending_offerAll (b : Bus H) (e : Event) (is : List Nat) :
    (b.offerAll e is).1.pending = b.pending + (b.offerAll e is).2.1 := by
  induction is generalizing b with
  | nil => rfl
  | cons i is ih =>
    have hoffer := b.pending_offer i e
    have hrest := ih (b.offer i e).1
    simp only [offerAll]
    cases ho : (b.offer i e).2 with
    | accepted =>
      rw [ho, if_pos rfl] at hoffer
      simp only
      omega
    | full =>
      rw [ho, if_neg (by decide)] at hoffer
      simp only
      omega
    | closed =>
      rw [ho, if_neg (by decide)] at hoffer
      simp only
      omega

/-- What a publication that does not wait puts into queues waits there. -/
theorem pending_post (b : Bus H) (e : Event) : (b.post e).1.pending = b.pending + (b.post e).2.1 :=
  b.pending_offerAll e _

/-- Those to whom an event is offered are the subscriptions to its kind. -/
theorem length_recipients (b : Bus H) (kind : EventKind) :
    (b.recipients kind).length = b.audience kind := by
  have hall : (List.range b.subscriptions.length).map (fun i => b.subscriptions[i]?) =
      b.subscriptions.map some :=
    List.ext_getElem (by simp) (by simp)
  have hcount : (b.recipients kind).length =
      ((List.range b.subscriptions.length).map fun i => b.subscriptions[i]?).countP fun s =>
        s.any (·.wants kind) := by
    rw [recipients, ← List.countP_eq_length_filter, List.countP_map]
    rfl
  rw [hcount, hall, List.countP_map]
  rfl

end Bus

end VenueGateway
