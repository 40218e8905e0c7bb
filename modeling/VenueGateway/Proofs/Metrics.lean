import Mathlib.Algebra.BigOperators.Group.List.Basic
import Mathlib.Algebra.Order.BigOperators.Ring.List
import VenueGateway.Metrics
import VenueGateway.Proofs.Assoc

/-!
Counters that are read together, such as all that count one kind of frame, each for an operation of
its own. Counting something adds to their sum what it adds to one of them, whether or not that one
has counted anything before.
-/

namespace VenueGateway.Metrics

/-- What the counters of a kind have reached in all. -/
def total (p : Counter → Bool) (m : Metrics) : Nat := ((m.counters.keys.filter p).map m.count).sum

theorem count_of_not_contains {m : Metrics} {c : Counter} (h : m.counters.contains c = false) :
    m.count c = 0 := by
  rw [Assoc.contains_eq_isSome] at h
  rw [count, Option.not_isSome_iff_eq_none.mp (Bool.eq_false_iff.mp h), Option.getD_none]

/-- Among keys of which no two are the same, one is met once or not at all. -/
theorem sum_ite_eq {c : Counter} {n : Nat} {cs : List Counter} (hn : cs.Nodup) :
    (cs.map fun d => if c = d then n else 0).sum = if c ∈ cs then n else 0 := by
  induction cs with
  | nil => rfl
  | cons d cs ih =>
    obtain ⟨hd, hn⟩ := List.nodup_cons.mp hn
    rw [List.map_cons, List.sum_cons, ih hn]
    by_cases hcd : c = d
    · subst hcd
      simp [hd]
    · simp [hcd]

/-- A total grows with the counters of its kind. -/
theorem total_add (p : Counter → Bool) (m : Metrics) (c : Counter) (n : Nat) :
    (m.add c n).total p = m.total p + if p c then n else 0 := by
  have hcount : (m.add c n).count = fun d => m.count d + if c = d then n else 0 := by
    funext d
    rw [count_add]
    split
    · next hcd => rw [hcd]
    · rfl
  have hkeys : (m.add c n).counters.keys = m.counters.keys ++ if m.counters.contains c then []
      else [c] :=
    Assoc.keys_insert ..
  rw [total, total, hcount, hkeys]
  have hnodup := m.counters.nodup_keys.filter p
  cases hc : m.counters.contains c with
  | true =>
    have hmem : c ∈ m.counters.keys.filter p ↔ p c = true := by
      simp [List.mem_filter, Assoc.mem_keys_iff, hc]
    simp only [if_true, List.append_nil, List.sum_map_add, sum_ite_eq hnodup, hmem]
  | false =>
    have hnot : c ∉ m.counters.keys := by simp [Assoc.mem_keys_iff, hc]
    have hnone : ¬ c ∈ m.counters.keys.filter p := fun h => hnot (List.mem_filter.mp h).1
    have hfirst := count_of_not_contains hc
    simp only [Bool.false_eq_true, if_false, List.filter_append, List.map_append, List.sum_append,
      List.sum_map_add, sum_ite_eq hnodup, if_neg hnone, Nat.add_zero]
    cases hp : p c <;> simp [hp, hfirst]

end VenueGateway.Metrics
