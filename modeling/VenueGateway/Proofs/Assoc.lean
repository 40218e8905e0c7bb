import Mathlib.Data.List.Nodup
import Mathlib.Data.List.Perm.Subperm
import VenueGateway.Assoc

/-!
Which keys a map has after each operation, and which of them another map lacks. Keys are all
different, so taking an entry away parts one key from the others.
-/

namespace VenueGateway.Assoc

variable {κ ν : Type} {m : Assoc κ ν} {k : κ}

theorem nodup_keys (m : Assoc κ ν) : m.keys.Nodup := m.nodup

variable [DecidableEq κ]

theorem mem_keys_iff : k ∈ m.keys ↔ m.contains k = true := by
  rw [contains_iff, keys, List.mem_map]
  constructor
  · rintro ⟨e, he, rfl⟩
    exact ⟨e.2, he⟩
  · rintro ⟨v, hv⟩
    exact ⟨(k, v), hv, rfl⟩

theorem keys_insert (m : Assoc κ ν) (k : κ) (v : ν) :
    (m.insert k v).keys = m.keys ++ if m.contains k then [] else [k] := by
  by_cases h : m.contains k = true
  · have hmap : ∀ e ∈ m.entries, (if e.1 = k then (k, v) else e).1 = e.1 := by
      intro e _
      split
      · next he => exact he.symm
      · rfl
    simpa [insert, keys, h] using hmap
  · simp [insert, keys, h]

theorem keys_erase (m : Assoc κ ν) (k : κ) : (m.erase k).keys = m.keys.filter fun k' => k' ≠ k := by
  rw [keys, erase, keys, List.filter_map]
  rfl

theorem filter_keys_eq (h : m.contains k = true) : (m.keys.filter fun k' => k' = k) = [k] := by
  have hcount := List.count_eq_one_of_mem m.nodup_keys (mem_keys_iff.mpr h)
  rw [List.filter_eq, hcount]
  rfl

/-- No other entry stands under the key of one. -/
theorem filter_entries_eq {v : ν} (h : m.get? k = some v) :
    (m.entries.filter fun e => e.1 = k) = [(k, v)] := by
  have hv : (k, v) ∈ m.entries.filter fun e => e.1 = k := by simpa using get?_eq_some_iff.mp h
  have hkeys := filter_keys_eq (contains_iff.mpr ⟨v, get?_eq_some_iff.mp h⟩)
  rw [keys, List.filter_map] at hkeys
  obtain ⟨e, he, -⟩ := List.map_eq_singleton_iff.mp hkeys
  replace he : (m.entries.filter fun e => e.1 = k) = [e] := he
  rw [he] at hv ⊢
  rw [List.mem_singleton.mp hv]

/-- Putting a value where it stands already changes nothing. -/
theorem insert_of_get? {v : ν} (h : m.get? k = some v) : m.insert k v = m := by
  have hsame : ∀ e ∈ m.entries, (if e.1 = k then (k, v) else e) = e := by
    rintro ⟨k', v'⟩ he
    split
    · next hk =>
      obtain rfl : k' = k := hk
      rw [get?_eq_some_iff.mpr he] at h
      rw [Option.some.inj h]
    · rfl
  have hcontains : m.contains k = true := contains_iff.mpr ⟨v, get?_eq_some_iff.mp h⟩
  obtain ⟨entries, hnodup⟩ := m
  simp only [insert, hcontains, dif_pos, mk.injEq]
  exact (List.map_congr_left hsame).trans (List.map_id entries)

/-- Of the values that are put under a key the last one counts. -/
theorem get?_insertAll (m : Assoc κ ν) (es : List (κ × ν)) (k : κ) :
    (m.insertAll es).get? k = ((es.reverse.find? fun e => e.1 = k).map Prod.snd).or (m.get? k) := by
  induction es generalizing m with
  | nil => rfl
  | cons e es ih =>
    have hcons : m.insertAll (e :: es) = (m.insert e.1 e.2).insertAll es := rfl
    rw [hcons, ih, get?_insert, List.reverse_cons, List.find?_append]
    cases es.reverse.find? fun e => e.1 = k with
    | some e' => rfl
    | none => by_cases h : e.1 = k <;> simp [h]

/-- The keys of the map of a list are those of the list. -/
theorem mem_keys_ofList {es : List (κ × ν)} : k ∈ (ofList es).keys ↔ k ∈ es.map Prod.fst := by
  rw [mem_keys_iff, contains_eq_isSome, ofList, get?_insertAll, get?_empty, Option.or_none,
    Option.isSome_map, List.find?_isSome]
  simp

/-- Entries under new keys that are not repeated all stay as they are. -/
theorem entries_insertAll {es : List (κ × ν)} (hnodup : (m.keys ++ es.map Prod.fst).Nodup) :
    (m.insertAll es).entries = m.entries ++ es := by
  induction es generalizing m with
  | nil => simp [insertAll]
  | cons e es ih =>
    have hcons : m.insertAll (e :: es) = (m.insert e.1 e.2).insertAll es := rfl
    have hnew : m.contains e.1 = false := by
      rw [← Bool.not_eq_true, ← mem_keys_iff]
      exact fun hmem => List.disjoint_of_nodup_append hnodup hmem List.mem_cons_self
    have hkeys : (m.insert e.1 e.2).keys = m.keys ++ [e.1] := by rw [keys_insert, hnew]; rfl
    have hentries : (m.insert e.1 e.2).entries = m.entries ++ [e] := by simp [insert, hnew]
    rw [hcons, ih (by simpa [hkeys] using hnodup), hentries, List.append_assoc]
    rfl

/-- A map has as many entries as the list it is made of where the list repeats no key, and only
there. -/
theorem size_ofList_iff {es : List (κ × ν)} :
    (ofList es).size = es.length ↔ (es.map Prod.fst).Nodup := by
  constructor
  · intro hsize
    have hsub : (ofList es).keys ⊆ es.map Prod.fst := fun _ => mem_keys_ofList.mp
    have hlength : (es.map Prod.fst).length = (ofList es).keys.length := by
      rw [keys, List.length_map, List.length_map, ← hsize, size]
    have hperm := ((nodup_keys _).subperm hsub).perm_of_length_le (Nat.le_of_eq hlength)
    exact hperm.nodup_iff.mp (nodup_keys _)
  · intro hnodup
    rw [size, ofList, entries_insertAll (by simpa [empty, keys] using hnodup)]
    rfl

/-- Taking an entry away parts its key from the others. -/
theorem keys_erase_perm (h : m.contains k = true) : m.keys.Perm ((m.erase k).keys ++ [k]) := by
  have hparted := List.filter_append_perm (fun k' => decide (k' ≠ k)) m.keys
  simp only [decide_not, Bool.not_not] at hparted
  rw [filter_keys_eq h] at hparted
  rw [keys_erase]
  simpa using hparted.symm

def missing (m n : Assoc κ ν) : List κ := m.keys.filter fun k => !n.contains k

theorem mem_missing_iff {n : Assoc κ ν} :
    k ∈ m.missing n ↔ m.contains k = true ∧ n.contains k = false := by
  simp [missing, mem_keys_iff]

@[simp] theorem missing_self (m : Assoc κ ν) : m.missing m = [] := by
  refine List.filter_eq_nil_iff.mpr fun k hk => ?_
  simp [mem_keys_iff.mp hk]

theorem missing_erase (h : m.contains k = true) : m.missing (m.erase k) = [k] := by
  have hcontains : ∀ k' ∈ m.keys, (!(m.erase k).contains k') = decide (k' = k) := by
    intro k' hk'
    have hiff : (m.erase k).contains k' = true ↔ k' ≠ k := by
      rw [← mem_keys_iff, keys_erase, List.mem_filter]
      simp [hk']
    by_cases hk : k' = k <;> simp_all
  rw [missing, List.filter_congr hcontains, filter_keys_eq h]

end VenueGateway.Assoc
