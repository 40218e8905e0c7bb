/-!
Finite maps as lists of entries, of which no two have the same key. Inserting under a known key
replaces its value in place, and a new key goes to the end. The laws of `get?` say what every
operation does.
-/

namespace VenueGateway

/-- A finite map. -/
structure Assoc (κ ν : Type) where
  entries : List (κ × ν)
  nodup : (entries.map Prod.fst).Nodup
  deriving Repr

namespace Assoc

variable {κ ν : Type}

def empty : Assoc κ ν := ⟨[], by simp⟩

instance : Inhabited (Assoc κ ν) := ⟨empty⟩

instance [DecidableEq κ] [DecidableEq ν] : DecidableEq (Assoc κ ν) := fun m n =>
  decidable_of_iff (m.entries = n.entries) ⟨fun h => by cases m; cases n; simp_all,
    fun h => by rw [h]⟩

def size (m : Assoc κ ν) : Nat := m.entries.length

/-- The keys in the order of the entries. -/
def keys (m : Assoc κ ν) : List κ := m.entries.map Prod.fst

variable [DecidableEq κ]

def get? (m : Assoc κ ν) (k : κ) : Option ν := (m.entries.find? fun e => e.1 = k).map Prod.snd

def contains (m : Assoc κ ν) (k : κ) : Bool := m.entries.any fun e => e.1 = k

/-- Puts a value under a key, in place of its value before. -/
def insert (m : Assoc κ ν) (k : κ) (v : ν) : Assoc κ ν :=
  if h : m.contains k then
    ⟨m.entries.map fun e => if e.1 = k then (k, v) else e, by
      have : (m.entries.map fun e => if e.1 = k then (k, v) else e).map Prod.fst =
          m.entries.map Prod.fst := by
        simp only [List.map_map, List.map_inj_left, Function.comp_apply]
        intro e _
        split <;> simp_all
      rw [this]
      exact m.nodup⟩
  else
    ⟨m.entries ++ [(k, v)], by
      simp only [List.map_append, List.map_cons, List.map_nil]
      refine List.nodup_append.2 ⟨m.nodup, by simp, ?_⟩
      simp only [contains, List.any_eq_true, decide_eq_true_eq, not_exists, not_and] at h
      simp only [List.mem_map, List.mem_singleton]
      rintro a ⟨e, he, rfl⟩ b rfl
      exact h e he⟩

/-- Takes away the entry under a key. -/
def erase (m : Assoc κ ν) (k : κ) : Assoc κ ν :=
  ⟨m.entries.filter fun e => e.1 ≠ k, (List.filter_sublist.map Prod.fst).nodup m.nodup⟩

def insertAll (m : Assoc κ ν) (es : List (κ × ν)) : Assoc κ ν :=
  es.foldl (fun m e => m.insert e.1 e.2) m

/-- The map of a list of entries, of which the last under a key counts. -/
def ofList (es : List (κ × ν)) : Assoc κ ν := empty.insertAll es

@[simp] theorem get?_empty (k : κ) : (empty : Assoc κ ν).get? k = none := by simp [get?, empty]

theorem contains_iff {m : Assoc κ ν} {k : κ} : m.contains k = true ↔ ∃ v, (k, v) ∈ m.entries := by
  simp [contains]

/-- What is found under a key is an entry, since no key has two. -/
theorem get?_eq_some_iff {m : Assoc κ ν} {k : κ} {v : ν} :
    m.get? k = some v ↔ (k, v) ∈ m.entries := by
  obtain ⟨es, h⟩ := m
  simp only [get?]
  induction es with
  | nil => simp
  | cons e es ih =>
    simp only [List.map_cons, List.nodup_cons, List.mem_map, not_exists, not_and] at h
    by_cases hk : e.1 = k
    · obtain ⟨a, b⟩ := e
      simp only at hk
      subst hk
      have : (a, v) ∉ es := fun hm => h.1 _ hm rfl
      simp [this, eq_comm]
    · simp only [List.find?_cons, hk, decide_false, List.mem_cons]
      rw [ih h.2]
      refine ⟨Or.inr, fun hm => hm.resolve_left fun he => hk (by rw [← he])⟩

theorem contains_eq_isSome (m : Assoc κ ν) (k : κ) : m.contains k = (m.get? k).isSome := by
  rw [Bool.eq_iff_iff, contains_iff, Option.isSome_iff_exists]
  simp [get?_eq_some_iff]

/-- An insertion changes what is found under its own key and under no other. -/
theorem get?_insert (m : Assoc κ ν) (k k' : κ) (v : ν) :
    (m.insert k v).get? k' = if k = k' then some v else m.get? k' := by
  apply Option.ext
  intro w
  rw [get?_eq_some_iff]
  by_cases h : m.contains k
  · simp only [insert, h, dif_pos, List.mem_map]
    split
    · next hk =>
      subst hk
      obtain ⟨u, hu⟩ := contains_iff.1 h
      constructor
      · rintro ⟨e, _, he⟩
        split at he
        · simp_all
        · next hne => exact absurd (by rw [he]) hne
      · intro hw
        exact ⟨_, hu, by simp_all⟩
    · next hk =>
      rw [get?_eq_some_iff]
      constructor
      · rintro ⟨e, he, h'⟩
        split at h'
        · simp_all
        · exact h' ▸ he
      · intro hw
        exact ⟨_, hw, by simp [Ne.symm hk]⟩
  · simp only [insert, h, dif_neg, not_false_eq_true, List.mem_append, List.mem_singleton,
      Bool.false_eq_true]
    split
    · next hk =>
      subst hk
      have : ∀ u, (k, u) ∉ m.entries := fun u hu => h (contains_iff.2 ⟨u, hu⟩)
      simp [this, eq_comm]
    · next hk =>
      rw [get?_eq_some_iff]
      simp [Ne.symm hk]

theorem get?_erase (m : Assoc κ ν) (k k' : κ) :
    (m.erase k).get? k' = if k = k' then none else m.get? k' := by
  apply Option.ext
  intro w
  rw [get?_eq_some_iff]
  simp only [erase, List.mem_filter, decide_not, Bool.not_eq_eq_eq_not, Bool.not_true,
    decide_eq_false_iff_not]
  split
  · next hk => simp [hk]
  · next hk => simp [get?_eq_some_iff, Ne.symm hk]

@[simp] theorem get?_insert_self (m : Assoc κ ν) (k : κ) (v : ν) :
    (m.insert k v).get? k = some v := by
  simp [get?_insert]
@[simp] theorem get?_erase_self (m : Assoc κ ν) (k : κ) :
    (m.erase k).get? k = none := by simp [get?_erase]

end Assoc

/-- A way to walk through the entries of a map: every entry is met once, in whatever order. -/
structure VisitOrder (α : Type) where
  arrange : List α → List α
  perm : ∀ l, (arrange l).Perm l

namespace VisitOrder

/-- The order in which entries are kept. -/
def asKept {α : Type} : VisitOrder α := ⟨id, fun _ => .refl _⟩

instance {α : Type} : Inhabited (VisitOrder α) := ⟨asKept⟩

theorem mem_arrange {α : Type} (o : VisitOrder α) (l : List α) (a : α) : a ∈ o.arrange l ↔ a ∈ l :=
  (o.perm l).mem_iff

end VisitOrder

end VenueGateway
