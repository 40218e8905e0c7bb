import Mathlib.Logic.Relation
import VenueGateway.Proofs.Json.Wire

/-!
What a reader does not look at. A shape tells how a reader goes into a value; an edit changes a
value where the reader does not look, or where it takes a missing field and a null for the same.
Readers of records are shown to be tolerant field by field.
-/

namespace VenueGateway.Json

inductive Shape where
  /-- It takes the value as a whole. -/
  | whole
  /-- It looks for some members of an object, and into each of them. -/
  | record (fields : List (String × Shape))
  /-- It looks into each item of an array. -/
  | list (item : Shape)

namespace Shape

/-- The shape of a record of which no field is gone into. -/
def flat (names : List String) : Shape := .record (names.map fun name => (name, whole))

def isWhole : Shape → Bool
  | whole => true
  | _ => false

end Shape

/-- A change of a value that a reader of the shape should not mind. -/
inductive Edit : Shape → Value → Value → Prop
  /-- Members are put in another order. -/
  | permute {fs : List (String × Shape)} {ms ms' : List Member} (h : ms.Perm ms') :
      Edit (.record fs) (.object ms) (.object ms')
  /-- A member is inserted that the reader does not look for, whatever its value. -/
  | unknown {fs : List (String × Shape)} {l r : List Member} {key : String} {v : Value}
      (h : fs.lookup key = none) :
      Edit (.record fs) (.object (l ++ r)) (.object (l ++ (some key, v) :: r))
  /-- A member that is absent is given as null. -/
  | null {fs : List (String × Shape)} {l r : List Member} {name : String} (h : ∀ m ∈ l ++ r,
      m.1 ≠ some name) :
      Edit (.record fs) (.object (l ++ r)) (.object (l ++ (some name, .null) :: r))
  /-- A member that the reader goes into is edited. -/
  | member {fs : List (String × Shape)} {l r : List Member} {name : String} {shape : Shape}
      {v v' : Value}
      (hshape : fs.lookup name = some shape) (h : Edit shape v v') :
      Edit (.record fs) (.object (l ++ (some name, v) :: r)) (.object (l ++ (some name, v') :: r))
  /-- An item of a list is edited. -/
  | item {shape : Shape} {l r : List Value} {v v' : Value} (h : Edit shape v v') :
      Edit (.list shape) (.array (l ++ v :: r)) (.array (l ++ v' :: r))

inductive FieldEdit (shape : Shape) : Option Value → Option Value → Prop
  | same (o : Option Value) : FieldEdit shape o o
  | null : FieldEdit shape none (some .null)
  | inside {v v' : Value} (h : Edit shape v v') : FieldEdit shape (some v) (some v')

def RecordEdit (fs : List (String × Shape)) (r r' : Record) : Prop :=
  ∀ name shape, fs.lookup name = some shape → FieldEdit shape (r name) (r' name)

namespace Value

section Members

variable {l r : List Member} {name : String} {names : List String}

theorem member?_append (l r : List Member) (name : String) :
    member? (l ++ r) name = (member? l name).or (member? r name) := by
  simp [member?, List.find?_append, Option.map_or]

theorem member?_cons_self (name : String) (v : Value) (r : List Member) :
    member? ((some name, v) :: r) name = some v := by
  simp [member?]

theorem member?_cons_ne {key : String} (h : key ≠ name) (v : Value) (r : List Member) :
    member? ((some key, v) :: r) name = member? r name := by
  simp [member?, h]

theorem member?_eq_none (h : ∀ m ∈ l, m.1 ≠ some name) : member? l name = none := by
  simpa [member?] using h

theorem countP_le_one_of_wellKeyed {ms : List Member} (h : wellKeyed names ms = true)
    (hname : name ∈ names) :
    ms.countP (fun m => m.1 == some name) ≤ 1 :=
  of_decide_eq_true (List.all_eq_true.mp (Bool.and_eq_true_iff.mp h).2 name hname)

/-- Keys are well whatever stands behind them. -/
theorem wellKeyed_congr {ms ms' : List Member} (h : ms.map Prod.fst = ms'.map Prod.fst) :
    wellKeyed names ms = wellKeyed names ms' := by
  have hall : ∀ ms : List Member, ms.all (·.1.isSome) = (ms.map Prod.fst).all (·.isSome) := by
    intro ms
    rw [List.all_map]
    rfl
  have hcount : ∀ (ms : List Member) (name : String),
      ms.countP (fun m => m.1 == some name) = (ms.map Prod.fst).countP (· == some name) := by
    intro ms name
    rw [List.countP_map]
    rfl
  rw [wellKeyed, wellKeyed]
  simp only [hall, hcount, h]

/-- A key may come in that is not looked for, or that is not there yet. -/
theorem wellKeyed_insert {key : String} (v : Value)
    (h : key ∉ names ∨ ∀ m ∈ l ++ r, m.1 ≠ some key) :
    wellKeyed names (l ++ (some key, v) :: r) = wellKeyed names (l ++ r) := by
  have hcount : ∀ name ∈ names, (l ++ (some key, v) :: r).countP (fun m => m.1 == some name) ≤ 1 ↔
      (l ++ r).countP (fun m => m.1 == some name) ≤ 1 := by
    intro name hname
    rw [List.perm_middle.countP_eq, List.countP_cons]
    by_cases hkey : key = name
    · subst hkey
      have hnone : (l ++ r).countP (fun m => m.1 == some key) = 0 := by
        rw [List.countP_eq_zero]
        exact fun m hm => by simpa using h.resolve_left (not_not_intro hname) m hm
      simp [hnone]
    · simp [hkey]
  have hall :
      names.all (fun name => (l ++ (some key, v) :: r).countP (fun m => m.1 == some name) ≤ 1) =
      names.all fun name => (l ++ r).countP (fun m => m.1 == some name) ≤ 1 := by
    rw [Bool.eq_iff_iff, List.all_eq_true, List.all_eq_true]
    exact forall₂_congr fun name hname => by
      rw [decide_eq_true_iff, decide_eq_true_iff, hcount name hname]
  rw [wellKeyed, wellKeyed, hall]
  simp

end Members

section Records

variable {fs : List (String × Shape)}

theorem rel_record? {names : List String} {ms ms' : List Member}
    (hwell : wellKeyed names ms = wellKeyed names ms')
    (h : wellKeyed names ms = true → RecordEdit fs (member? ms) (member? ms')) :
    Option.Rel (RecordEdit fs) ((object ms).record? names) ((object ms').record? names) := by
  rw [record?, record?, ← hwell]
  split
  · next hkeys => exact .some (h hkeys)
  · exact .none

theorem mem_names_of_lookup {name : String} {shape : Shape} (h : fs.lookup name = some shape) :
    name ∈ fs.map Prod.fst := by
  obtain ⟨l, r, rfl, -⟩ := List.lookup_eq_some_iff.mp h
  simp

/-- An edit of a record is one of its fields, at most. -/
theorem record?_edit {v v' : Value} (h : Edit (.record fs) v v') :
    Option.Rel (RecordEdit fs) (v.record? (fs.map Prod.fst)) (v'.record? (fs.map Prod.fst)) := by
  cases h with
  | permute hperm =>
    refine rel_record? (wellKeyed_perm hperm _) fun hwell name shape hshape => ?_
    rw [member?_perm hperm (countP_le_one_of_wellKeyed hwell (mem_names_of_lookup hshape))]
    exact .same _
  | @unknown _ l r key w hkey =>
    have hnot : key ∉ fs.map Prod.fst := by
      rintro hmem
      obtain ⟨f, hf, rfl⟩ := List.mem_map.mp hmem
      simpa using List.lookup_eq_none_iff.mp hkey f hf
    refine rel_record? (wellKeyed_insert w (.inl hnot)).symm fun _ name shape hshape => ?_
    have hne : key ≠ name := by
      rintro rfl
      rw [hkey] at hshape
      cases hshape
    rw [member?_append, member?_append, member?_cons_ne hne]
    exact .same _
  | @null _ l r key habsent =>
    refine rel_record? (wellKeyed_insert .null (.inr habsent)).symm fun _ name shape hshape => ?_
    rw [member?_append, member?_append]
    by_cases hne : key = name
    · subst hne
      have hl := member?_eq_none fun m hm => habsent m (List.mem_append_left r hm)
      have hr := member?_eq_none fun m hm => habsent m (List.mem_append_right l hm)
      rw [member?_cons_self, hl, hr]
      exact .null
    · rw [member?_cons_ne hne]
      exact .same _
  | @member _ l r key shape' w w' hkey h =>
    refine rel_record? (wellKeyed_congr (by simp)) fun _ name shape hshape => ?_
    rw [member?_append, member?_append]
    by_cases hne : key = name
    · subst hne
      obtain rfl : shape' = shape := Option.some.inj (hkey.symm.trans hshape)
      rw [member?_cons_self, member?_cons_self]
      -- A key that is repeated is found where it stands first.
      cases member? l key with
      | none => exact .inside h
      | some first => exact .same _
    · rw [member?_cons_ne hne, member?_cons_ne hne]
      exact .same _

end Records

end Value

def Tolerant {α : Type} (shape : Shape) (read : Value → Option α) : Prop :=
  ∀ v v', Edit shape v v' → read v = read v'

namespace Tolerant

variable {α : Type} {shape : Shape} {read : Value → Option α} {o o' : Option Value}

theorem edits (h : Tolerant shape read) {v v' : Value} (hv : Relation.EqvGen (Edit shape) v v') :
    read v = read v' := by
  induction hv with
  | rel v v' hv => exact h v v' hv
  | refl => rfl
  | symm _ _ _ ih => exact ih.symm
  | trans _ _ _ _ _ ih ih' => exact ih.trans ih'

theorem whole (read : Value → Option α) : Tolerant .whole read := nofun

/-- A reader of records is tolerant if it is tolerant of edits of its fields. -/
theorem record {fs : List (String × Shape)} {body : Record → Option α}
    (hread : ∀ v, read v = (v.record? (fs.map Prod.fst)).bind body)
    (hbody : ∀ r r', RecordEdit fs r r' → body r = body r') : Tolerant (.record fs) read := by
  intro v v' h
  have hrel := Value.record?_edit h
  rw [hread, hread]
  generalize v.record? (fs.map Prod.fst) = r, v'.record? (fs.map Prod.fst) = r' at hrel
  cases hrel with
  | some hr => exact hbody _ _ hr
  | none => rfl

theorem list (h : Tolerant shape read) : Tolerant (.list shape) (Value.list? read) := by
  intro v v' hv
  cases hv with
  | item hitem => simp only [Value.list?, List.mapM_append, List.mapM_cons, h _ _ hitem]

/-- An edit goes into a value, so there is no null on either side. -/
theorem nullable (h : Tolerant shape read) : Tolerant shape (Value.nullable? read) := by
  intro v v' hv
  have hsame := h v v' hv
  cases hv <;> simp only [Value.nullable?, hsame]

theorem lenient (h : Tolerant shape read) (default : α) (ho : FieldEdit shape o o') :
    Field.lenient read default o = Field.lenient read default o' := by
  cases ho with
  | same => rfl
  | null => rfl
  | inside hv => simp only [Field.lenient, h.nullable _ _ hv]

theorem optional (h : Tolerant shape read) (ho : FieldEdit shape o o') :
    Field.optional (Value.nullable? read) none o =
      Field.optional (Value.nullable? read) none o' := by
  cases ho with
  | same => rfl
  | null => rfl
  | inside hv => exact h.nullable _ _ hv

end Tolerant

/-- A field that is taken as a whole may be left out or null. -/
theorem RecordEdit.lenient {α : Type} {fs : List (String × Shape)} {r r' : Record}
    (h : RecordEdit fs r r') {name : String} (hname : (fs.lookup name).any Shape.isWhole = true)
    (read : Value → Option α) (default : α) :
    Field.lenient read default (r name) = Field.lenient read default (r' name) := by
  obtain ⟨shape, hshape, hwhole⟩ := (Option.any_eq_true _ _).mp hname
  cases shape with
  | whole => exact (Tolerant.whole read).lenient default (h name _ hshape)
  | _ => cases hwhole

end VenueGateway.Json
