import VenueGateway.Order.Command
import VenueGateway.Proofs.Json.Wire

/-!
Fields and their readers. An integer is written without point and exponent, and nought without a
sign. Fields that hold what is their default anyway may be left out of a record, and whoever reads
it finds the same fields.
-/

namespace VenueGateway

namespace Json

namespace Numeral

/-- An integer literal: digits, behind a minus sign at most. -/
def IsInteger (n : Numeral) (k : Int) : Prop :=
  n.fraction = [] ∧ n.exponent = none ∧ k = if n.negative then -(Text.value n.whole : Int)
    else Text.value n.whole

/-- Nought behind a minus sign. -/
def IsMinusZero (n : Numeral) : Prop := n.negative = true ∧ Text.value n.whole = 0

/-- A literal that is read as an integer. Nought with a sign is not, since no integer keeps the
sign. -/
def ReadsAs (n : Numeral) (k : Int) : Prop := n.IsInteger k ∧ ¬ n.IsMinusZero

/-- Reading an integer agrees with how integers are written, nought with a sign apart. -/
theorem integer?_eq_some_iff {n : Numeral} {k : Int} : n.integer? = some k ↔ n.ReadsAs k := by
  obtain ⟨negative, whole, fraction, exponent⟩ := n
  by_cases hplain : fraction = [] ∧ exponent = none
  · obtain ⟨rfl, rfl⟩ := hplain
    cases negative with
    | false => simp [integer?, ReadsAs, IsInteger, IsMinusZero, eq_comm]
    | true =>
      by_cases hzero : Text.value whole = 0
      · simp [integer?, ReadsAs, IsMinusZero, hzero]
      · simp [integer?, ReadsAs, IsInteger, IsMinusZero, hzero, eq_comm]
  · have hpoint : fraction ≠ [] ∨ exponent.isSome = true := by
      by_cases hfraction : fraction = []
      · exact .inr (Option.isSome_iff_ne_none.mpr fun hexponent => hplain ⟨hfraction, hexponent⟩)
      · exact .inl hfraction
    have hnot : ¬ ReadsAs ⟨negative, whole, fraction, exponent⟩ k :=
      fun h => hplain ⟨h.1.1, h.1.2.1⟩
    rw [integer?, if_pos hpoint]
    exact iff_of_false (Option.some_ne_none k).symm hnot

theorem readsAs_ofInt (k : Int) : (ofInt k).ReadsAs k := integer?_eq_some_iff.mp (integer?_ofInt k)

end Numeral

namespace Value

theorem text?_eq_some_iff {v : Value} {s : String} : v.text? = some s ↔ v = text s := by
  cases v <;> simp [text?, text]

theorem integer?_eq_some_iff {v : Value} {k : Int} :
    v.integer? = some k ↔ ∃ n, v = number n ∧ n.ReadsAs k := by
  cases v <;> simp [integer?, Numeral.integer?_eq_some_iff]

theorem int64?_eq_some_iff {v : Value} {i : Int64} :
    v.int64? = some i ↔ ∃ n, v = number n ∧ n.ReadsAs i.toInt := by
  rw [int64?, Option.bind_eq_some_iff, ← integer?_eq_some_iff]
  simp only [Text.int64OfInt?_eq_some_iff, exists_eq_right]

theorem member?_eq_none_iff {ms : List Member} {name : String} :
    member? ms name = none ↔ ∀ m ∈ ms, m.1 ≠ some name := by
  simp [member?]

section Slots

/-- The fields of a record that are given, of all that it may have. -/
def given (slots : List (String × Option Value)) : List (String × Value) :=
  slots.filterMap fun s => s.2.map (s.1, ·)

/-- What stands in a field that is left out when its text is empty. -/
def unlessEmpty (s : String) : Option Value := if s = "" then none else some (text s)

variable {slots : List (String × Option Value)}

@[simp] theorem given_nil : given [] = [] := rfl

@[simp] theorem given_none (name : String) (slots : List (String × Option Value)) :
    given ((name, none) :: slots) = given slots := rfl

@[simp] theorem given_some (name : String) (v : Value) (slots : List (String × Option Value)) :
    given ((name, some v) :: slots) = (name, v) :: given slots := rfl

theorem given_unlessEmpty (name s : String) (slots : List (String × Option Value)) :
    given ((name, unlessEmpty s) :: slots) = textUnlessEmpty name s ++ given slots := by
  by_cases h : s = "" <;> simp [given, unlessEmpty, textUnlessEmpty, h]

theorem names_given (slots : List (String × Option Value)) :
    ((given slots).map Prod.fst).Sublist (slots.map Prod.fst) := by
  induction slots with
  | nil => exact .slnil
  | cons s slots ih =>
    obtain ⟨name, v⟩ := s
    cases v with
    | none => exact ih.cons name
    | some v => exact ih.cons_cons name

/-- Of a record with names of its own, a name finds what is given under it. -/
theorem lookup_given (hnames : (slots.map Prod.fst).Nodup) (name : String) :
    (given slots).lookup name = (slots.lookup name).join := by
  induction slots with
  | nil => rfl
  | cons s slots ih =>
    obtain ⟨key, v⟩ := s
    obtain ⟨hkey, hrest⟩ := List.nodup_cons.mp hnames
    have habsent : slots.lookup key = none := by
      refine List.lookup_eq_none_iff.mpr fun s hs => bne_iff_ne.mpr ?_
      rintro rfl
      exact hkey (List.mem_map.mpr ⟨s, hs, rfl⟩)
    by_cases h : name = key
    · subst h
      cases v <;> simp [ih hrest, habsent]
    · have hother : (name == key) = false := beq_false_of_ne h
      cases v <;> simp [ih hrest, List.lookup_cons, hother]

/-- A record is found again with the fields that it leaves out. -/
theorem record?_given (hnames : (slots.map Prod.fst).Nodup) (names : List String) :
    (fields (given slots)).record? names = some fun name => (slots.lookup name).join := by
  rw [record?_fields ((names_given slots).nodup hnames)]
  exact congrArg some (funext (lookup_given hnames))

/-- What stands in a field can be written, if anything does. -/
def WellGiven (o : Option Value) : Prop := ∀ v ∈ o, v.WellFormed

@[simp] theorem wellGiven_none : WellGiven none := nofun

@[simp] theorem wellGiven_some {v : Value} :
    WellGiven (some v) ↔ v.WellFormed := by simp [WellGiven]

@[simp] theorem wellGiven_unlessEmpty (s : String) : WellGiven (unlessEmpty s) := by
  by_cases h : s = "" <;> simp [unlessEmpty, h, wellFormed_text]

theorem wellFormed_given (h : ∀ s ∈ slots, WellGiven s.2) : (fields (given slots)).WellFormed := by
  refine wellFormed_fields fun f hf => ?_
  obtain ⟨s, hs, hgiven⟩ := List.mem_filterMap.mp hf
  obtain ⟨v, hv, rfl⟩ := Option.map_eq_some_iff.mp hgiven
  exact h s hs v hv

@[simp] theorem optional_some {α : Type} (read : Value → Option α) (default : α) (v : Value) :
    Field.optional read default (some v) = read v := rfl

@[simp] theorem optional_unlessEmpty (s : String) :
    Field.optional text? "" (unlessEmpty s) = some s := by
  by_cases h : s = "" <;> simp [unlessEmpty, Field.optional, h]

end Slots

section Lists

def texts (ss : List String) : Value := array (ss.map text)

theorem wellFormed_texts (ss : List String) : (texts ss).WellFormed := by
  have hmore : ∀ n, .number n ∉ moreItems (ss.map text) := by
    intro n
    induction ss with
    | nil => simp [moreItems]
    | cons s ss ih => simpa [moreItems, text, tokens] using ih
  refine wellFormed_of_no_number fun n => ?_
  cases ss with
  | nil => simp [texts, tokens]
  | cons s ss => simpa [texts, moreItems, text, tokens] using hmore n

theorem list?_texts (ss : List String) : (texts ss).list? text? = some ss := by
  rw [texts, list?]
  induction ss with
  | nil => rfl
  | cons s ss ih => simp [ih]

end Lists

end Value

end Json

end VenueGateway
