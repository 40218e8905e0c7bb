import Mathlib.Data.List.Induction
import Mathlib.Data.List.TakeWhile
import Mathlib.Data.Nat.Digits.Defs
import VenueGateway.Proofs.Text.Numerals

/-!
How whole numbers are spelled: ASCII digits, one at least, behind a sign that may be missing, and
any blanks around them. A text is read as a number where it spells the number, and nowhere else;
zeros in front do not count, and the least number of a word is spelled like any other although it
has no positive counterpart.
-/

namespace VenueGateway.Text

/-- ASCII digits, one at least, and the number that they denote in base ten. -/
structure Denotes (ds : List Char) (n : Nat) : Prop where
  ne_nil : ds ≠ []
  isDigit : ∀ c ∈ ds, c.isDigit = true
  value : Nat.ofDigits 10 (ds.reverse.map digitValue) = n

/-- Digits behind a plus sign that may be missing. -/
inductive Unsigned : List Char → Nat → Prop
  | bare {ds : List Char} {n : Nat} (h : Denotes ds n) : Unsigned ds n
  | plus {ds : List Char} {n : Nat} (h : Denotes ds n) : Unsigned ('+' :: ds) n

/-- Digits behind a sign that may be missing. -/
inductive Signed : List Char → Int → Prop
  | positive {cs : List Char} {n : Nat} (h : Unsigned cs n) : Signed cs n
  | minus {ds : List Char} {n : Nat} (h : Denotes ds n) : Signed ('-' :: ds) (-n)

/-- A text is made of some characters and the blanks around them. -/
def Padded (s : String) (cs : List Char) : Prop :=
  ∃ v w, s.toList = v ++ (cs ++ w) ∧ (∀ c ∈ v, isBlank c = true) ∧ ∀ c ∈ w, isBlank c = true

def SpellsInt (s : String) (n : Int) : Prop := ∃ cs, Padded s cs ∧ Signed cs n

def SpellsNat (s : String) (n : Nat) : Prop := ∃ cs, Padded s cs ∧ Unsigned cs n

def Blank (s : String) : Prop := ∀ c ∈ s.toList, isBlank c = true

theorem allBlank_eq_true_iff {s : String} : allBlank s = true ↔ Blank s := List.all_eq_true

instance : DecidablePred Blank := fun _ => decidable_of_iff _ allBlank_eq_true_iff

theorem value_eq_ofDigits (ds : List Char) :
    value ds = Nat.ofDigits 10 (ds.reverse.map digitValue) := by
  -- From the last digit, which is the first that `Nat.ofDigits` takes.
  induction ds using List.reverseRecOn with
  | nil => rfl
  | append_singleton ds d ih =>
    have hlast : value (ds ++ [d]) = 10 * value ds + digitValue d := by simp [value]
    rw [hlast, ih, List.reverse_append, List.reverse_singleton, List.singleton_append,
      List.map_cons, Nat.ofDigits_cons, Nat.add_comm]

/-- Reading digits agrees with what digits denote. -/
theorem unsigned?_eq_some_iff {cs : List Char} {n : Nat} :
    unsigned? cs = some n ↔ Denotes cs n := by
  unfold unsigned?
  split
  · next hnone =>
    simp only [Bool.or_eq_true, List.isEmpty_iff, Bool.not_eq_eq_eq_not, Bool.not_true,
      List.all_eq_false] at hnone
    refine ⟨nofun, fun h => ?_⟩
    rcases hnone with hnil | ⟨c, hc, hdigit⟩
    · exact absurd hnil h.ne_nil
    · exact absurd (h.isDigit c hc) hdigit
  · next hsome =>
    simp only [Bool.or_eq_true, List.isEmpty_iff, Bool.not_eq_eq_eq_not, Bool.not_true, not_or,
      Bool.not_eq_false, List.all_eq_true] at hsome
    rw [Option.some.injEq, value_eq_ofDigits]
    exact ⟨fun h => ⟨hsome.1, hsome.2, h⟩, Denotes.value⟩

/-- What denotes a number begins with a digit, and so with no sign. -/
theorem Denotes.ne_sign {c : Char} {cs : List Char} {n : Nat} (h : Denotes (c :: cs) n) :
    c ≠ '+' ∧ c ≠ '-' := by
  have hc := h.isDigit c List.mem_cons_self
  constructor <;> rintro rfl <;> cases hc

theorem natural?_eq_some_iff {cs : List Char} {n : Nat} : natural? cs = some n ↔ Unsigned cs n := by
  unfold natural?
  split
  · next ds =>
    rw [unsigned?_eq_some_iff]
    refine ⟨.plus, fun h => ?_⟩
    cases h with
    | bare h => exact absurd rfl h.ne_sign.1
    | plus h => exact h
  · next hplus =>
    rw [unsigned?_eq_some_iff]
    refine ⟨.bare, fun h => ?_⟩
    cases h with
    | bare h => exact h
    | plus h => exact absurd rfl (hplus _)

/-- Reading an integer agrees with how integers are spelled. -/
theorem integer?_eq_some_iff {cs : List Char} {n : Int} : integer? cs = some n ↔ Signed cs n := by
  unfold integer?
  split
  · next ds =>
    simp only [Option.map_eq_some_iff, Option.bind_eq_bind, Option.bind_eq_some_iff,
      Option.pure_def, Option.some.injEq, unsigned?_eq_some_iff]
    constructor
    · rintro ⟨-, ⟨m, hm, rfl⟩, rfl⟩
      exact .minus hm
    · intro h
      cases h with
      | positive h =>
        cases h with
        | bare h => exact absurd rfl h.ne_sign.2
      | minus h => exact ⟨_, ⟨_, h, rfl⟩, rfl⟩
  · next hminus =>
    rw [Option.map_eq_some_iff]
    constructor
    · rintro ⟨m, hm, rfl⟩
      exact .positive (natural?_eq_some_iff.mp hm)
    · intro h
      cases h with
      | positive h => exact ⟨_, natural?_eq_some_iff.mpr h, rfl⟩
      | minus h => exact absurd rfl (hminus _)

theorem Denotes.isBlank {ds : List Char} {n : Nat} (h : Denotes ds n) :
    ∀ c ∈ ds, isBlank c = false :=
  fun c hc => isBlank_of_isDigit (h.isDigit c hc)

theorem Unsigned.isBlank {cs : List Char} {n : Nat} (h : Unsigned cs n) :
    ∀ c ∈ cs, isBlank c = false := by
  cases h with
  | bare h => exact h.isBlank
  | plus h => exact List.forall_mem_cons.mpr ⟨by decide, h.isBlank⟩

theorem Signed.isBlank {cs : List Char} {n : Int} (h : Signed cs n) :
    ∀ c ∈ cs, isBlank c = false := by
  cases h with
  | positive h => exact h.isBlank
  | minus h => exact List.forall_mem_cons.mpr ⟨by decide, h.isBlank⟩

theorem Signed.ne_nil {cs : List Char} {n : Int} (h : Signed cs n) : cs ≠ [] := by
  cases h with
  | positive h =>
    cases h with
    | bare h => exact h.ne_nil
    | plus h => exact List.cons_ne_nil _ _
  | minus h => exact List.cons_ne_nil _ _

theorem SpellsInt.not_blank {s : String} {n : Int} (h : SpellsInt s n) : ¬ Blank s := by
  intro hblank
  obtain ⟨cs, ⟨v, w, hs, -, -⟩, hn⟩ := h
  obtain ⟨c, hc⟩ := List.exists_mem_of_ne_nil cs hn.ne_nil
  have hmem : c ∈ s.toList := by
    rw [hs]
    exact List.mem_append_right _ (List.mem_append_left _ hc)
  have hc' := hblank c hmem
  rw [hn.isBlank c hc] at hc'
  cases hc'

/-- Around what is left of a text when it is trimmed there were blanks. -/
theorem padded_trim (s : String) : Padded s (trim s).toList := by
  let rest := s.toList.dropWhile Text.isBlank
  have hfront : s.toList = s.toList.takeWhile Text.isBlank ++ rest :=
    List.takeWhile_append_dropWhile.symm
  have hback : rest = (trim s).toList ++ (rest.reverse.takeWhile Text.isBlank).reverse := by
    rw [toList_trim, trimChars, ← List.reverse_append, List.takeWhile_append_dropWhile,
      List.reverse_reverse]
  refine ⟨_, _, hfront.trans (congrArg _ hback), fun c hc => List.mem_takeWhile_imp hc,
    fun c hc => ?_⟩
  exact List.mem_takeWhile_imp (List.mem_reverse.mp hc)

/-- Characters without a blank among them are what is left when the blanks around them are
trimmed. -/
theorem Padded.toList_trim {s : String} {cs : List Char} (h : Padded s cs)
    (hcs : ∀ c ∈ cs, Text.isBlank c = false) :
    (trim s).toList = cs := by
  obtain ⟨v, w, hs, hv, hw⟩ := h
  have hw' : ∀ c ∈ w.reverse, Text.isBlank c = true := fun c hc => hw c (List.mem_reverse.mp hc)
  have hback : trimChars (cs ++ w) = cs := by
    cases cs with
    | nil => rw [List.nil_append, trimChars, List.dropWhile_eq_nil_iff.mpr hw]; rfl
    | cons c cs =>
      have hsame := trimChars_of_no_blank hcs
      rw [trimChars, List.dropWhile_cons, hcs c List.mem_cons_self] at hsame
      rw [List.cons_append, trimChars, List.dropWhile_cons, hcs c List.mem_cons_self]
      simpa only [Bool.false_eq_true, if_false, ← List.cons_append, List.reverse_append,
        List.dropWhile_append_of_pos hw'] using hsame
  rw [Text.toList_trim, hs, trimChars, List.dropWhile_append_of_pos hv]
  exact hback

/-- A text is read as a 64-bit number, whatever blanks stand around it, where it spells the
number. -/
theorem int64?_trim_eq_some_iff {s : String} {i : Int64} :
    int64? (trim s) = some i ↔ SpellsInt s i.toInt := by
  simp only [int64?, Option.bind_eq_some_iff, int64OfInt?_eq_some_iff, integer?_eq_some_iff]
  constructor
  · rintro ⟨n, hn, rfl⟩
    exact ⟨_, padded_trim s, hn⟩
  · rintro ⟨cs, hs, hn⟩
    exact ⟨_, by rwa [hs.toList_trim hn.isBlank], rfl⟩

/-- The same for a natural number below a bound. -/
theorem naturalBelow?_trim_eq_some_iff {bound n : Nat} {s : String} :
    naturalBelow? bound (trim s) = some n ↔ SpellsNat s n ∧ n < bound := by
  simp only [naturalBelow?, Option.filter_eq_some_iff, natural?_eq_some_iff, decide_eq_true_eq]
  constructor
  · rintro ⟨hn, hbound⟩
    exact ⟨⟨_, padded_trim s, hn⟩, hbound⟩
  · rintro ⟨⟨cs, hs, hn⟩, hbound⟩
    exact ⟨by rwa [hs.toList_trim hn.isBlank], hbound⟩

end VenueGateway.Text
