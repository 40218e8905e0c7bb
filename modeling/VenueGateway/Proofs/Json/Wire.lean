import VenueGateway.Proofs.Json.Numerals
import VenueGateway.Proofs.Json.RoundTrip
import VenueGateway.Venue.Request

/-!
Requests on the wire. Whoever reads the text of a request finds its fields again, since the order of
the members does not matter to a reader of records.
-/

namespace VenueGateway.Json

/-- An integer is read back from its numeral. -/
@[simp] theorem Numeral.integer?_ofInt (n : Int) : (ofInt n).integer? = some n := by
  cases n <;> simp [ofInt, integer?, Int.negSucc_eq]

namespace Value

@[simp] theorem int64?_int64 (n : Int64) : (int64 n).int64? = some n := by
  simp [int64, int, int64?, integer?, Text.int64OfInt?_toInt]

@[simp] theorem text?_text (s : String) : (text s).text? = some s := rfl

section WellFormed

theorem wellFormed_of_no_number {v : Value} (h : ∀ n, .number n ∉ v.tokens) : v.WellFormed :=
  fun n hn => absurd hn (h n)

theorem wellFormed_number {n : Numeral} (h : n.WellFormed) : (number n).WellFormed := by
  intro n' h'
  obtain rfl : n' = n := by simpa [tokens] using h'
  exact h

theorem wellFormed_int (n : Int) : (int n).WellFormed :=
  wellFormed_number (Numeral.wellFormed_ofInt n)

theorem wellFormed_text (s : String) : (text s).WellFormed :=
  wellFormed_of_no_number (by simp [text, tokens])

theorem wellFormed_bool (b : Bool) : (bool b).WellFormed :=
  wellFormed_of_no_number (by simp [tokens])

theorem wellFormed_real (f : Float) : (real f).WellFormed := by
  unfold real
  split
  · next p hp =>
    exact wellFormed_number (Numeral.wellFormed_ofScientific p.negative
      (Binary64.wellFormed_shortest .toEven (Binary64.mantissa_lt_of_kind hp)))
  · exact wellFormed_of_no_number (by simp [tokens])

theorem wellFormed_of_mem_moreMembers {ms : List Member} (h : ∀ m ∈ ms, m.2.WellFormed) :
    ∀ n, .number n ∈ moreMembers ms → n.WellFormed := by
  induction ms with
  | nil => simp [moreMembers]
  | cons m ms ih =>
    intro n hn
    have hmember : .number n ∈ m.2.tokens ∨ .number n ∈ moreMembers ms := by
      simpa [moreMembers] using hn
    rcases hmember with hn | hn
    · exact h m List.mem_cons_self n hn
    · exact ih (fun m' hm' => h m' (List.mem_cons_of_mem _ hm')) n hn

theorem wellFormed_object {ms : List Member} (h : ∀ m ∈ ms, m.2.WellFormed) :
    (object ms).WellFormed := by
  intro n hn
  refine wellFormed_of_mem_moreMembers h n ?_
  cases ms with
  | nil => simp [tokens] at hn
  | cons m ms => simpa [tokens, moreMembers] using hn

theorem wellFormed_fields {fs : List (String × Value)} (h : ∀ f ∈ fs, f.2.WellFormed) :
    (fields fs).WellFormed := by
  refine wellFormed_object fun m hm => ?_
  obtain ⟨f, hf, rfl⟩ := List.mem_map.mp hm
  exact h f hf

theorem wellFormed_sortMembers {ms : List Member} (h : ∀ m ∈ ms, m.2.WellFormed) :
    (object ms).sortMembers.WellFormed :=
  wellFormed_object fun m hm => h m ((List.mergeSort_perm ms _).mem_iff.mp hm)

end WellFormed

section Records

variable {ms ms' : List Member}

theorem wellKeyed_perm (h : ms.Perm ms') (names : List String) :
    wellKeyed names ms = wellKeyed names ms' := by
  rw [wellKeyed, wellKeyed, h.all_eq]
  simp only [h.countP_eq]

theorem countP_key_le_one (hkeys : (ms.map Prod.fst).Nodup) (name : String) :
    ms.countP (fun m => m.1 == some name) ≤ 1 := by
  have hle := List.nodup_iff_count_le_one.mp hkeys (some name)
  rwa [List.count, List.countP_map] at hle

/-- A name that stands once finds its member. -/
theorem member?_eq_some_iff {name : String} (honce : ms.countP (fun m => m.1 == some name) ≤ 1)
    {v : Value} :
    member? ms name = some v ↔ (some name, v) ∈ ms := by
  have hmem : (some name, v) ∈ ms ↔ (some name, v) ∈ ms.filter fun m => m.1 == some name := by simp
  have hname : ∀ m ∈ ms.filter fun m => m.1 == some name, m.1 = some name := by simp
  rw [List.countP_eq_length_filter] at honce
  rw [member?, ← List.head?_filter, hmem]
  generalize ms.filter (fun m => m.1 == some name) = found at honce hname
  match found, honce with
  | [], _ => simp
  | [m], _ => simp [Prod.ext_iff, eq_comm, hname m]

/-- Where a key is not repeated, the order of the members does not tell. -/
theorem member?_perm (h : ms.Perm ms') {name : String}
    (honce : ms.countP (fun m => m.1 == some name) ≤ 1) :
    member? ms name = member? ms' name := by
  ext v
  rw [member?_eq_some_iff honce, member?_eq_some_iff (h.countP_eq _ ▸ honce), h.mem_iff]

theorem record?_sortMembers (hkeys : (ms.map Prod.fst).Nodup) (names : List String) :
    (object ms).sortMembers.record? names = (object ms).record? names := by
  have hperm := List.mergeSort_perm ms fun m n => decide (m.1.getD "" ≤ n.1.getD "")
  have hmember : member? ms =
      member? (ms.mergeSort fun m n => decide (m.1.getD "" ≤ n.1.getD "")) :=
    funext fun name => member?_perm hperm.symm (countP_key_le_one hkeys name)
  rw [sortMembers, record?, record?, wellKeyed_perm hperm, hmember]

/-- The value of a field that a reader of one field finds. -/
def field? (name : String) (v : Value) : Option Value := (v.record? [name]).bind fun r => r name

theorem field?_object (hsome : ms.all (·.1.isSome) = true) (hkeys : (ms.map Prod.fst).Nodup)
    {name : String} {v : Value} (h : (some name, v) ∈ ms) : field? name (object ms) = some v := by
  have hcount := countP_key_le_one hkeys name
  have hwell : wellKeyed [name] ms = true := by simp [wellKeyed, hsome, hcount]
  rw [field?, record?, if_pos hwell, Option.bind_some]
  exact (member?_eq_some_iff hcount).mpr h

end Records

section Fields

variable {fs : List (String × Value)}

theorem member?_fields (fs : List (String × Value)) (name : String) :
    member? (fs.map fun f => (some f.1, f.2)) name = fs.lookup name := by
  induction fs with
  | nil => rfl
  | cons f fs ih =>
    obtain ⟨key, v⟩ := f
    by_cases h : key = name
    · subst h
      simp [member?]
    · have hother : (name == key) = false := by simpa using Ne.symm h
      rw [List.lookup_cons, hother, ← ih]
      simp [member?, h]

theorem nodup_members (hkeys : (fs.map Prod.fst).Nodup) :
    ((fs.map fun f => ((some f.1, f.2) : Member)).map Prod.fst).Nodup := by
  have hnames : ((fs.map Prod.fst).map some).Nodup := hkeys.map (Option.some_injective String)
  rwa [List.map_map] at hnames ⊢

/-- The record of an object with the given fields. -/
theorem record?_fields (hkeys : (fs.map Prod.fst).Nodup) (names : List String) :
    (fields fs).record? names = some fun name => fs.lookup name := by
  have honce := countP_key_le_one (nodup_members hkeys)
  have hwell : wellKeyed names (fs.map fun f => (some f.1, f.2)) = true := by
    rw [wellKeyed, Bool.and_eq_true]
    exact ⟨by simp, List.all_eq_true.mpr fun name _ => decide_eq_true (honce name)⟩
  rw [fields, record?, if_pos hwell]
  exact congrArg some (funext (member?_fields fs))

theorem wellFormed_sortMembers_fields (hfs : ∀ f ∈ fs, f.2.WellFormed) :
    (fields fs).sortMembers.WellFormed := by
  refine wellFormed_sortMembers fun m hm => ?_
  obtain ⟨f, hf, rfl⟩ := List.mem_map.mp hm
  exact hfs f hf

/-- A request reads back as its fields in the order of the wire. -/
theorem parse?_wire (hfs : ∀ f ∈ fs, f.2.WellFormed) :
    parse? (fields fs).wire = some (fields fs).sortMembers :=
  parse?_print (wellFormed_sortMembers_fields hfs)

/-- Every field of a request is found in what goes on the wire. -/
theorem field?_sortMembers (hkeys : (fs.map Prod.fst).Nodup) {name : String} {v : Value}
    (h : (name, v) ∈ fs) :
    field? name (fields fs).sortMembers = some v := by
  have hkeys' := nodup_members hkeys
  have hsome : (fs.map fun f => ((some f.1, f.2) : Member)).all (·.1.isSome) = true := by simp
  rw [field?, fields, record?_sortMembers hkeys', ← field?]
  exact field?_object hsome hkeys' (List.mem_map.mpr ⟨_, h, rfl⟩)

end Fields

end Value

end VenueGateway.Json
