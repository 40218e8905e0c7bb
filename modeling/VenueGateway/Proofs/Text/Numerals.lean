import VenueGateway.Power
import VenueGateway.Text.Blank
import VenueGateway.Text.Numerals

/-!
Numbers read back from their own texts. The text of a number is made of digits behind a sign at
most, so it has no blanks to lose and no second reading.
-/

namespace VenueGateway.Text

theorem isDigit_digitChar {d : Nat} (h : d < 10) : (digitChar d).isDigit = true := by
  have hall : ∀ d < 10, (digitChar d).isDigit = true := by decide
  exact hall d h

theorem digitValue_digitChar {d : Nat} (h : d < 10) : digitValue (digitChar d) = d := by
  have hall : ∀ d < 10, digitValue (digitChar d) = d := by decide
  exact hall d h

theorem isBlank_of_isDigit {c : Char} (h : c.isDigit = true) : isBlank c = false := by
  simp only [Char.isDigit, Bool.and_eq_true, decide_eq_true_eq] at h
  have hlow : 48 ≤ c.toNat := h.1
  have hhigh : c.toNat ≤ 57 := h.2
  simp only [isBlank, Bool.or_eq_false_iff, Bool.and_eq_false_iff, decide_eq_false_iff_not,
    beq_eq_false_iff_ne]
  omega

theorem isDigit_of_mem_digits {n : Nat} {c : Char} (h : c ∈ digits n) : c.isDigit = true := by
  induction n using digits.induct with
  | case1 n hn =>
    rw [digits, if_pos hn, List.mem_singleton] at h
    exact h ▸ isDigit_digitChar hn
  | case2 n hn ih =>
    rw [digits, if_neg hn, List.mem_append, List.mem_singleton] at h
    rcases h with h | rfl
    · exact ih h
    · exact isDigit_digitChar (Nat.mod_lt n (by decide))

theorem digits_ne_nil (n : Nat) : digits n ≠ [] := by
  rw [digits]
  split <;> simp

@[simp] theorem value_digits (n : Nat) : value (digits n) = n := by
  induction n using digits.induct with
  | case1 n hn => simp [digits, hn, value, digitValue_digitChar hn]
  | case2 n hn ih =>
    have hlast := digitValue_digitChar (Nat.mod_lt n (by decide : 0 < 10))
    rw [value] at ih
    rw [digits, if_neg hn, value, valueFrom_append, ih, valueFrom_cons, valueFrom_nil, hlast]
    exact Nat.div_add_mod n 10

/-- Digits do not begin with a zero, except for nought. -/
theorem head?_digits {n : Nat} (h : 0 < n) : (digits n).head? ≠ some '0' := by
  induction n using digits.induct with
  | case1 n hn =>
    have hall : ∀ n < 10, 0 < n → digitChar n ≠ '0' := by decide
    rw [digits, if_pos hn, List.head?_cons, ne_eq, Option.some.injEq]
    exact hall n hn h
  | case2 n hn ih =>
    obtain ⟨d, ds, hfront⟩ := List.exists_cons_of_ne_nil (digits_ne_nil (n / 10))
    have hhead := ih (by omega)
    rw [hfront] at hhead
    rw [digits, if_neg hn, hfront]
    exact hhead

theorem lt_tenTo_length_digits (n : Nat) : n < tenTo (digits n).length := by
  induction n using digits.induct with
  | case1 n hn => simp [digits, hn, tenTo_succ]
  | case2 n hn ih =>
    rw [digits, if_neg hn, List.length_append, List.length_singleton, tenTo_succ]
    omega

theorem tenTo_length_digits_le {n : Nat} (h : 0 < n) : tenTo ((digits n).length - 1) ≤ n := by
  induction n using digits.induct with
  | case1 n hn => simpa [digits, hn] using Nat.succ_le_of_lt h
  | case2 n hn ih =>
    have hlen := List.length_pos_iff.mpr (digits_ne_nil (n / 10))
    have hpow : tenTo (digits (n / 10)).length = tenTo ((digits (n / 10)).length - 1) * 10 := by
      rw [← tenTo_succ]
      congr 1
      omega
    have hstep := ih (by omega)
    rw [digits, if_neg hn, List.length_append, List.length_singleton, Nat.add_sub_cancel, hpow]
    omega

theorem unsigned?_digits (n : Nat) : unsigned? (digits n) = some n := by
  have hall : (digits n).all Char.isDigit = true :=
    List.all_eq_true.mpr fun c hc => isDigit_of_mem_digits hc
  simp [unsigned?, hall, digits_ne_nil]

/-- Digits without a sign are read as they are. -/
theorem integer?_digits (n : Nat) : integer? (digits n) = some (n : Int) := by
  have hsign : ∀ c cs, digits n = c :: cs → c.isDigit = true := by
    intro c cs h
    exact isDigit_of_mem_digits (by rw [h]; exact List.mem_cons_self)
  have hread := unsigned?_digits n
  cases h : digits n with
  | nil => exact absurd h (digits_ne_nil n)
  | cons c cs =>
    have hc := hsign c cs h
    have hminus : c ≠ '-' := by rintro rfl; exact absurd hc (by decide)
    have hplus : c ≠ '+' := by rintro rfl; exact absurd hc (by decide)
    rw [h] at hread
    simp [integer?, natural?, hminus, hplus, hread]

theorem integer?_integerChars (n : Int) : integer? (integerChars n) = some n := by
  cases n with
  | ofNat n => exact integer?_digits n
  | negSucc n =>
    rw [integerChars, integer?, unsigned?_digits]
    rfl

theorem isBlank_of_mem_integerChars {n : Int} {c : Char} (h : c ∈ integerChars n) :
    isBlank c = false := by
  cases n with
  | ofNat n => exact isBlank_of_isDigit (isDigit_of_mem_digits h)
  | negSucc n =>
    rcases List.mem_cons.mp h with rfl | h
    · decide
    · exact isBlank_of_isDigit (isDigit_of_mem_digits h)

theorem trimChars_of_no_blank {cs : List Char} (h : ∀ c ∈ cs, isBlank c = false) :
    trimChars cs = cs := by
  have hdrop : ∀ ds : List Char, (∀ c ∈ ds, isBlank c = false) → ds.dropWhile isBlank = ds := by
    intro ds hds
    cases ds with
    | nil => rfl
    | cons d ds => rw [List.dropWhile_cons, hds d List.mem_cons_self]; rfl
  have hreverse : ∀ c ∈ cs.reverse, isBlank c = false := fun c hc => h c (List.mem_reverse.mp hc)
  rw [trimChars, hdrop cs h, hdrop cs.reverse hreverse, List.reverse_reverse]

theorem int64OfInt?_toInt (n : Int64) : int64OfInt? n.toInt = some n := by
  have hlow := n.le_toInt
  have hhigh := n.toInt_lt
  rw [int64OfInt?, if_pos (by omega), Int64.ofInt_toInt]

/-- A number is in range where it is that of a word. -/
theorem int64OfInt?_eq_some_iff {n : Int} {i : Int64} : int64OfInt? n = some i ↔ n = i.toInt := by
  constructor
  · intro h
    unfold int64OfInt? at h
    split at h
    · next hrange =>
      obtain rfl := Option.some.inj h
      exact (Int64.toInt_ofInt_of_le hrange.1 hrange.2).symm
    · cases h
  · rintro rfl
    exact int64OfInt?_toInt i

/-- A 64-bit number is read back from its text. -/
theorem int64?_ofInt64 (n : Int64) : int64? (trim (ofInt64 n)) = some n := by
  rw [int64?, toList_trim, ofInt64, ofInt, String.toList_ofList,
    trimChars_of_no_blank fun c => isBlank_of_mem_integerChars, integer?_integerChars]
  exact int64OfInt?_toInt n

theorem integerChars_ne_nil (n : Int) : integerChars n ≠ [] := by
  cases n with
  | ofNat n => exact digits_ne_nil n
  | negSucc n => simp [integerChars]

theorem ofInt64_ne_empty (n : Int64) : ofInt64 n ≠ "" := by
  intro h
  have hchars := congrArg String.toList h
  rw [ofInt64, ofInt, String.toList_ofList] at hchars
  exact integerChars_ne_nil n.toInt hchars

theorem digits_eq_toDigits (n : Nat) : digits n = Nat.toDigits 10 n := by
  have hdigit : ∀ d < 10, digitChar d = Nat.digitChar d := by decide
  induction n using digits.induct with
  | case1 n hn => rw [digits, if_pos hn, Nat.toDigits_of_lt_base hn, hdigit n hn]
  | case2 n hn ih =>
    rw [digits, if_neg hn, Nat.toDigits_eq_if (by decide), if_neg hn, ih,
      hdigit _ (Nat.mod_lt n (by decide))]

/-- A number is written as numbers are. -/
theorem ofInt64_eq_toString (n : Int64) : ofInt64 n = toString n.toInt := by
  rw [ofInt64, ofInt]
  cases n.toInt with
  | ofNat m =>
    rw [integerChars, digits_eq_toDigits]
    rfl
  | negSucc m =>
    have hsigned : toString (Int.negSucc m) = "-" ++ String.ofList (Nat.toDigits 10 (m + 1)) := rfl
    rw [integerChars, digits_eq_toDigits, hsigned, ← String.toList_inj]
    simp

end VenueGateway.Text
