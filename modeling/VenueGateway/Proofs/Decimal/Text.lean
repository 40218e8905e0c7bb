import Mathlib.Tactic.Ring
import VenueGateway.Decimal.Text
import VenueGateway.Proofs.Text.Numerals

/-!
Decimals read back from their own texts. All places are written, so they come back with the
coefficient, and no digit is left over that would have to be rounded. Nought is read without a sign.
-/

namespace VenueGateway

namespace Text

theorem valueFrom_eq (n : Nat) (cs : List Char) :
    valueFrom n cs = n * tenTo cs.length + value cs := by
  induction cs generalizing n with
  | nil => simp [value]
  | cons c cs ih =>
    rw [value, valueFrom_cons, valueFrom_cons, ih, ih (10 * 0 + digitValue c),
      List.length_cons, tenTo_succ]
    ring

theorem le_valueFrom (n : Nat) (cs : List Char) : n ≤ valueFrom n cs := by
  rw [valueFrom_eq]
  exact Nat.le_add_right_of_le (Nat.le_mul_of_pos_right n (tenTo_pos _))

theorem value_replicate_zero (k : Nat) : value (List.replicate k '0') = 0 := by
  induction k with
  | zero => rfl
  | succ k ih => rwa [List.replicate_succ, value, valueFrom_cons]

/-- A number below a power of ten has no more digits than the power has noughts. -/
theorem length_digits_le {n k : Nat} (hk : 0 < k) (h : n < tenTo k) : (digits n).length ≤ k := by
  by_cases hn : 0 < n
  · have hlow := tenTo_length_digits_le hn
    have hlt : (digits n).length - 1 < k :=
      (Nat.pow_lt_pow_iff_right (a := 10) (by decide)).mp (Nat.lt_of_le_of_lt hlow h)
    omega
  · obtain rfl := Nat.eq_zero_of_not_pos hn
    rw [digits, if_pos (by decide)]
    exact hk

end Text

namespace Decimal

open Text (digits value valueFrom)

variable {ds : List Char} {n s : Nat}

/-- Digits in front of the point are read in full while they fit. -/
theorem unsigned?_whole (hds : ∀ c ∈ ds, c.isDigit = true) (hlimit : valueFrom n ds < limit)
    (begun : Bool) (rest : List Char) :
    unsigned? n 0 false begun (ds ++ rest) =
      unsigned? (valueFrom n ds) 0 false (begun || !ds.isEmpty) rest := by
  induction ds generalizing n begun with
  | nil => simp
  | cons d ds ih =>
    obtain ⟨hd, hds⟩ := List.forall_mem_cons.mp hds
    have hfits : 10 * n + Text.digitValue d < limit :=
      Nat.lt_of_le_of_lt (Text.le_valueFrom _ ds) hlimit
    have hplaces : 0 ≠ maxScale := by decide
    have hnext := ih hds hlimit true
    rw [List.cons_append, unsigned?, if_neg hplaces, if_pos hd, if_pos hfits]
    simpa using hnext

/-- Digits behind the point are read in full while there are places for them. -/
theorem unsigned?_fraction (hds : ∀ c ∈ ds, c.isDigit = true) (hlimit : valueFrom n ds < limit)
    (hplaces : s + ds.length ≤ maxScale) :
    unsigned? n s true true ds = some (valueFrom n ds, s + ds.length) := by
  induction ds generalizing n s with
  | nil => rfl
  | cons d ds ih =>
    obtain ⟨hd, hds⟩ := List.forall_mem_cons.mp hds
    have hfits : 10 * n + Text.digitValue d < limit :=
      Nat.lt_of_le_of_lt (Text.le_valueFrom _ ds) hlimit
    rw [List.length_cons] at hplaces
    have hroom : s ≠ maxScale := by omega
    have hnext := ih (s := s + 1) hds hlimit (by omega)
    rw [unsigned?, if_neg hroom, if_pos hd, if_pos hfits]
    rw [List.length_cons, Nat.add_comm ds.length, ← Nat.add_assoc]
    exact hnext

theorem unsigned?_point (n : Nat) (cs : List Char) :
    unsigned? n 0 false true ('.' :: cs) = unsigned? n 0 true true cs := by
  simp [unsigned?, maxScale]

/-- Behind the point there are as many digits as there are places, and they complete the
coefficient. -/
theorem exists_places (n : Nat) (hs : s ≠ 0) :
    ∃ ds, magnitude n s = digits (n / tenTo s) ++ '.' :: ds ∧
    (∀ c ∈ ds, c.isDigit = true) ∧ ds.length = s ∧ valueFrom (n / tenTo s) ds = n := by
  have hlength := Text.length_digits_le (Nat.pos_of_ne_zero hs) (Nat.mod_lt n (tenTo_pos s))
  refine ⟨_, if_neg hs, fun c hc => ?_, ?_, ?_⟩
  · rcases List.mem_append.mp hc with hzero | hdigit
    · rw [List.eq_of_mem_replicate hzero]
      decide
    · exact Text.isDigit_of_mem_digits hdigit
  · rw [List.length_append, List.length_replicate]
    omega
  · have hplaces : tenTo (s - (digits (n % tenTo s)).length) * tenTo (digits (n % tenTo s)).length =
        tenTo s := by
      rw [← tenTo_add, Nat.sub_add_cancel hlength]
    rw [Text.valueFrom_append, Text.valueFrom_eq, Text.valueFrom_eq (n / tenTo s),
      List.length_replicate, Text.value_replicate_zero, Nat.add_zero, Text.value_digits,
      Nat.mul_assoc, hplaces, Nat.div_add_mod']

/-- The coefficient and its places are read from the text of a magnitude. -/
theorem unsigned?_magnitude (hn : n < limit) (hs : s ≤ maxScale) :
    unsigned? 0 0 false false (magnitude n s) = some (n, s) := by
  have hbegun : ∀ k, (digits k).isEmpty = false := fun k => by simpa using Text.digits_ne_nil k
  have hwhole : ∀ k < limit, ∀ rest, unsigned? 0 0 false false (digits k ++ rest) =
      unsigned? k 0 false true rest := by
    intro k hk rest
    have hvalue : valueFrom 0 (digits k) = k := Text.value_digits k
    rw [unsigned?_whole (fun c => Text.isDigit_of_mem_digits) (hvalue.symm ▸ hk), hvalue, hbegun]
    rfl
  by_cases hzero : s = 0
  · subst hzero
    have hread := hwhole n hn []
    rw [List.append_nil] at hread
    exact hread
  · obtain ⟨ds, htext, hds, hlength, hvalue⟩ := exists_places n hzero
    rw [htext, hwhole _ (Nat.lt_of_le_of_lt (Nat.div_le_self ..) hn), unsigned?_point,
      unsigned?_fraction hds (hvalue.symm ▸ hn) (by omega), hvalue, hlength, Nat.zero_add]

/-- The text of a magnitude begins with a digit. -/
theorem exists_magnitude_eq (n s : Nat) : ∃ c cs, magnitude n s = c :: cs ∧ c.isDigit = true := by
  have hfront : ∀ k rest, ∃ c cs, digits k ++ rest = c :: cs ∧ c.isDigit = true := by
    intro k rest
    obtain ⟨c, cs, hcs⟩ := List.exists_cons_of_ne_nil (Text.digits_ne_nil k)
    refine ⟨c, cs ++ rest, by rw [hcs, List.cons_append], Text.isDigit_of_mem_digits (n := k) ?_⟩
    rw [hcs]
    exact List.mem_cons_self
  unfold magnitude
  split
  · simpa using hfront n []
  · exact hfront _ _

theorem plain?_of_isDigit {c : Char} (h : c.isDigit = true) (cs : List Char) :
    plain? (c :: cs) = (unsigned? 0 0 false false (c :: cs)).bind (signed? false) := by
  have hminus : c ≠ '-' := by rintro rfl; exact absurd h (by decide)
  have hplus : c ≠ '+' := by rintro rfl; exact absurd h (by decide)
  simp [plain?, hminus, hplus]

def settled (d : Decimal) : Decimal := { d with negative := d.negative && !d.isZero }

theorem settled_eq {d : Decimal} (h : d.isZero = true → d.negative = false) : d.settled = d := by
  have hsign : (d.negative && !d.isZero) = d.negative := by
    cases hzero : d.isZero with
    | false => simp
    | true => simp [h hzero]
  rw [settled, hsign]

theorem signed?_eq (d : Decimal) : signed? d.negative (d.coefficient, d.scale) = some d.settled :=
  dif_pos ⟨d.coefficient_lt, d.scale_le⟩

/-- The text of a decimal reads back, with the sign of nought gone. -/
theorem plain?_chars (d : Decimal) : plain? d.chars = some d.settled := by
  have hread := unsigned?_magnitude d.coefficient_lt d.scale_le
  have hsigned := d.signed?_eq
  rw [chars]
  cases hsign : d.negative with
  | true =>
    rw [hsign] at hsigned
    simp [plain?, hread, hsigned]
  | false =>
    obtain ⟨c, cs, hcs, hc⟩ := exists_magnitude_eq d.coefficient d.scale
    rw [hsign] at hsigned
    rw [hcs] at hread
    simp [hcs, plain?_of_isDigit hc, hread, hsigned]

/-- A decimal is read from its text with all its places, and nought without its sign. -/
theorem ofText?_text (d : Decimal) : ofText? d.text = some d.settled := by
  rw [ofText?, text, String.toList_ofList, plain?_chars]
  rfl

end Decimal

end VenueGateway
