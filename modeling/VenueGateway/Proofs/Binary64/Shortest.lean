import Mathlib.Algebra.Order.Field.Power
import Mathlib.Tactic.FieldSimp
import Mathlib.Tactic.Linarith
import Mathlib.Tactic.NormNum
import Mathlib.Tactic.Positivity
import VenueGateway.Binary64.Shortest
import VenueGateway.Proofs.Text.Numerals

/-!
The search for the shortest decimal does not come up empty. A grid with seventeen digits in front of
a number is finer than the gap below the number, so the point below is inside, and a point inside is
not nought.
-/

namespace VenueGateway.Binary64

section Ratios

def Ratio.toRat (r : Ratio) : ℚ := r.num / r.den

theorem Ratio.toRat_lt_iff {r : Ratio} (hr : 0 < r.den) (n : Nat) :
    r.toRat < n ↔ r.num < n * r.den := by
  have hden : (0 : ℚ) < r.den := by exact_mod_cast hr
  rw [toRat, div_lt_iff₀ hden]
  exact_mod_cast Iff.rfl

theorem Ratio.toRat_lt_div_add_one {r : Ratio} (hr : 0 < r.den) :
    r.toRat < (r.num / r.den : Nat) + 1 := by
  have hlt : r.num < (r.num / r.den + 1) * r.den := by
    have hdiv := Nat.div_add_mod r.num r.den
    have hmod := Nat.mod_lt r.num hr
    nlinarith
  exact_mod_cast (toRat_lt_iff hr _).mpr hlt

theorem cast_twoTo (n : Nat) : (twoTo n : ℚ) = 2 ^ n := by
  rw [twoTo, Nat.pow_eq]
  push_cast
  rfl

theorem cast_tenTo (n : Nat) : (tenTo n : ℚ) = 10 ^ n := by
  rw [tenTo, Nat.pow_eq]
  push_cast
  rfl

theorem zpow_eq_div {a : ℚ} (ha : a ≠ 0) (e : Int) : a ^ e = a ^ e.toNat / a ^ (-e).toNat := by
  rw [← zpow_natCast, ← zpow_natCast, ← zpow_sub₀ ha]
  congr 1
  omega

theorem den_ratio_pos (n : Nat) (e k : Int) : 0 < (ratio n e k).den :=
  Nat.mul_pos (twoTo_pos _) (tenTo_pos _)

theorem toRat_ratio (n : Nat) (e k : Int) : (ratio n e k).toRat = n * 2 ^ e / 10 ^ k := by
  rw [zpow_eq_div (by norm_num : (2 : ℚ) ≠ 0) e, zpow_eq_div (by norm_num : (10 : ℚ) ≠ 0) k]
  simp only [Ratio.toRat, ratio, Nat.cast_mul, cast_twoTo, cast_tenTo]
  field_simp

/-- The leading digit of a ratio stands where the ratio reaches to. -/
theorem leadingExponent_le {r : Ratio} (hnum : 0 < r.num) (hden : 0 < r.den) :
    (10 : ℚ) ^ leadingExponent r ≤ r.toRat := by
  have hden' : (0 : ℚ) < r.den := by exact_mod_cast hden
  unfold leadingExponent
  split
  · next hle =>
    have hquotient :=
      (Nat.le_div_iff_mul_le hden).mp (Text.tenTo_length_digits_le (Nat.div_pos hle hden))
    have hlen := List.length_pos_iff.mpr (Text.digits_ne_nil (r.num / r.den))
    rw [show ((Text.digits (r.num / r.den)).length - 1 : Int) =
      ((Text.digits (r.num / r.den)).length - 1 : Nat) by omega,
      zpow_natCast, Ratio.toRat, le_div_iff₀ hden', ← cast_tenTo]
    exact_mod_cast hquotient
  · next hlt =>
    have hpower :=
      (Nat.div_lt_iff_lt_mul hnum).mp (Text.lt_tenTo_length_digits ((r.den - 1) / r.num))
    have hreach : r.den ≤ tenTo (Text.digits ((r.den - 1) / r.num)).length * r.num := by omega
    rw [zpow_neg, zpow_natCast, Ratio.toRat, le_div_iff₀ hden',
      inv_mul_le_iff₀ (by positivity), ← cast_tenTo]
    exact_mod_cast hreach

end Ratios

section Grids

variable {tie : TieRule} {p : Parts} {k : Int} {n : Nat}

/-- The midpoint below a number, in units of a grid. -/
def lowEnd (p : Parts) (k : Int) : Ratio :=
  ratio (4 * p.mantissa - if p.narrowBelow then 1 else 2) (p.exponent - 2) k

/-- The point of a grid below a number. -/
def pointBelow (p : Parts) (k : Int) : Nat :=
  (ratio (4 * p.mantissa) (p.exponent - 2) k).num / (ratio (4 * p.mantissa) (p.exponent - 2) k).den

/-- Whether the point below a number reads back. -/
def belowInside (p : Parts) (k : Int) : Bool :=
  (lowEnd p k).num < pointBelow p k * (lowEnd p k).den ||
    (p.mantissa % 2 == 0 && (lowEnd p k).num == pointBelow p k * (lowEnd p k).den)

theorem TieRule.choose_eq_or (tie : TieRule) (n : Nat) :
    tie.choose n = n ∨ tie.choose n = n + 1 := by
  unfold choose
  split
  · split
    · exact .inl rfl
    · exact .inr rfl
  · exact .inr rfl

/-- A point that reads back is one of the two around the number. -/
theorem eq_pointBelow_or (h : gridPoint? tie p k = some n) :
    belowInside p k = true ∧ n = pointBelow p k ∨ n = pointBelow p k + 1 := by
  unfold gridPoint? at h
  dsimp only at h
  split at h
  · next hbelow habove =>
    split at h
    · exact .inl ⟨hbelow, (Option.some.inj h).symm⟩
    · split at h
      · exact .inr (Option.some.inj h).symm
      · obtain rfl := Option.some.inj h
        exact (tie.choose_eq_or (pointBelow p k)).imp (fun hchosen => ⟨hbelow, hchosen⟩) id
  · next hbelow habove => exact .inl ⟨hbelow, (Option.some.inj h).symm⟩
  · exact .inr (Option.some.inj h).symm
  · cases h

theorem isSome_of_belowInside (h : belowInside p k = true) : (gridPoint? tie p k).isSome := by
  unfold gridPoint?
  dsimp only
  split
  · split
    · rfl
    · split <;> rfl
  · rfl
  · rfl
  · next hbelow habove => exact absurd (h.symm.trans hbelow) (by decide)

/-- A point inside is above the midpoint below the number, hence not nought. -/
theorem gridPoint?_pos (hp : 0 < p.mantissa) (h : gridPoint? tie p k = some n) : 0 < n := by
  rcases eq_pointBelow_or h with ⟨hinside, rfl⟩ | rfl
  · have hlow : 0 < (lowEnd p k).num := by
      refine Nat.mul_pos (Nat.mul_pos ?_ (twoTo_pos _)) (tenTo_pos _)
      split <;> omega
    simp only [belowInside, Bool.or_eq_true, Bool.and_eq_true, decide_eq_true_eq,
      beq_iff_eq] at hinside
    refine Nat.pos_of_ne_zero fun hzero => ?_
    rw [hzero, Nat.zero_mul] at hinside
    omega
  · exact Nat.succ_pos _

/-- On a grid that is no wider than the gap below a number there is a point inside. -/
theorem isSome_gridPoint? (hp : 0 < p.mantissa) (hk : (10 : ℚ) ^ k ≤ 2 ^ (p.exponent - 2)) :
    (gridPoint? tie p k).isSome := by
  refine isSome_of_belowInside ?_
  have hgap : (lowEnd p k).toRat + 1 ≤ (ratio (4 * p.mantissa) (p.exponent - 2) k).toRat := by
    have hquarters : (4 * p.mantissa - if p.narrowBelow then 1 else 2) + 1 ≤ 4 * p.mantissa := by
      split <;> omega
    have hquarters' : ((4 * p.mantissa - if p.narrowBelow then 1 else 2 : Nat) : ℚ) +
        1 ≤ (4 * p.mantissa : Nat) := by
      exact_mod_cast hquarters
    have hgrid : (0 : ℚ) < 10 ^ k := by positivity
    rw [lowEnd, toRat_ratio, toRat_ratio, div_add_one hgrid.ne', div_le_div_iff_of_pos_right hgrid]
    calc _ ≤ ((4 * p.mantissa - if p.narrowBelow then 1 else 2 : Nat) : ℚ) * 2 ^ (p.exponent - 2) +
          2 ^ (p.exponent - 2) := by gcongr
      _ = (((4 * p.mantissa - if p.narrowBelow then 1 else 2 : Nat) : ℚ) + 1) *
        2 ^ (p.exponent - 2) := (add_one_mul _ _).symm
      _ ≤ (4 * p.mantissa : Nat) * 2 ^ (p.exponent - 2) := by gcongr
  have hbelow := Ratio.toRat_lt_div_add_one (den_ratio_pos (4 * p.mantissa) (p.exponent - 2) k)
  have hinside : (lowEnd p k).toRat < pointBelow p k := by
    rw [pointBelow]
    linarith
  have hlt : (lowEnd p k).num < pointBelow p k * (lowEnd p k).den :=
    (Ratio.toRat_lt_iff (den_ratio_pos _ _ _) _).mp hinside
  rw [belowInside, decide_eq_true hlt, Bool.true_or]

theorem search_pos (hp : 0 < p.mantissa) {fuel : Nat} (h : (gridPoint? tie p (k - fuel)).isSome) :
    0 < (search tie p k fuel).1 := by
  induction fuel generalizing k with
  | zero =>
    obtain ⟨n, hn⟩ := Option.isSome_iff_exists.mp h
    rw [Nat.cast_zero, Int.sub_zero] at hn
    rw [search, hn]
    exact gridPoint?_pos hp hn
  | succ fuel ih =>
    rw [search]
    split
    · next n hn => exact gridPoint?_pos hp hn
    · refine ih ?_
      rwa [show k - 1 - (fuel : Int) = k - (fuel + 1 : Nat) by omega]

/-- Seventeen digits are enough for fifty-three bits. -/
theorem found_pos (hp : 0 < p.mantissa) (hbits : p.mantissa < 2 ^ 53) :
    0 < (search tie p (leadingExponent (ratio p.mantissa p.exponent 0)) 17).1 := by
  have hlead := leadingExponent_le (r := ratio p.mantissa p.exponent 0)
    (Nat.mul_pos (Nat.mul_pos hp (twoTo_pos _)) (tenTo_pos _)) (den_ratio_pos _ _ _)
  have hbits' : (p.mantissa : ℚ) ≤ 2 ^ 53 := by exact_mod_cast hbits.le
  rw [toRat_ratio, zpow_zero, div_one] at hlead
  refine search_pos hp (isSome_gridPoint? hp ?_)
  calc (10 : ℚ) ^ (leadingExponent (ratio p.mantissa p.exponent 0) - (17 : Nat))
      = 10 ^ leadingExponent (ratio p.mantissa p.exponent 0) / 10 ^ 17 := by
        rw [zpow_sub₀ (by norm_num), zpow_natCast]
    _ ≤ p.mantissa * 2 ^ p.exponent / 10 ^ 17 := by gcongr
    _ ≤ 2 ^ 53 * 2 ^ p.exponent / 10 ^ 17 := by gcongr
    _ ≤ 2 ^ p.exponent / 2 ^ 2 := by
        have hpow : (0 : ℚ) < 2 ^ p.exponent := by positivity
        rw [div_le_div_iff₀ (by norm_num) (by norm_num)]
        nlinarith
    _ = 2 ^ (p.exponent - 2) := by
        rw [zpow_sub₀ (by norm_num)]
        norm_num

theorem mantissa_lt_of_kind {f : Float} (h : kind f = .finite p) : p.mantissa < 2 ^ 53 := by
  have hfraction : f.toBits.toNat % twoTo 52 < 2 ^ 52 := Nat.mod_lt _ (twoTo_pos 52)
  have hleading : twoTo 52 = 2 ^ 52 := rfl
  unfold kind at h
  dsimp only at h
  split at h
  · split at h <;> cases h
  · split at h <;> cases h <;> dsimp only <;> omega

end Grids

section Digits

/-- One digit at least, and no zero in front unless the number is nought. -/
structure Scientific.WellFormed (s : Scientific) : Prop where
  nonempty : s.digits ≠ []
  isDigit : ∀ c ∈ s.digits, c.isDigit = true
  leading : s.digits.head? = some '0' → s = ⟨['0'], 0⟩

theorem stripZeros_cons {d : Char} (hd : d ≠ '0') (ds : List Char) :
    ∃ ds', stripZeros (d :: ds) = d :: ds' := by
  rw [stripZeros, List.reverse_cons, List.dropWhile_append]
  split
  · exact ⟨[], by rw [List.dropWhile_cons_of_neg (by simpa using hd)]; rfl⟩
  · exact ⟨(ds.reverse.dropWhile (· == '0')).reverse, by rw [List.reverse_append]; rfl⟩

theorem mem_of_mem_stripZeros {c : Char} {cs : List Char} (h : c ∈ stripZeros cs) : c ∈ cs :=
  List.mem_reverse.mp ((List.dropWhile_sublist _).subset (List.mem_reverse.mp h))

/-- The shortest decimal of a finite number begins with a digit other than zero, unless the number
is nought. -/
theorem wellFormed_shortest (tie : TieRule) {p : Parts} (hbits : p.mantissa < 2 ^ 53) :
    (shortest tie p).WellFormed := by
  unfold shortest
  split
  · refine ⟨List.cons_ne_nil _ _, fun c hc => ?_, fun _ => rfl⟩
    obtain rfl := List.mem_singleton.mp hc
    decide
  · next hp =>
    have hpos : 0 < (search tie p (leadingExponent (ratio p.mantissa p.exponent 0)) 17).1 :=
      found_pos (Nat.pos_of_ne_zero hp) hbits
    obtain ⟨d, ds, hdigits⟩ := List.exists_cons_of_ne_nil (Text.digits_ne_nil
      (search tie p (leadingExponent (ratio p.mantissa p.exponent 0)) 17).1)
    have hd : d ≠ '0' := by
      rintro rfl
      exact Text.head?_digits hpos (by rw [hdigits]; rfl)
    obtain ⟨ds', hstripped⟩ := stripZeros_cons hd ds
    dsimp only
    rw [hdigits, hstripped]
    refine ⟨List.cons_ne_nil _ _, fun c hc => ?_, fun hzero => absurd (Option.some.inj hzero) hd⟩
    have hmem : c ∈ d :: ds := mem_of_mem_stripZeros (hstripped ▸ hc)
    exact Text.isDigit_of_mem_digits (hdigits ▸ hmem)

end Digits

end VenueGateway.Binary64
