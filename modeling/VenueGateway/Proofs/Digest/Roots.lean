import VenueGateway.Proofs.Digest.Standard

/-!
The constants of SHA-256 are roots of primes. The first bits of the fractional part of a root are
found without the root: a number whose power lies as close below the prime as one can come has the
same bits.
-/

namespace VenueGateway.Digest

open Standard

def primes : List Nat := [
  2, 3, 5, 7, 11, 13, 17, 19, 23, 29, 31, 37, 41, 43, 47, 53, 59, 61, 67, 71, 73, 79, 83, 89, 97,
  101, 103, 107, 109, 113, 127, 131, 137, 139, 149, 151, 157, 163, 167, 173, 179, 181, 191, 193,
  197, 199, 211, 223, 227, 229, 233, 239, 241, 251, 257, 263, 269, 271, 277, 281, 283, 293, 307,
  311]

theorem length_filter_range (p : Nat → Prop) [DecidablePred p] (n : Nat) :
    ((List.range n).filter fun k => p k).length = Nat.count p n := by
  induction n with
  | zero => rfl
  | succ n ih =>
    rw [List.range_succ, List.filter_append, List.length_append, ih, Nat.count_succ]
    by_cases h : p n <;> simp [h]

/-- The numbers with a property are numbered as they come. -/
theorem nth_of_filter {p : Nat → Prop} [DecidablePred p] {n i k : Nat}
    (h : ((List.range n).filter fun k => p k)[i]? = some k) : Nat.nth p i = k := by
  induction n with
  | zero => cases h
  | succ n ih =>
    rw [List.range_succ, List.filter_append, List.getElem?_append, length_filter_range] at h
    split at h
    · exact ih h
    · next hbehind =>
      by_cases hp : p n
      · have hlast : i - Nat.count p n = 0 ∧ n = k := by simpa [hp, List.getElem?_singleton] using h
        have hi : i = Nat.count p n :=
          Nat.le_antisymm (Nat.sub_eq_zero_iff_le.mp hlast.1) (Nat.le_of_not_lt hbehind)
        rw [hi, Nat.nth_count hp, hlast.2]
      · simp [hp] at h

/-- A composite number has a factor that is not above its root. -/
theorem prime_iff {n : Nat} (h : n < 324) :
    Nat.Prime n ↔ 2 ≤ n ∧ ∀ d < 18, 2 ≤ d → d * d ≤ n → ¬ d ∣ n := by
  rw [Nat.prime_def_le_sqrt]
  refine and_congr_right fun _ => ⟨fun hn d _ hd hdd => hn d hd (Nat.le_sqrt.mpr hdd),
    fun hn d hd hsqrt => ?_⟩
  have hdd := Nat.le_sqrt.mp hsqrt
  have hlt : d < 18 := by nlinarith
  exact hn d hlt hd hdd

theorem filter_prime : (List.range 312).filter (fun n => Nat.Prime n) = primes := by
  have htrial : (List.range 312).filter (fun n => 2 ≤ n ∧ ∀ d < 18, 2 ≤ d → d * d ≤ n →
      ¬ d ∣ n) = primes := by
    decide +kernel
  rw [← htrial]
  refine List.filter_congr fun n hn => ?_
  have hlt := List.mem_range.mp hn
  exact decide_eq_decide.mpr (prime_iff (by omega))

theorem nth_prime {t : Nat} (h : t < 64) : Nat.nth Nat.Prime t = primes.getD t 0 := by
  refine nth_of_filter (n := 312) ?_
  rw [filter_prime, List.getD_eq_getElem _ _ h]
  exact List.getElem?_eq_getElem h

/-- A number of a whole part and thirty-two bits behind the point is the last one that is not above
a root. -/
def RootOf (degree p whole : Nat) (bits : UInt32) : Prop :=
  (whole * 2 ^ 32 + bits.toNat) ^ degree ≤ p * 2 ^ (32 * degree) ∧
    p * 2 ^ (32 * degree) < (whole * 2 ^ 32 + bits.toNat + 1) ^ degree

instance (degree p whole : Nat) (bits : UInt32) : Decidable (RootOf degree p whole bits) :=
  inferInstanceAs (Decidable (_ ∧ _))

/-- The bits behind the point of a root, by comparing powers of integers. -/
theorem floor_fract_root {degree p whole : Nat} {bits : UInt32} (hd : degree ≠ 0)
    (h : RootOf degree p whole bits) :
    ⌊Int.fract ((p : ℝ) ^ (1 / degree : ℝ)) * 2 ^ 32⌋₊ = bits.toNat := by
  have hnonneg : (0 : ℝ) ≤ bits.toNat := Nat.cast_nonneg _
  have hbits : (bits.toNat : ℝ) + 1 ≤ 2 ^ 32 := by exact_mod_cast bits.toNat_lt
  set r : ℝ := (p : ℝ) ^ (1 / degree : ℝ) with hr
  have hr0 : 0 ≤ r := Real.rpow_nonneg (Nat.cast_nonneg p) _
  have hpow : (r * 2 ^ 32) ^ degree = p * 2 ^ (32 * degree) := by
    rw [mul_pow, hr, one_div, Real.rpow_inv_natCast_pow (Nat.cast_nonneg p) hd, pow_mul]
  -- Powers are monotone, so the root lies between the two numbers whose powers enclose the prime.
  have hlow : (whole : ℝ) * 2 ^ 32 + bits.toNat ≤ r * 2 ^ 32 := by
    refine (pow_le_pow_iff_left₀ (by positivity) (by positivity) hd).mp ?_
    rw [hpow]
    exact_mod_cast h.1
  have hhigh : r * 2 ^ 32 < (whole : ℝ) * 2 ^ 32 + bits.toNat + 1 := by
    refine (pow_lt_pow_iff_left₀ (by positivity) (by positivity) hd).mp ?_
    rw [hpow]
    exact_mod_cast h.2
  have hfloor : ⌊r⌋ = whole := by
    rw [Int.floor_eq_iff, Int.cast_natCast]
    constructor <;> linarith
  have hfract : Int.fract r * 2 ^ 32 = r * 2 ^ 32 - whole * 2 ^ 32 := by
    rw [Int.fract, hfloor, Int.cast_natCast]
    ring
  rw [Nat.floor_eq_iff (mul_nonneg (Int.fract_nonneg r) (by positivity)), hfract]
  constructor <;> linarith

/-- The bits behind the point of a root are those of any number that comes so close. -/
theorem rootBits_eq {degree t whole : Nat} {bits : UInt32} (hd : degree ≠ 0) (ht : t < 64)
    (h : RootOf degree (primes.getD t 0) whole bits) : rootBits degree t = bits.toBitVec := by
  rw [rootBits, nth_prime ht, floor_fract_root hd h]
  exact (BitVec.ofNat_toNat 32 bits.toBitVec).trans (BitVec.setWidth_eq bits.toBitVec)

theorem roundConstants_roots :
    ∀ t < 64, ∃ whole < 7, RootOf 3 (primes.getD t 0) whole (roundConstants.getD t 0) := by
  decide +kernel

theorem initial_roots :
    ∀ t < 8, ∃ whole < 5, RootOf 2 (primes.getD t 0) whole (Chain.initial.words.getD t 0) := by
  decide +kernel

theorem roundConstants_getD {t : Nat} (ht : t < 64) :
    (roundConstants.getD t 0).toBitVec = rootBits 3 t := by
  obtain ⟨whole, -, hroot⟩ := roundConstants_roots t ht
  exact (rootBits_eq (by decide) ht hroot).symm

theorem initial_getD {t : Nat} (ht : t < 8) :
    (Chain.initial.words.getD t 0).toBitVec = rootBits 2 t := by
  obtain ⟨whole, -, hroot⟩ := initial_roots t ht
  exact (rootBits_eq (by decide) (by omega) hroot).symm

end VenueGateway.Digest
