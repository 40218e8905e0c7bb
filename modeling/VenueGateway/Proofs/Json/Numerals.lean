import VenueGateway.Json.Real
import VenueGateway.Proofs.Binary64.Shortest
import VenueGateway.Proofs.Json.Tokens

/-!
The numerals that are written for integers and for floating-point numbers are such as JSON allows,
in positional notation as in scientific.
-/

namespace VenueGateway.Json

open Binary64 (Scientific)

namespace Numeral

theorem digits_eq_zero_or (n : Nat) :
    Text.digits n = ['0'] ∨ Text.digits n ≠ [] ∧ (Text.digits n).head? ≠ some '0' := by
  rcases Nat.eq_zero_or_pos n with rfl | h
  · exact .inl (by rw [Text.digits]; rfl)
  · exact .inr ⟨Text.digits_ne_nil n, Text.head?_digits h⟩

/-- Digits alone, or behind a minus sign, are a numeral. -/
theorem wellFormed_digits (negative : Bool) (n : Nat) :
    WellFormed { negative, whole := Text.digits n } where
  whole := digits_eq_zero_or n
  wholeDigits _ h := Text.isDigit_of_mem_digits h
  fractionDigits := nofun
  exponentDigits := nofun

theorem wellFormed_ofInt (n : Int) : (ofInt n).WellFormed := by
  cases n with
  | ofNat n => exact wellFormed_digits false n
  | negSucc n => exact wellFormed_digits true (n + 1)

theorem exponentDigits_ofInt (e : Int) :
    (Exponent.ofInt e).digits ≠ [] ∧ ∀ c ∈ (Exponent.ofInt e).digits, c.isDigit = true := by
  cases e with
  | ofNat n => exact ⟨Text.digits_ne_nil n, fun _ h => Text.isDigit_of_mem_digits h⟩
  | negSucc n => exact ⟨Text.digits_ne_nil (n + 1), fun _ h => Text.isDigit_of_mem_digits h⟩

end Numeral

section Positional

variable {s : Scientific}

theorem isDigit_of_mem_replicate {n : Nat} {c : Char} (h : c ∈ List.replicate n '0') :
    c.isDigit = true := by
  obtain rfl := List.eq_of_mem_replicate h
  decide

theorem isDigit_of_mem_wholeDigits (hs : s.WellFormed) {c : Char} (h : c ∈ s.wholeDigits) :
    c.isDigit = true := by
  unfold Scientific.wholeDigits at h
  split at h
  · obtain rfl := List.mem_singleton.mp h
    decide
  · rcases List.mem_append.mp (List.mem_of_mem_take h) with h | h
    · exact hs.isDigit c h
    · exact isDigit_of_mem_replicate h

theorem isDigit_of_mem_fractionDigits (hs : s.WellFormed) {c : Char} (h : c ∈ s.fractionDigits) :
    c.isDigit = true := by
  unfold Scientific.fractionDigits at h
  split at h
  · rcases List.mem_append.mp h with h | h
    · exact isDigit_of_mem_replicate h
    · exact hs.isDigit c h
  · exact hs.isDigit c (List.mem_of_mem_drop h)

/-- The whole part begins with the first of the digits, and nought has no other. -/
theorem wholeDigits_eq_zero_or (hs : s.WellFormed) :
    s.wholeDigits = ['0'] ∨ s.wholeDigits ≠ [] ∧ s.wholeDigits.head? ≠ some '0' := by
  by_cases hzero : s.digits.head? = some '0'
  · rw [hs.leading hzero]
    exact .inl (by decide)
  · unfold Scientific.wholeDigits
    split
    · exact .inl rfl
    · obtain ⟨d, ds, hdigits⟩ := List.exists_cons_of_ne_nil hs.nonempty
      rw [hdigits] at hzero ⊢
      exact .inr ⟨by simp, by simpa using hzero⟩

/-- Shortest digits make a numeral that JSON allows. -/
theorem Numeral.wellFormed_ofScientific (negative : Bool) (hs : s.WellFormed) :
    (ofScientific negative s).WellFormed := by
  unfold ofScientific
  split
  · refine ⟨wholeDigits_eq_zero_or hs, fun c h => isDigit_of_mem_wholeDigits hs h,
      fun c h => ?_, nofun⟩
    dsimp only at h
    split at h
    · obtain rfl := List.mem_singleton.mp h
      decide
    · exact isDigit_of_mem_fractionDigits hs h
  · refine ⟨?_, fun c h => hs.isDigit c (List.mem_of_mem_take h),
      fun c h => hs.isDigit c (List.mem_of_mem_drop h), ?_⟩
    · obtain ⟨d, ds, hdigits⟩ := List.exists_cons_of_ne_nil hs.nonempty
      dsimp only
      rw [hdigits, List.take_succ_cons, List.take_zero]
      by_cases hd : d = '0'
      · exact .inl (by rw [hd])
      · exact .inr ⟨List.cons_ne_nil _ _, fun h => hd (Option.some.inj h)⟩
    · intro e he
      obtain rfl := Option.some.inj he
      exact exponentDigits_ofInt s.exponent

end Positional

end VenueGateway.Json
