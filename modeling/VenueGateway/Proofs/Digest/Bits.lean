import Mathlib.Data.List.GetD
import VenueGateway.Digest.Sha256

/-!
Strings of bits, the highest bit of a byte or of a word first. A string that is put together from
words of one width gives them back at their places; so the words of a byte sequence are read off its
bits, whatever shifts they are computed with.
-/

namespace VenueGateway.Digest

variable {w v : Nat}

def bitsOf (x : BitVec w) : List Bool := List.ofFn x.getMsb

/-- The word whose bits stand in a string from a place on, the highest first. -/
def wordAt (w : Nat) (bits : List Bool) (start : Nat) : BitVec w :=
  (BitVec.ofBoolListBE ((bits.drop start).take w)).setWidth w

def bitsOfBytes (bytes : List UInt8) : List Bool := bytes.flatMap fun b => bitsOf b.toBitVec

def bytesOfBits (bits : List Bool) : List UInt8 :=
  (List.range (bits.length / 8)).map fun i => UInt8.ofBitVec (wordAt 8 bits (8 * i))

section Strings

@[simp] theorem length_bitsOf (x : BitVec w) : (bitsOf x).length = w := List.length_ofFn

@[simp] theorem getElem_bitsOf (x : BitVec w) {i : Nat} (h : i < (bitsOf x).length) :
    (bitsOf x)[i] = x.getMsbD i := by
  rw [length_bitsOf] at h
  simp only [bitsOf, List.getElem_ofFn, BitVec.getMsb, BitVec.getMsbD, h,
    decide_true, Bool.true_and]
  rw [BitVec.getLsb_eq_getElem, BitVec.getLsbD_eq_getElem]
  rfl

theorem bitsOf_eq_map (x : BitVec w) : bitsOf x = (List.range w).map fun i => x.getMsbD i :=
  List.ext_getElem (by simp) fun i _ _ => by simp

/-- The word at a place does not depend on what stands before it. -/
theorem wordAt_append_right (front bits : List Bool) (start : Nat) :
    wordAt w (front ++ bits) (front.length + start) = wordAt w bits start := by
  have hdrop : (front ++ bits).drop (front.length + start) = bits.drop start := by
    rw [← List.drop_drop, List.drop_left]
  rw [wordAt, wordAt, hdrop]

theorem wordAt_bitsOf (x : BitVec w) (rest : List Bool) : wordAt w (bitsOf x ++ rest) 0 = x := by
  refine BitVec.eq_of_getLsbD_eq fun i hi => ?_
  have htake : ((bitsOf x ++ rest).drop 0).take w = bitsOf x := List.take_left' (length_bitsOf x)
  have hlt : w - 1 - i < w := by omega
  have hback : w - 1 - (w - 1 - i) = i := by omega
  rw [wordAt, htake, BitVec.getLsbD_setWidth, BitVec.getLsbD_ofBoolListBE, length_bitsOf,
    decide_eq_true hi, Bool.true_and, Bool.true_and,
    List.getD_eq_getElem _ _ (by rwa [length_bitsOf]), getElem_bitsOf, BitVec.getMsbD_eq_getLsbD,
    decide_eq_true hlt, Bool.true_and, hback]

/-- A string of words gives back each of them. -/
theorem wordAt_flatMap {α : Type} (f : α → BitVec w) {xs : List α} {j : Nat} {x : α}
    (h : xs[j]? = some x) :
    wordAt w (xs.flatMap fun x => bitsOf (f x)) (w * j) = f x := by
  induction xs generalizing j with
  | nil => cases h
  | cons y xs ih =>
    rw [List.flatMap_cons]
    cases j with
    | zero =>
      obtain rfl := Option.some.inj h
      exact wordAt_bitsOf (f y) _
    | succ j =>
      have hplace : w * (j + 1) = (bitsOf (f y)).length + w * j := by
        rw [length_bitsOf, Nat.mul_succ, Nat.add_comm]
      rw [hplace, wordAt_append_right]
      exact ih h

theorem length_flatMap_bitsOf {α : Type} (f : α → BitVec w) (xs : List α) :
    (xs.flatMap fun x => bitsOf (f x)).length = w * xs.length := by
  induction xs with
  | nil => rfl
  | cons x xs ih =>
    rw [List.flatMap_cons, List.length_append, ih, length_bitsOf, List.length_cons,
      Nat.mul_succ, Nat.add_comm]

/-- A string of words, cut where they meet. -/
theorem map_wordAt_flatMap {α : Type} (f : α → BitVec w) (xs : List α) :
    ((List.range xs.length).map fun i => wordAt w (xs.flatMap fun x => bitsOf (f x)) (w * i)) =
      xs.map f := by
  refine List.ext_getElem? fun i => ?_
  rw [List.getElem?_map, List.getElem?_map]
  cases hx : xs[i]? with
  | none =>
    rw [List.getElem?_eq_none (by simpa using hx)]
    rfl
  | some x =>
    rw [List.getElem?_range (List.getElem?_eq_some_iff.mp hx).1, Option.map_some,
      wordAt_flatMap f hx]
    rfl

theorem bitsOf_append (x : BitVec v) (y : BitVec w) : bitsOf (x ++ y) = bitsOf x ++ bitsOf y := by
  refine List.ext_getElem (by simp) fun i _ _ => ?_
  rw [getElem_bitsOf, BitVec.getMsbD_append, List.getElem_append]
  simp only [length_bitsOf]
  by_cases hi : i < v
  · rw [dif_pos hi, if_neg (Nat.not_le_of_lt hi), getElem_bitsOf]
  · rw [dif_neg hi, if_pos (Nat.le_of_not_lt hi), getElem_bitsOf]

theorem toNat_append (x : BitVec v) (y : BitVec w) : (x ++ y).toNat = x.toNat <<< w + y.toNat := by
  rw [BitVec.toNat_append, ← Nat.shiftLeft_add_eq_or_of_lt y.isLt]

end Strings

section Bytes

theorem length_bitsOfBytes (bytes : List UInt8) : (bitsOfBytes bytes).length = 8 * bytes.length :=
  length_flatMap_bitsOf _ bytes

theorem bitsOfBytes_append (bytes more : List UInt8) :
    bitsOfBytes (bytes ++ more) = bitsOfBytes bytes ++ bitsOfBytes more :=
  List.flatMap_append

theorem bitsOfBytes_cons (b : UInt8) (bytes : List UInt8) :
    bitsOfBytes (b :: bytes) = bitsOf b.toBitVec ++ bitsOfBytes bytes :=
  List.flatMap_cons

theorem bitsOfBytes_replicate_zero (k : Nat) :
    bitsOfBytes (List.replicate k 0) = List.replicate (8 * k) false := by
  induction k with
  | zero => rfl
  | succ k ih =>
    have hzero : bitsOf (0 : UInt8).toBitVec = List.replicate 8 false := by decide
    rw [List.replicate_succ, bitsOfBytes_cons, ih, hzero, List.replicate_append_replicate,
      Nat.mul_succ, Nat.add_comm]

theorem bytesOfBits_bitsOfBytes (bytes : List UInt8) : bytesOfBits (bitsOfBytes bytes) = bytes := by
  have hcut := congrArg (List.map UInt8.ofBitVec) (map_wordAt_flatMap UInt8.toBitVec bytes)
  rw [List.map_map, List.map_map] at hcut
  rw [bytesOfBits, length_bitsOfBytes, Nat.mul_div_cancel_left _ (by decide)]
  exact hcut.trans (List.map_id bytes)

end Bytes

section Words

/-- The word of four bytes is the number that they are as digits. -/
theorem toNat_wordOfBytes (a b c d : UInt8) :
    (wordOfBytes a b c d).toNat = ((a.toNat * 256 + b.toNat) * 256 + c.toNat) * 256 + d.toNat := by
  have ha := a.toNat_lt
  have hb := b.toNat_lt
  have hc := c.toNat_lt
  have hd := d.toNat_lt
  have hcd : c.toNat <<< 8 + d.toNat < 2 ^ 16 := by rw [Nat.shiftLeft_eq]; omega
  have hbcd : b.toNat <<< 16 + (c.toNat <<< 8 + d.toNat) < 2 ^ 24 := by rw [Nat.shiftLeft_eq]; omega
  have hword : (wordOfBytes a b c d).toNat =
      a.toNat <<< 24 % 2 ^ 32 ||| b.toNat <<< 16 % 2 ^ 32 ||| c.toNat <<< 8 % 2 ^
        32 ||| d.toNat := by
    simp only [wordOfBytes, UInt32.toNat_or, UInt32.toNat_shiftLeft, UInt8.toNat_toUInt32]
    rfl
  have hshift : ∀ {n : Nat} (s : Nat), n < 2 ^ 8 → s ≤ 24 → n <<< s % 2 ^ 32 = n <<< s :=
      fun {n} s hn hs => by
    refine Nat.mod_eq_of_lt ?_
    calc n <<< s = n * 2 ^ s := Nat.shiftLeft_eq n s
      _ ≤ n * 2 ^ 24 := Nat.mul_le_mul_left n (Nat.pow_le_pow_right (by decide) hs)
      _ < 2 ^ 32 := by omega
  -- Behind each shift there is room for what follows, so that the words are joined without a carry.
  rw [hword, hshift 24 ha (by decide), hshift 16 hb (by decide), hshift 8 hc (by decide),
    Nat.or_assoc, Nat.or_assoc, ← Nat.shiftLeft_add_eq_or_of_lt hd,
    ← Nat.shiftLeft_add_eq_or_of_lt hcd, ← Nat.shiftLeft_add_eq_or_of_lt hbcd, Nat.shiftLeft_eq,
    Nat.shiftLeft_eq, Nat.shiftLeft_eq]
  omega

theorem bitsOf_wordOfBytes (a b c d : UInt8) :
    bitsOf (wordOfBytes a b c d).toBitVec = bitsOfBytes [a, b, c, d] := by
  have hword : (wordOfBytes a b c d).toBitVec = a.toBitVec ++ b.toBitVec ++ c.toBitVec ++
      d.toBitVec := by
    refine BitVec.eq_of_toNat_eq ?_
    rw [UInt32.toNat_toBitVec, toNat_wordOfBytes]
    refine Eq.symm ((toNat_append _ d.toBitVec).trans ?_)
    rw [toNat_append, toNat_append, Nat.shiftLeft_eq, Nat.shiftLeft_eq, Nat.shiftLeft_eq]
    rfl
  rw [hword, bitsOf_append, bitsOf_append, bitsOf_append]
  simp [bitsOfBytes]

theorem wordOfBytes_bytesOfWord (x : UInt32) :
    wordOfBytes (x >>> 24).toUInt8 (x >>> 16).toUInt8 (x >>> 8).toUInt8 x.toUInt8 = x := by
  have hx := x.toNat_lt
  refine UInt32.toNat_inj.mp ?_
  rw [toNat_wordOfBytes]
  simp only [UInt32.toNat_toUInt8, UInt32.toNat_shiftRight, UInt32.reduceToNat, Nat.reduceMod,
    Nat.shiftRight_eq_div_pow]
  omega

/-- The bytes of a word have its bits. -/
theorem bitsOfBytes_bytesOfWord (x : UInt32) : bitsOfBytes (bytesOfWord x) = bitsOf x.toBitVec := by
  rw [bytesOfWord, ← bitsOf_wordOfBytes, wordOfBytes_bytesOfWord]

/-- What is left over when no word can be read. -/
theorem wordsOfBytes_of_short {bytes : List UInt8}
    (h : ∀ a b c d rest, bytes = a :: b :: c :: d :: rest → False) :
    wordsOfBytes bytes = [] ∧ bytes.length < 4 := by
  match bytes, h with
  | [], _ | [_], _ | [_, _], _ | [_, _, _], _ => exact ⟨rfl, by simp⟩
  | a :: b :: c :: d :: rest, h => exact (h a b c d rest rfl).elim

theorem length_wordsOfBytes (bytes : List UInt8) :
    (wordsOfBytes bytes).length = bytes.length / 4 := by
  induction bytes using wordsOfBytes.induct with
  | case1 a b c d rest ih =>
    rw [wordsOfBytes, List.length_cons, ih]
    simp only [List.length_cons]
    omega
  | case2 bytes hshort =>
    obtain ⟨hnone, hlength⟩ := wordsOfBytes_of_short hshort
    rw [hnone, Nat.div_eq_of_lt hlength]
    rfl

/-- The words of a byte sequence have its bits. -/
theorem flatMap_wordsOfBytes {bytes : List UInt8} (h : 4 ∣ bytes.length) :
    ((wordsOfBytes bytes).flatMap fun x => bitsOf x.toBitVec) = bitsOfBytes bytes := by
  induction bytes using wordsOfBytes.induct with
  | case1 a b c d rest ih =>
    have hrest : 4 ∣ rest.length := by simp only [List.length_cons] at h; omega
    rw [wordsOfBytes, List.flatMap_cons, ih hrest, bitsOf_wordOfBytes, ← bitsOfBytes_append]
    rfl
  | case2 bytes hshort =>
    obtain ⟨hnone, hlength⟩ := wordsOfBytes_of_short hshort
    have hnil : bytes = [] := List.eq_nil_of_length_eq_zero (Nat.eq_zero_of_dvd_of_lt h hlength)
    rw [hnone, hnil]
    rfl

/-- The words of a byte sequence stand in its bits one behind the other. -/
theorem wordsOfBytes_eq {bytes : List UInt8} (h : 4 ∣ bytes.length) :
    wordsOfBytes bytes =
      (List.range (bytes.length / 4)).map fun j =>
        UInt32.ofBitVec (wordAt 32 (bitsOfBytes bytes) (32 * j)) := by
  have hcut :=
    congrArg (List.map UInt32.ofBitVec) (map_wordAt_flatMap UInt32.toBitVec (wordsOfBytes bytes))
  rw [List.map_map, List.map_map, length_wordsOfBytes, flatMap_wordsOfBytes h] at hcut
  exact (List.map_id (wordsOfBytes bytes)).symm.trans hcut.symm

end Words

end VenueGateway.Digest
