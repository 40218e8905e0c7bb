import VenueGateway.Proofs.Digest.Roots

/-!
The digest that runs is the digest of the standard. Each function of words has its counterpart; the
schedule that is extended word by word holds the numbered words; so a block is folded in as the
standard folds it, and with the padding the whole message.
-/

namespace VenueGateway.Digest

open Standard

section Rounds

theorem toBitVec_rotate (x : UInt32) {n : UInt32} (h : 0 < n.toNat ∧ n.toNat < 32) :
    (rotate x n).toBitVec = x.toBitVec.rotateRight n.toNat := by
  have hright : (n.toBitVec % 32).toNat = n.toNat := Nat.mod_eq_of_lt h.2
  have hleft : ((32 - n).toBitVec % 32).toNat = 32 - n.toNat := by
    change (32 - n).toNat % 32 = _
    rw [UInt32.toNat_sub_of_le 32 n (UInt32.le_iff_toNat_le.mpr (Nat.le_of_lt h.2))]
    exact Nat.mod_eq_of_lt (Nat.sub_lt (by decide) h.1)
  rw [rotate, UInt32.toBitVec_or, UInt32.toBitVec_shiftRight, UInt32.toBitVec_shiftLeft,
    BitVec.ushiftRight_eq', BitVec.shiftLeft_eq', hright, hleft, BitVec.rotateRight_def,
    Nat.mod_eq_of_lt h.2]

theorem toBitVec_upperSigma0 (x : UInt32) :
    (rotate x 2 ^^^ rotate x 13 ^^^ rotate x 22).toBitVec = upperSigma0 x.toBitVec := by
  rw [UInt32.toBitVec_xor, UInt32.toBitVec_xor, toBitVec_rotate x (by decide),
    toBitVec_rotate x (by decide), toBitVec_rotate x (by decide)]
  rfl

theorem toBitVec_upperSigma1 (x : UInt32) :
    (rotate x 6 ^^^ rotate x 11 ^^^ rotate x 25).toBitVec = upperSigma1 x.toBitVec := by
  rw [UInt32.toBitVec_xor, UInt32.toBitVec_xor, toBitVec_rotate x (by decide),
    toBitVec_rotate x (by decide), toBitVec_rotate x (by decide)]
  rfl

theorem toBitVec_lowerSigma0 (x : UInt32) :
    (rotate x 7 ^^^ rotate x 18 ^^^ (x >>> 3)).toBitVec = lowerSigma0 x.toBitVec := by
  rw [UInt32.toBitVec_xor, UInt32.toBitVec_xor, toBitVec_rotate x (by decide),
    toBitVec_rotate x (by decide)]
  rfl

theorem toBitVec_lowerSigma1 (x : UInt32) :
    (rotate x 17 ^^^ rotate x 19 ^^^ (x >>> 10)).toBitVec = lowerSigma1 x.toBitVec := by
  rw [UInt32.toBitVec_xor, UInt32.toBitVec_xor, toBitVec_rotate x (by decide),
    toBitVec_rotate x (by decide)]
  rfl

def Chain.hash (x : Chain) : Hash :=
  ⟨x.a.toBitVec, x.b.toBitVec, x.c.toBitVec, x.d.toBitVec, x.e.toBitVec, x.f.toBitVec,
    x.g.toBitVec, x.h.toBitVec⟩

theorem hash_round (x : Chain) (k w : UInt32) :
    (round x (k, w)).hash = x.hash.round k.toBitVec w.toBitVec := by
  have hupper0 := toBitVec_upperSigma0 x.a
  have hupper1 := toBitVec_upperSigma1 x.e
  have hchoice : ((x.e &&& x.f) ^^^ (~~~x.e &&& x.g)).toBitVec =
    choice x.e.toBitVec x.f.toBitVec x.g.toBitVec := rfl
  have hmajority : ((x.a &&& x.b) ^^^ (x.a &&& x.c) ^^^ (x.b &&& x.c)).toBitVec =
      majority x.a.toBitVec x.b.toBitVec x.c.toBitVec := rfl
  simp only [round, Chain.hash, Hash.round, UInt32.toBitVec_add, hupper0, hupper1,
    hchoice, hmajority]

theorem hash_add (x y : Chain) : (x.add y).hash = y.hash.add x.hash := by
  simp only [Chain.add, Chain.hash, Hash.add, UInt32.toBitVec_add, BitVec.add_comm]

theorem hash_initial : Chain.initial.hash = Hash.initial := by
  refine Hash.ext (initial_getD (t := 0) ?_) (initial_getD (t := 1) ?_) (initial_getD (t := 2) ?_)
    (initial_getD (t := 3) ?_) (initial_getD (t := 4) ?_) (initial_getD (t := 5) ?_)
      (initial_getD (t := 6) ?_)
    (initial_getD (t := 7) ?_) <;> decide

end Rounds

section Schedule

variable (block : Nat → BitVec 32)

def scheduledWords (n : Nat) : List UInt32 :=
  (List.range n).map fun t => UInt32.ofBitVec (scheduled block t)

theorem scheduledWords_succ (n : Nat) :
    scheduledWords block (n + 1) = scheduledWords block n ++
      [UInt32.ofBitVec (scheduled block n)] := by
  rw [scheduledWords, List.range_succ, List.map_append]
  rfl

theorem scheduled_of_lt {t : Nat} (h : t < 16) : scheduled block t = block t := by
  rw [scheduled, if_pos h]

theorem scheduled_of_ge {t : Nat} (h : 16 ≤ t) :
    scheduled block t = lowerSigma1 (scheduled block (t - 2)) + scheduled block (t - 7) +
      lowerSigma0 (scheduled block (t - 15)) + scheduled block (t - 16) := by
  rw [scheduled, if_neg (Nat.not_lt.mpr h)]

theorem getD_reverse_scheduledWords {n i : Nat} (h : i < n) :
    (scheduledWords block n).reverse.getD i 0 = UInt32.ofBitVec (scheduled block (n - 1 - i)) := by
  have hlength : (scheduledWords block n).length = n := by
    rw [scheduledWords, List.length_map, List.length_range]
  rw [List.getD_eq_getElem?_getD, List.getElem?_reverse (by rwa [hlength]), hlength, scheduledWords,
    List.getElem?_map, List.getElem?_range (by omega)]
  rfl

/-- The next word is computed from those before it. -/
theorem nextWord_scheduledWords {n : Nat} (h : 16 ≤ n) :
    nextWord (scheduledWords block n).reverse = UInt32.ofBitVec (scheduled block n) := by
  refine UInt32.toBitVec_inj.mp ?_
  simp only [nextWord, UInt32.toBitVec_add, toBitVec_lowerSigma0, toBitVec_lowerSigma1]
  rw [getD_reverse_scheduledWords block (by omega), getD_reverse_scheduledWords block (by omega),
    getD_reverse_scheduledWords block (by omega), getD_reverse_scheduledWords block (by omega),
    scheduled_of_ge block h]
  simp only [Nat.sub_sub]
  ac_rfl

theorem extend_scheduledWords {n : Nat} (h : 16 ≤ n) (k : Nat) :
    extend (scheduledWords block n).reverse k = (scheduledWords block (n + k)).reverse := by
  induction k generalizing n with
  | zero => rfl
  | succ k ih =>
    have hnext : nextWord (scheduledWords block n).reverse :: (scheduledWords block n).reverse =
        (scheduledWords block (n + 1)).reverse := by
      rw [nextWord_scheduledWords block h, scheduledWords_succ, List.reverse_append]
      rfl
    rw [extend, hnext, ih (Nat.le_succ_of_le h), Nat.succ_add, Nat.add_succ]

theorem schedule_eq : schedule (scheduledWords block 16) = scheduledWords block 64 := by
  rw [schedule, extend_scheduledWords block (Nat.le_refl 16), List.reverse_reverse]

end Schedule

section Blocks

variable (block : Nat → BitVec 32)

/-- Rounds, one after another. -/
theorem hash_foldl_round (x : Chain) {n : Nat} (hn : n ≤ 64) :
    (((List.range n).map fun t =>
      (roundConstants.getD t 0, UInt32.ofBitVec (scheduled block t))).foldl round x).hash =
      x.hash.rounds block n := by
  induction n with
  | zero => rfl
  | succ n ih =>
    rw [List.range_succ, List.map_append, List.foldl_append]
    change (round _ (_, _)).hash = _
    rw [hash_round, ih (Nat.le_of_succ_le hn), roundConstants_getD hn,
      UInt32.toBitVec_ofBitVec, Hash.rounds]

theorem hash_compress (x : Chain) :
    (compress x (scheduledWords block 16)).hash = (x.hash.rounds block 64).add x.hash := by
  have hzip : roundConstants.zip (scheduledWords block 64) =
      (List.range 64).map fun t =>
        (roundConstants.getD t 0, UInt32.ofBitVec (scheduled block t)) := by
    have hconstants : roundConstants = (List.range 64).map fun t => roundConstants.getD t 0 := rfl
    rw [scheduledWords, ← List.zip_map', ← hconstants]
  rw [compress, schedule_eq, hzip, hash_add, hash_foldl_round block x (Nat.le_refl 64)]

/-- The sixteen words of a block are words of the message. -/
theorem take_words {message : List Bool} {n i : Nat} (h : i < n) :
    (((List.range (16 * n)).map fun j => UInt32.ofBitVec (wordAt 32 message (32 * j))).drop
      (16 * i)).take 16 =
      scheduledWords (blockWord message i) 16 := by
  refine List.ext_getElem? fun t => ?_
  rw [List.getElem?_take, List.getElem?_drop, List.getElem?_map, scheduledWords, List.getElem?_map]
  by_cases ht : t < 16
  · have hplace : 32 * (16 * i + t) = 512 * i + 32 * t := by omega
    rw [if_pos ht, List.getElem?_range (by omega), List.getElem?_range ht, Option.map_some,
      Option.map_some, scheduled_of_lt _ ht, hplace]
    rfl
  · rw [if_neg ht, List.getElem?_eq_none (by simpa using ht)]
    rfl

/-- A padded message is folded in block by block. -/
theorem hash_chain {message : List Bool} {n : Nat} {words : List UInt32}
    (hwords : words = (List.range (16 * n)).map fun j =>
      UInt32.ofBitVec (wordAt 32 message (32 * j)))
    {x : Chain} {i k : Nat} (hx : x.hash = Hash.after message i) (hn : i + k = n) :
    (chain x (words.drop (16 * i))).hash = Hash.after message n := by
  have hlength : ∀ i, (words.drop (16 * i)).length = 16 * n - 16 * i := fun i => by
    rw [List.length_drop, hwords, List.length_map, List.length_range]
  -- The induction is on the number of blocks that are left.
  induction k generalizing x i with
  | zero =>
    obtain rfl : i = n := hn
    rw [chain, if_pos (by rw [hlength]; omega), hx]
  | succ k ih =>
    have hblock : (words.drop (16 * i)).take 16 = scheduledWords (blockWord message i) 16 := by
      rw [hwords]
      exact take_words (by omega)
    have hrest : (words.drop (16 * i)).drop 16 = words.drop (16 * (i + 1)) := by
      rw [List.drop_drop, Nat.mul_succ]
    rw [chain, if_neg (by rw [hlength]; omega), hblock, hrest]
    refine ih ?_ (by omega)
    rw [hash_compress, hx]
    rfl

end Blocks

section Padding

theorem fill_eq (length : Nat) : fill (8 * length) = 7 + 8 * fillLength length := by
  rw [fill, Nat.find_eq_iff]
  unfold Nat.ModEq fillLength
  constructor
  · omega
  · intro k hk
    omega

theorem getMsbD_ofNat {w n i : Nat} (h : i < w) :
    (BitVec.ofNat w n).getMsbD i = n.testBit (w - 1 - i) := by
  have hlt : w - 1 - i < w := by omega
  rw [BitVec.getMsbD_eq_getLsbD, decide_eq_true h, Bool.true_and, BitVec.getLsbD_ofNat,
    decide_eq_true hlt, Bool.true_and]

/-- The bits of a length are those of its bytes. -/
theorem bitsOfBytes_lengthBytes (n : Nat) :
    bitsOfBytes (lengthBytes n) = bitsOf (BitVec.ofNat 64 n) := by
  have hplaces : List.range 64 = (List.range 8).flatMap fun i =>
    (List.range 8).map fun j => 8 * i + j := rfl
  rw [bitsOf_eq_map, hplaces, List.map_flatMap, bitsOfBytes, lengthBytes, List.flatMap_map]
  refine List.flatMap_congr fun i hi => ?_
  rw [bitsOf_eq_map, List.map_map]
  refine List.map_congr_left fun j hj => ?_
  rw [List.mem_range] at hi hj
  have hplace : 8 * (7 - i) + (7 - j) = 63 - (8 * i + j) := by omega
  rw [Function.comp_apply, getMsbD_ofNat (by omega), ← hplace, ← Nat.testBit_shiftRight]
  exact getMsbD_ofNat hj

theorem bitsOfBytes_pad (message : List UInt8) :
    bitsOfBytes (pad message) = padded (bitsOfBytes message) := by
  have hmark : bitsOf (0x80 : UInt8).toBitVec = true :: List.replicate 7 false := by decide
  rw [pad, padded, length_bitsOfBytes, fill_eq, bitsOfBytes_append, bitsOfBytes_cons,
    bitsOfBytes_append, bitsOfBytes_replicate_zero, bitsOfBytes_lengthBytes, hmark,
    List.cons_append, ← List.append_assoc (List.replicate 7 false), List.replicate_append_replicate]

/-- A padded message is made of whole blocks. -/
theorem dvd_length_pad (message : List UInt8) : 64 ∣ (pad message).length := by
  simp only [pad, List.length_append, List.length_cons, List.length_replicate, lengthBytes,
    List.length_map, List.length_range, fillLength]
  omega

end Padding

/-- The bits of a digest are those of its words. -/
theorem bitsOfBytes_words (x : Chain) :
    bitsOfBytes (x.words.flatMap bytesOfWord) = x.hash.bits := by
  simp only [Chain.words, List.flatMap_cons, List.flatMap_nil, bitsOfBytes_append,
    bitsOfBytes_bytesOfWord, List.append_nil, Hash.bits, Chain.hash, List.append_assoc]

/-- The digest of bytes is the one of the standard. -/
theorem sha256_eq_standard (message : List UInt8) : sha256 message = Standard.sha256 message := by
  obtain ⟨n, hn⟩ := dvd_length_pad message
  have hwhole : 4 ∣ (pad message).length := by omega
  have hwords := wordsOfBytes_eq hwhole
  have hcount : (pad message).length / 4 = 16 * n := by omega
  rw [bitsOfBytes_pad, hcount] at hwords
  have hblocks : (padded (bitsOfBytes message)).length / 512 = n := by
    rw [← bitsOfBytes_pad, length_bitsOfBytes, hn]
    omega
  have hchain := hash_chain hwords (x := .initial) (i := 0) hash_initial (Nat.zero_add n)
  have hbits : bitsOfBytes (sha256 message) = digest (bitsOfBytes message) := by
    rw [sha256, bitsOfBytes_words, digest, hblocks]
    exact congrArg Hash.bits hchain
  rw [Standard.sha256, ← hbits, bytesOfBits_bitsOfBytes]

/-- The digest of the letters abc. -/
example : sha256 [0x61, 0x62, 0x63] =
    [0xba, 0x78, 0x16, 0xbf, 0x8f, 0x01, 0xcf, 0xea, 0x41, 0x41, 0x40, 0xde, 0x5d, 0xae, 0x22,
      0x23, 0xb0, 0x03, 0x61, 0xa3, 0x96, 0x17, 0x7a, 0x9c, 0xb4, 0x10, 0xff, 0x61, 0xf2, 0x00,
      0x15, 0xad] := by
  decide +kernel

end VenueGateway.Digest
