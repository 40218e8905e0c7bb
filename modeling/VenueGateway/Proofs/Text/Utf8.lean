import VenueGateway.Text.Utf8

/-!
Texts and their bytes. The first byte of a character tells how many follow, so a text is read back
from its bytes. A character with a larger number has the larger bytes from the first place on where
the two differ, so texts that are compared by the numbers of their characters are compared by their
bytes.
-/

namespace VenueGateway.Text

open String (utf8EncodeChar)

theorem toList_loop (bs : ByteArray) (i : Nat) (r : List UInt8) :
    ByteArray.toList.loop bs i r = r.reverse ++ bs.data.toList.drop i := by
  fun_induction ByteArray.toList.loop bs i r with
  | case1 i r h ih =>
    have hi : i < bs.data.toList.length := by simpa using h
    rw [ih, List.drop_eq_getElem_cons hi]
    simp [ByteArray.get!, h]
  | case2 i r h =>
    have hi : bs.data.toList.length ≤ i := by simpa using Nat.le_of_not_lt h
    rw [List.drop_eq_nil_of_le hi, List.append_nil]

/-- The bytes of a text are those of its characters. -/
theorem bytes_eq (s : String) : bytes s = s.toList.flatMap utf8EncodeChar := by
  have hbytes : s.toUTF8 = (s.toList.flatMap utf8EncodeChar).toByteArray :=
    String.utf8Encode_toList.symm
  rw [bytes, hbytes, ByteArray.toList, toList_loop]
  simp

theorem toNat_val_lt (c : Char) : c.val.toNat < 0x110000 := by
  have hvalid : c.val.toNat < 0xD800 ∨ 0xDFFF < c.val.toNat ∧ c.val.toNat < 0x110000 := c.valid
  omega

section Reading

theorem between_iff {n : Nat} (h : n < 0x100) (low high : UInt8) :
    low ≤ .ofNat n ∧ .ofNat n < high ↔ low.toNat ≤ n ∧ n < high.toNat := by
  rw [UInt8.le_iff_toNat_le, UInt8.lt_iff_toNat_lt, UInt8.toNat_ofNat_of_lt' h]

/-- A byte behind the first holds a digit to the base 64. -/
theorem continuation?_ofNat (n : Nat) :
    continuation? (.ofNat (n % 0x40 + 0x80)) = some (n % 0x40) := by
  have hbyte : n % 0x40 + 0x80 < 0x100 := by omega
  rw [continuation?, if_pos ((between_iff hbyte _ _).mpr ⟨by simp, by simp; omega⟩),
    UInt8.toNat_ofNat_of_lt' hbyte, Nat.add_sub_cancel]

theorem two?_ofNat {m : Nat} (h : m < 0x20) (n : Nat) :
    two? (.ofNat (m + 0xC0)) (.ofNat (n % 0x40 + 0x80)) = scalar? 0x80 (m * 0x40 + n % 0x40) := by
  have hbyte : m + 0xC0 < 0x100 := by omega
  rw [two?, if_pos ((between_iff hbyte _ _).mpr ⟨by simp, by simp; omega⟩),
    UInt8.toNat_ofNat_of_lt' hbyte, Nat.add_sub_cancel, continuation?_ofNat]
  rfl

theorem three?_ofNat {m : Nat} (h : m < 0x10) (n k : Nat) :
    three? (.ofNat (m + 0xE0)) (.ofNat (n % 0x40 + 0x80)) (.ofNat (k % 0x40 + 0x80)) =
      scalar? 0x800 ((m * 0x40 + n % 0x40) * 0x40 + k % 0x40) := by
  have hbyte : m + 0xE0 < 0x100 := by omega
  rw [three?, if_pos ((between_iff hbyte _ _).mpr ⟨by simp, by simp; omega⟩),
    UInt8.toNat_ofNat_of_lt' hbyte, Nat.add_sub_cancel, continuation?_ofNat, continuation?_ofNat]
  rfl

theorem four?_ofNat {m : Nat} (h : m < 0x08) (n k l : Nat) :
    four? (.ofNat (m + 0xF0)) (.ofNat (n % 0x40 + 0x80)) (.ofNat (k % 0x40 + 0x80))
      (.ofNat (l % 0x40 + 0x80)) =
      scalar? 0x10000 (((m * 0x40 + n % 0x40) * 0x40 + k % 0x40) * 0x40 + l % 0x40) := by
  have hbyte : m + 0xF0 < 0x100 := by omega
  rw [four?, if_pos ((between_iff hbyte _ _).mpr ⟨by simp, by simp; omega⟩),
    UInt8.toNat_ofNat_of_lt' hbyte, Nat.add_sub_cancel, continuation?_ofNat, continuation?_ofNat,
    continuation?_ofNat]
  rfl

/-- A first byte of three or more does not begin two. -/
theorem two?_of_le {a : UInt8} (h : 0xE0 ≤ a) (b : UInt8) : two? a b = none :=
  if_neg fun hrange => UInt8.not_lt.mpr h hrange.2

/-- A first byte of four does not begin three. -/
theorem three?_of_le {a : UInt8} (h : 0xF0 ≤ a) (b c : UInt8) : three? a b c = none :=
  if_neg fun hrange => UInt8.not_lt.mpr h hrange.2

theorem scalar?_char {c : Char} {least n : Nat} (hn : n = c.val.toNat) (hleast : least ≤ n) :
    scalar? least n = some c := by
  subst hn
  rw [scalar?, if_pos ⟨hleast, c.valid⟩]
  exact congrArg some c.ofNat_toNat

theorem le_byte {m n : Nat} {a : UInt8} (ha : a.toNat ≤ n) (h : m + n < 0x100) :
    a ≤ .ofNat (m + n) := by
  rw [UInt8.le_iff_toNat_le, UInt8.toNat_ofNat_of_lt' h]
  exact Nat.le_add_left_of_le ha

section Symbols

variable {a b c d : UInt8} {ch : Char} {rest : List UInt8}

theorem symbol_one (h : a < 0x80) : symbol a rest = (some (Char.ofNat a.toNat), rest) := by
  rw [symbol.eq_def, if_pos h]

theorem symbol_two (ha : 0x80 ≤ a) (h : two? a b = some ch) :
    symbol a (b :: rest) = (some ch, rest) := by
  rw [symbol.eq_def, if_neg (UInt8.not_lt.mpr ha)]
  simp [h]

theorem symbol_three (ha : 0xE0 ≤ a) (h : three? a b c = some ch) :
    symbol a (b :: c :: rest) = (some ch, rest) := by
  rw [symbol.eq_def, if_neg (UInt8.not_lt.mpr (UInt8.le_trans (by decide) ha))]
  simp [two?_of_le ha, h]

theorem symbol_four (ha : 0xF0 ≤ a) (h : four? a b c d = some ch) :
    symbol a (b :: c :: d :: rest) = (some ch, rest) := by
  rw [symbol.eq_def, if_neg (UInt8.not_lt.mpr (UInt8.le_trans (by decide) ha))]
  simp [two?_of_le (UInt8.le_trans (by decide) ha), three?_of_le ha, h]

end Symbols

/-- A character is read from its bytes, whatever follows them. -/
theorem symbol_utf8EncodeChar (c : Char) (rest : List UInt8) :
    ∃ a as, utf8EncodeChar c = a :: as ∧ symbol a (as ++ rest) = (some c, rest) := by
  have hc := toNat_val_lt c
  unfold utf8EncodeChar
  generalize hv : c.val.toNat = v at hc
  dsimp only
  split
  · next h =>
    have hbyte : (UInt8.ofNat v).toNat = v :=
      UInt8.toNat_ofNat_of_lt' (Nat.lt_of_le_of_lt h (by decide))
    have hlow : UInt8.ofNat v < 0x80 := by
      rw [UInt8.lt_iff_toNat_lt, hbyte]
      exact Nat.lt_succ_of_le h
    refine ⟨_, _, rfl, (symbol_one hlow).trans ?_⟩
    rw [hbyte, ← hv]
    exact congrArg (some · , rest) c.ofNat_toNat
  split
  · refine ⟨_, _, rfl, symbol_two (le_byte (by decide) (by omega)) ?_⟩
    rw [two?_ofNat (by omega)]
    exact scalar?_char (by omega) (by omega)
  split
  · refine ⟨_, _, rfl, symbol_three (le_byte (by decide) (by omega)) ?_⟩
    rw [three?_ofNat (by omega)]
    exact scalar?_char (by omega) (by omega)
  · refine ⟨_, _, rfl, symbol_four (le_byte (by decide) (by omega)) ?_⟩
    rw [four?_ofNat (by omega)]
    exact scalar?_char (by omega) (by omega)

/-- The bytes of a text are read as its characters. -/
theorem symbols_bytes (s : String) : symbols (bytes s) = symbolsOf s := by
  rw [bytes_eq, symbolsOf]
  induction s.toList with
  | nil => rw [List.flatMap_nil, symbols]; rfl
  | cons c cs ih =>
    obtain ⟨a, as, hbytes, hsymbol⟩ := symbol_utf8EncodeChar c (cs.flatMap utf8EncodeChar)
    rw [List.flatMap_cons, hbytes, List.cons_append, symbols, hsymbol, ih]
    rfl

end Reading

section Order

/-- The bytes of a character tell its order whatever follows them. -/
theorem utf8EncodeChar_append_lt {c d : Char} (h : c < d) (s t : List UInt8) :
    utf8EncodeChar c ++ s < utf8EncodeChar d ++ t := by
  have hlt : c.val.toNat < d.val.toNat := h
  have hc := toNat_val_lt c
  have hd := toNat_val_lt d
  unfold utf8EncodeChar
  dsimp only
  -- One case for each two lengths: the longer form begins with the larger byte, and forms of one
  -- length hold the digits of the two numbers to the base 64.
  repeat' split
  all_goals
    simp (disch := omega) only [List.cons_append, List.nil_append, List.cons_lt_cons_iff,
      UInt8.lt_iff_toNat_lt, ← UInt8.toNat_inj, UInt8.toNat_ofNat', Nat.mod_eq_of_lt]
    omega

/-- Texts are ordered by code points as they are by bytes. -/
theorem flatMap_utf8EncodeChar_lt {cs ds : List Char} (h : List.Lex (· < ·) cs ds) :
    cs.flatMap utf8EncodeChar < ds.flatMap utf8EncodeChar := by
  induction h with
  | @nil d ds =>
    obtain ⟨b, bs, hb⟩ := List.exists_cons_of_ne_nil (String.utf8EncodeChar_ne_nil (c := d))
    rw [List.flatMap_cons, hb]
    exact .nil
  | rel h => exact utf8EncodeChar_append_lt h _ _
  | cons h ih =>
    rw [List.flatMap_cons, List.flatMap_cons]
    exact List.append_left_lt ih

/-- Texts are ordered as their bytes are. -/
theorem bytes_lt_of_lt {s t : String} (h : s < t) : bytes s < bytes t := by
  rw [bytes_eq, bytes_eq]
  exact flatMap_utf8EncodeChar_lt (String.lt_iff.mp h)

end Order

end VenueGateway.Text
