import VenueGateway.Proofs.Json.Wire
import VenueGateway.Proofs.Text.Utf8

/-!
The text of a request is canonical: there are no blanks in it but those inside of string literals,
and its keys ascend by their bytes.
-/

namespace VenueGateway.Json

section Literals

mutual

def unquoted : List Char → List Char
  | [] => []
  | c :: cs => if c = '"' then unquotedBehind cs else c :: unquoted cs

/-- What a text has outside of string literals, if it begins inside of one. -/
def unquotedBehind : List Char → List Char
  | [] => []
  | c :: cs =>
    if c = '"' then unquoted cs
    else if c = '\\' then
      match cs with
      | [] => []
      | _ :: cs => unquotedBehind cs
    else unquotedBehind cs

end

variable (cs : List Char)

theorem unquoted_quote : unquoted ('"' :: cs) = unquotedBehind cs := by rw [unquoted, if_pos rfl]

theorem unquotedBehind_quote : unquotedBehind ('"' :: cs) = unquoted cs := by
  rw [unquotedBehind.eq_def]
  simp

theorem unquotedBehind_escaped (c : Char) :
    unquotedBehind ('\\' :: c :: cs) = unquotedBehind cs := by
  rw [unquotedBehind.eq_def]
  simp

theorem unquotedBehind_plain {c : Char} (hquote : c ≠ '"') (hslash : c ≠ '\\') :
    unquotedBehind (c :: cs) = unquotedBehind cs := by
  rw [unquotedBehind.eq_def]
  simp [hquote, hslash]

theorem unquoted_append {ds : List Char} (h : '"' ∉ ds) :
    unquoted (ds ++ cs) = ds ++ unquoted cs := by
  induction ds with
  | nil => rfl
  | cons d ds ih =>
    have hd : d ≠ '"' := fun hd => h (hd ▸ List.mem_cons_self)
    rw [List.cons_append, unquoted, if_neg hd, ih fun hds => h (List.mem_cons_of_mem _ hds),
      List.cons_append]

theorem digitChar_ne {n : Nat} (h : n < 32) : Nat.digitChar n ≠ '"' ∧ Nat.digitChar n ≠ '\\' := by
  have hall : ∀ n < 32, Nat.digitChar n ≠ '"' ∧ Nat.digitChar n ≠ '\\' := by decide
  exact hall n h

/-- An escaped character does not end a literal. -/
theorem unquotedBehind_escape (c : Char) : unquotedBehind (escape c ++ cs) = unquotedBehind cs := by
  unfold escape
  split
  case h_8 hquote hslash _ _ _ _ _ =>
    split
    · next h =>
      obtain ⟨hq, hs⟩ := digitChar_ne (n := c.toNat / 16) (by omega)
      obtain ⟨hq', hs'⟩ := digitChar_ne (n := c.toNat % 16) (by omega)
      simp only [List.cons_append, List.nil_append, unquotedBehind_escaped]
      rw [unquotedBehind_plain _ (by decide) (by decide),
        unquotedBehind_plain _ (by decide) (by decide), unquotedBehind_plain _ hq hs,
        unquotedBehind_plain _ hq' hs']
    · exact unquotedBehind_plain cs hquote hslash
  all_goals exact unquotedBehind_escaped cs _

theorem unquotedBehind_flatMap_escape (ds : List Char) :
    unquotedBehind (ds.flatMap escape ++ '"' :: cs) = unquoted cs := by
  induction ds with
  | nil => exact unquotedBehind_quote cs
  | cons d ds ih => rw [List.flatMap_cons, List.append_assoc, unquotedBehind_escape, ih]

theorem unquoted_literal (s : Literal) : unquoted (literal s ++ cs) = unquoted cs := by
  cases s with
  | none => simp [literal, unquoted, unquotedBehind, unquotedBehind_quote]
  | some s =>
    rw [literal, List.cons_append, List.cons_append, unquoted_quote, List.append_assoc]
    exact unquotedBehind_flatMap_escape cs s.toList

end Literals

section Blanks

/-- Characters that stand outside of literals and are no blanks. -/
def Bare (cs : List Char) : Prop := ∀ c ∈ cs, c ≠ '"' ∧ Text.isBlank c = false

instance (cs : List Char) : Decidable (Bare cs) := List.decidableBAll _ cs

theorem bare_of_isDigit {cs : List Char} (h : ∀ c ∈ cs, c.isDigit = true) : Bare cs := by
  intro c hc
  refine ⟨?_, Text.isBlank_of_isDigit (h c hc)⟩
  rintro rfl
  exact absurd (h _ hc) (by decide)

theorem Bare.append {cs ds : List Char} (hc : Bare cs) (hd : Bare ds) :
    Bare (cs ++ ds) := fun c h =>
  (List.mem_append.mp h).elim (hc c) (hd c)

theorem Bare.cons {c : Char} {cs : List Char} (h : c ≠ '"' ∧ Text.isBlank c = false)
    (hcs : Bare cs) :
    Bare (c :: cs) := List.forall_mem_cons.mpr ⟨h, hcs⟩

/-- A numeral holds neither quotes nor blanks. -/
theorem bare_numeral {n : Numeral} (hn : n.WellFormed) : Bare n.chars := by
  have hsign : Bare (if n.negative then ['-'] else []) := by
    split
    · exact .cons (by decide) nofun
    · exact nofun
  have hfraction : Bare (if n.fraction = [] then [] else '.' :: n.fraction) := by
    split
    · exact nofun
    · exact .cons (by decide) (bare_of_isDigit hn.fractionDigits)
  have hexponent : Bare ((n.exponent.map Exponent.chars).getD []) := by
    cases he : n.exponent with
    | none => exact nofun
    | some e =>
      refine .cons (by decide) (.cons ?_ (bare_of_isDigit (hn.exponentDigits e he).2))
      split <;> decide
  exact ((hsign.append (bare_of_isDigit hn.wholeDigits)).append hfraction).append hexponent

/-- A token is bare, unless it is a literal, which is passed over. -/
theorem unquoted_token {t : Token} (ht : ∀ n, t = .number n → n.WellFormed) (cs : List Char) :
    ∃ ds, Bare ds ∧ unquoted (t.chars ++ cs) = ds ++ unquoted cs := by
  have hbare : Bare t.chars → ∃ ds, Bare ds ∧ unquoted (t.chars ++ cs) = ds ++ unquoted cs :=
      fun h =>
    ⟨t.chars, h, unquoted_append cs fun hquote => (h _ hquote).1 rfl⟩
  cases t with
  | string s => exact ⟨[], nofun, unquoted_literal cs s⟩
  | number n => exact hbare (bare_numeral (ht n rfl))
  | bool b => cases b <;> exact hbare (by decide)
  | _ => exact hbare (by decide)

theorem bare_unquoted_tokens {ts : List Token} (h : ∀ n, .number n ∈ ts → n.WellFormed) :
    Bare (unquoted (ts.flatMap Token.chars)) := by
  induction ts with
  | nil => exact nofun
  | cons t ts ih =>
    have ht : ∀ n, t = .number n → n.WellFormed := fun n hn => h n (hn ▸ List.mem_cons_self)
    obtain ⟨ds, hds, hcut⟩ := unquoted_token ht (ts.flatMap Token.chars)
    rw [List.flatMap_cons, hcut]
    exact hds.append (ih fun n hn => h n (List.mem_cons_of_mem _ hn))

def Compact (text : String) : Prop := ∀ c ∈ unquoted text.toList, Text.isBlank c = false

theorem Value.compact_print {v : Value} (h : v.WellFormed) : Compact v.print := by
  intro c hc
  rw [Value.print, String.toList_ofList] at hc
  exact (bare_unquoted_tokens h c hc).2

end Blanks

section Keys

/-- An object of which the keys ascend by their bytes. -/
def Value.KeysAscend (v : Value) : Prop :=
  ∃ fs : List (String × Value), v = fields fs ∧ (fs.map Prod.fst).Pairwise fun k l =>
    Text.bytes k < Text.bytes l

/-- Sorted by their characters, the keys of an object ascend by their bytes. -/
theorem Value.keysAscend_sortMembers {fs : List (String × Value)}
    (hkeys : (fs.map Prod.fst).Nodup) :
    (fields fs).sortMembers.KeysAscend := by
  have hmembers : (fields fs).sortMembers = fields (fs.mergeSort fun f g => f.1 ≤ g.1) := by
    refine congrArg object (Eq.symm (List.map_mergeSort ?_))
    exact fun _ _ _ _ => rfl
  refine ⟨_, hmembers, ?_⟩
  have hsorted : (fs.mergeSort fun f g => f.1 ≤ g.1).Pairwise fun f g =>
      decide (f.1 ≤ g.1) = true := by
    refine List.pairwise_mergeSort (fun f g h hfg hgh => ?_) (fun f g => ?_) fs
    · exact decide_eq_true (String.le_trans (of_decide_eq_true hfg) (of_decide_eq_true hgh))
    · simpa using String.le_total f.1 g.1
  have hdistinct : ((fs.mergeSort fun f g => f.1 ≤ g.1).map Prod.fst).Nodup :=
    ((List.mergeSort_perm fs _).map Prod.fst).nodup_iff.mpr hkeys
  rw [List.Nodup, List.pairwise_map] at hdistinct
  rw [List.pairwise_map]
  refine hsorted.imp₂ (fun f g hle hne => Text.bytes_lt_of_lt ?_) hdistinct
  exact Decidable.byContradiction fun hnot =>
    hne (String.le_antisymm (of_decide_eq_true hle) (String.not_lt.mp hnot))

end Keys

end VenueGateway.Json
