import VenueGateway.Proofs.Json.Grammar
import VenueGateway.Proofs.Text.Numerals

/-!
Cutting a text into tokens follows the grammar: each lexeme is cut off as its token, a numeral where
what follows cannot be taken for a part of it, and nothing but a lexeme is cut off.
-/

namespace VenueGateway.Json

open Text (Symbol)

/-- A text that does not go on with a digit. -/
def NoDigit (cs : List Char) : Prop := ∀ c ∈ cs.head?, c.isDigit = false

/-- A text that does not go on with anything that belongs to a numeral. -/
def Ends (cs : List Char) : Prop := ∀ c ∈ cs.head?, c.isDigit = false ∧ c ≠ '.' ∧ c ≠ 'e' ∧ c ≠ 'E'

theorem Ends.noDigit {cs : List Char} (h : Ends cs) : NoDigit cs := fun c hc => (h c hc).1

theorem ends_nil : Ends [] := nofun

theorem ends_cons {c : Char} (h : c.isDigit = false ∧ c ≠ '.' ∧ c ≠ 'e' ∧ c ≠ 'E')
    (cs : List Char) :
    Ends (c :: cs) := by
  intro c' hc
  obtain rfl : c = c' := by simpa using hc
  exact h

section Numerals

/-- Digits are taken as far as they go. -/
theorem leadingDigits_append {ds rest : List Char} (hd : ∀ c ∈ ds, c.isDigit = true)
    (hr : NoDigit rest) :
    leadingDigits ((ds ++ rest).map some) = (ds, rest.map some) := by
  induction ds with
  | nil =>
    cases rest with
    | nil => rfl
    | cons c rest => simp [leadingDigits, hr c rfl]
  | cons d ds ih =>
    have hrest := ih fun c hc => hd c (List.mem_cons_of_mem _ hc)
    simp only [List.cons_append, List.map_cons, leadingDigits, hd d List.mem_cons_self,
      if_true, hrest]

/-- A whole part is taken up to what is no digit. -/
theorem whole?_append {ds rest : List Char} (hw : ds = ['0'] ∨ ds ≠ [] ∧ ds.head? ≠ some '0')
    (hd : ∀ c ∈ ds, c.isDigit = true) (hr : NoDigit rest) :
    whole? ((ds ++ rest).map some) = some (ds, rest.map some) := by
  rcases hw with rfl | ⟨hne, hzero⟩
  · rfl
  · have hleading := leadingDigits_append hd hr
    cases ds with
    | nil => exact absurd rfl hne
    | cons d ds =>
      have hd0 : d ≠ '0' := fun h => hzero (by rw [h]; rfl)
      simp only [List.cons_append, List.map_cons] at hleading ⊢
      rw [whole?, hleading]
      · simp
      · rintro rest' h
        exact hd0 (by simpa using (List.cons.inj h).1)

theorem fraction?_append {ds rest : List Char} (hd : ∀ c ∈ ds, c.isDigit = true)
    (hr : ∀ c ∈ rest.head?, c.isDigit = false ∧ c ≠ '.') :
    fraction? (((if ds = [] then [] else '.' :: ds) ++ rest).map some) =
      some (ds, rest.map some) := by
  split
  · next hnil =>
    subst hnil
    cases rest with
    | nil => rfl
    | cons c rest =>
      have hpoint := (hr c rfl).2
      simp only [List.nil_append, List.map_cons]
      rw [fraction?]
      rintro rest' h
      exact hpoint (by simpa using (List.cons.inj h).1)
  · next hne =>
    have hleading := leadingDigits_append hd fun c hc => (hr c hc).1
    simp only [List.cons_append, List.map_cons, fraction?, hleading, hne, if_false]

variable {rest : List Char}

theorem signedExponent?_append (negative : Bool) {ds : List Char} (hne : ds ≠ [])
    (hd : ∀ c ∈ ds, c.isDigit = true) (hr : NoDigit rest) :
    signedExponent? negative ((ds ++ rest).map some) =
      some (some ⟨negative, ds⟩, rest.map some) := by
  rw [signedExponent?, leadingDigits_append hd hr, if_neg hne]

theorem exponent?_append {e : Option Exponent} {es : List Char} (h : Exponent.Spelled e es)
    (hd : ∀ e' ∈ e, e'.digits ≠ [] ∧ ∀ c ∈ e'.digits, c.isDigit = true) (hr : Ends rest) :
    exponent? ((es ++ rest).map some) = some (e, rest.map some) := by
  cases h with
  | absent =>
    cases rest with
    | nil => rfl
    | cons c rest =>
      obtain ⟨-, -, hsmall, hlarge⟩ := hr c rfl
      simp [exponent?, hsmall, hlarge]
  | @unsigned mark ds hm =>
    obtain ⟨hne, hdigits⟩ := hd _ rfl
    dsimp only at hne hdigits
    obtain ⟨d, ds, rfl⟩ := List.exists_cons_of_ne_nil hne
    have hdigit := hdigits d List.mem_cons_self
    have hplus : d ≠ '+' := by rintro rfl; exact absurd hdigit (by decide)
    have hminus : d ≠ '-' := by rintro rfl; exact absurd hdigit (by decide)
    have hread := signedExponent?_append false hne hdigits hr.noDigit
    simp only [List.cons_append, List.map_cons, List.map_append] at hread
    simp [exponent?, hm, hplus, hminus, hread]
  | @signed mark negative ds hm =>
    obtain ⟨hne, hdigits⟩ := hd _ rfl
    have hread := signedExponent?_append negative hne hdigits hr.noDigit
    rw [List.map_append] at hread
    cases negative <;> simp [exponent?, hm, hread]

/-- Behind the digits of a fraction neither another digit nor another point follows. -/
theorem Exponent.Spelled.head {e : Option Exponent} {es : List Char} (h : Exponent.Spelled e es)
    (hr : Ends rest) :
    ∀ c ∈ (es ++ rest).head?, c.isDigit = false ∧ c ≠ '.' := by
  have hmark : ∀ mark : Char, mark = 'e' ∨ mark = 'E' → mark.isDigit = false ∧ mark ≠ '.' := by
    rintro mark (rfl | rfl) <;> decide
  cases h with
  | absent => exact fun c hc => ⟨(hr c hc).1, (hr c hc).2.1⟩
  | unsigned hm | signed hm =>
    intro c hc
    obtain rfl := Option.some.inj hc
    exact hmark _ hm

/-- A numeral is taken whole, and no more than it. -/
theorem unsignedNumeral?_append {n : Numeral} (hn : n.WellFormed) {es : List Char}
    (he : Exponent.Spelled n.exponent es) (hr : Ends rest) :
    unsignedNumeral? n.negative ((n.whole ++ (n.fractionChars ++ es) ++ rest).map some) =
      some (.number n, rest.map some) := by
  have hbehind := he.head hr
  have hwhole : NoDigit (n.fractionChars ++ (es ++ rest)) := by
    unfold Numeral.fractionChars
    split
    · exact fun c hc => (hbehind c hc).1
    · intro c hc
      obtain rfl : '.' = c := by simpa using hc
      decide
  rw [List.append_assoc, List.append_assoc, unsignedNumeral?,
    whole?_append hn.whole hn.wholeDigits hwhole]
  simp only [Option.bind_eq_bind, Option.bind_some]
  rw [Numeral.fractionChars, fraction?_append hn.fractionDigits hbehind, Option.bind_some,
    exponent?_append he hn.exponentDigits hr]
  rfl

end Numerals

section Literals

theorem pieces?_quote (s : List Symbol) : pieces? (some '"' :: s) = some ([], s) := by
  rw [pieces?.eq_def]
  simp only [if_true]

/-- What is written inside of a literal is read up to the quote behind it. -/
theorem pieces?_quoted {cs : List Char} {ps : List Piece} (h : Quoted cs ps) (s : List Symbol) :
    pieces? (cs.map some ++ some '"' :: s) = some (ps, s) := by
  induction h with
  | nil => exact pieces?_quote s
  | plain hquote hslash hcontrol _ ih =>
    rw [List.map_cons, List.cons_append, pieces?.eq_def]
    simp only [if_neg hquote, if_neg hslash, if_neg hcontrol, ih, Option.map_some]
  | @short e c cs ps he _ ih =>
    have hu : e ≠ 'u' := by rintro rfl; cases he
    rw [List.map_cons, List.map_cons, List.cons_append, List.cons_append, pieces?.eq_def]
    simp only [show ¬ '\\' = '"' by decide, if_false, if_true, hu, he, ih, Option.bind_eq_bind,
      Option.bind_some]
  | unit hn _ ih =>
    simp only [List.map_cons, List.cons_append]
    rw [pieces?.eq_def]
    simp only [show ¬ '\\' = '"' by decide, if_false, if_true, hn, ih, Option.bind_eq_bind,
      Option.bind_some]

/-- What a literal is read as is what its pieces denote. -/
theorem denotes_of_chars? {ps : List Piece} {cs : List Char} (h : chars? ps = some cs) :
    Denotes ps cs := by
  fun_induction chars? ps generalizing cs with
  | case1 =>
    obtain rfl := Option.some.inj h
    exact .nil
  | case2 c rest ih =>
    obtain ⟨ds, hds, rfl⟩ := Option.map_eq_some_iff.mp h
    exact .char c (ih hds)
  | case4 n hn m more hm ih =>
    obtain ⟨ds, hds, rfl⟩ := Option.map_eq_some_iff.mp h
    exact .pair hn hm (ih hds)
  | case8 n rest hhigh hlow ih =>
    obtain ⟨ds, hds, rfl⟩ := Option.map_eq_some_iff.mp h
    exact .unit hhigh hlow (ih hds)
  | case3 | case5 | case6 | case7 => cases h

/-- The characters of pieces are those that they denote. -/
theorem chars?_eq_some_iff {ps : List Piece} {cs : List Char} :
    chars? ps = some cs ↔ Denotes ps cs := by
  refine ⟨denotes_of_chars?, fun h => ?_⟩
  induction h with
  | nil => rfl
  | char c _ ih => rw [chars?, ih, Option.map_some]
  | unit hhigh hlow _ ih =>
    unfold HighSurrogate at hhigh
    unfold LowSurrogate at hlow
    rw [chars?.eq_def]
    simp only [if_neg hhigh, if_neg hlow, ih, Option.map_some]
  | pair hn hm _ ih =>
    unfold HighSurrogate at hn
    unfold LowSurrogate at hm
    rw [chars?.eq_def]
    simp only [if_pos hn, if_pos hm, ih, Option.map_some]

/-- A literal is read as what its pieces mean. -/
theorem means_iff {ps : List Piece} {s : Literal} :
    Means ps s ↔ (chars? ps).map String.ofList = s := by
  constructor
  · intro h
    cases h with
    | text h => rw [chars?_eq_some_iff.mpr h, Option.map_some, String.ofList_toList]
    | none h =>
      have hnone : chars? ps = none :=
        Option.eq_none_iff_forall_ne_some.mpr fun cs hcs => h cs (chars?_eq_some_iff.mp hcs)
      rw [hnone, Option.map_none]
  · rintro rfl
    cases h : chars? ps with
    | none => exact .none fun cs hcs => by simp [chars?_eq_some_iff.mpr hcs] at h
    | some cs => exact .text (by rw [String.toList_ofList]; exact chars?_eq_some_iff.mp h)

end Literals

section Lexemes

/-- The first token may be cut off, blanks and all. -/
theorem tokens?_cut {s : List Symbol} {c : Char} {rest rest' : List Symbol} {t : Token}
    (hs : skipSpace s = some c :: rest) (h : token? c rest = some (t, rest')) :
    tokens? s = (tokens? rest').map (t :: ·) := by
  rw [tokens?]
  split
  · next hs' => rw [hs] at hs'; cases hs'
  · next hs' => rw [hs] at hs'; cases hs'
  · next c' rest' hs' =>
    rw [hs] at hs'
    cases hs'
    split
    · next ht => rw [h] at ht; cases ht
    · next r' ht =>
      rw [h] at ht
      cases ht
      rfl

theorem skipSpace_append {bs : List Char} (hb : ∀ c ∈ bs, isSpace c = true) (s : List Symbol) :
    skipSpace (bs.map some ++ s) = skipSpace s := by
  induction bs with
  | nil => rfl
  | cons b bs ih =>
    rw [List.map_cons, List.cons_append, skipSpace, if_pos (hb b List.mem_cons_self)]
    exact ih fun c hc => hb c (List.mem_cons_of_mem _ hc)

/-- There is no token in blanks. -/
theorem tokens?_blanks {bs : List Char} (hb : ∀ c ∈ bs, isSpace c = true) :
    tokens? (bs.map some) = some [] := by
  have hskip := skipSpace_append hb []
  rw [List.append_nil] at hskip
  rw [tokens?]
  split
  · rfl
  · next hs => rw [hskip] at hs; cases hs
  · next hs => rw [hskip] at hs; cases hs

theorem skipSpace_of_isSpace {c : Char} (h : isSpace c = false) (s : List Symbol) :
    skipSpace (some c :: s) = some c :: s := by
  rw [skipSpace, if_neg (by simp [h])]

theorem isSpace_of_isDigit {c : Char} (h : c.isDigit = true) : isSpace c = false := by
  simp only [isSpace, Bool.or_eq_false_iff, beq_eq_false_iff_ne]
  refine ⟨⟨⟨?_, ?_⟩, ?_⟩, ?_⟩ <;> rintro rfl <;> exact absurd h (by decide)

theorem token?_digit {c : Char} (h : c.isDigit = true) (rest : List Symbol) :
    token? c rest = unsignedNumeral? false (some c :: rest) := by
  unfold token?
  split
  case h_12 => rw [if_pos h]
  all_goals exact absurd h (by decide)

variable {rest : List Char}

/-- A numeral is cut off where nothing that belongs to it follows. -/
theorem Numeral.Spelled.token? {n : Numeral} {cs : List Char} (h : n.Spelled cs) (hr : Ends rest) :
    ∃ c ds, cs = c :: ds ∧ isSpace c = false ∧
      Json.token? c ((ds ++ rest).map some) = some (.number n, rest.map some) := by
  obtain ⟨es, he, rfl⟩ := h.chars
  have hread := unsignedNumeral?_append h.wellFormed he hr
  unfold Numeral.signChars
  cases hsign : n.negative with
  | true =>
    rw [hsign] at hread
    exact ⟨'-', _, rfl, rfl, hread⟩
  | false =>
    obtain ⟨d, ds, hwhole⟩ : ∃ d ds, n.whole = d :: ds := by
      refine List.exists_cons_of_ne_nil ?_
      rcases h.wellFormed.whole with h | ⟨h, -⟩
      · exact h ▸ List.cons_ne_nil _ _
      · exact h
    have hdigit : d.isDigit = true := h.wellFormed.wholeDigits d (hwhole ▸ List.mem_cons_self)
    rw [hsign, hwhole] at hread
    refine ⟨d, ds ++ (n.fractionChars ++ es), by simp [hwhole], isSpace_of_isDigit hdigit, ?_⟩
    exact (token?_digit hdigit _).trans hread

/-- A lexeme is cut off as its token, a numeral where nothing that belongs to one follows. -/
theorem Lexeme.token? {t : Token} {cs : List Char} (h : Lexeme t cs)
    (hr : ∀ n, t = .number n → Ends rest) :
    ∃ c ds, cs = c :: ds ∧ isSpace c = false ∧ Json.token? c ((ds ++ rest).map some) =
      some (t, rest.map some) := by
  cases h with
  | fixed hn hs =>
    cases t with
    | number n => exact absurd rfl (hn n)
    | string s => exact absurd rfl (hs s)
    | bool b => cases b <;> exact ⟨_, _, rfl, rfl, rfl⟩
    | _ => exact ⟨_, _, rfl, rfl, rfl⟩
  | @number n _ h => exact h.token? (hr n rfl)
  | @string cs ps s hq hm =>
    refine ⟨'"', cs ++ ['"'], rfl, rfl, ?_⟩
    have hread := pieces?_quoted hq (rest.map some)
    rw [List.append_assoc, List.map_append, List.singleton_append, List.map_cons, Json.token?,
      hread, Option.map_some, means_iff.mp hm]

theorem tokens?_lexeme {t : Token} {bs cs : List Char} (hb : ∀ c ∈ bs, isSpace c = true)
    (h : Lexeme t cs) (hr : ∀ n, t = .number n → Ends rest) :
    tokens? ((bs ++ (cs ++ rest)).map some) = (tokens? (rest.map some)).map (t :: ·) := by
  obtain ⟨c, ds, rfl, hc, hread⟩ := h.token? hr
  refine tokens?_cut ?_ hread
  rw [List.map_append, skipSpace_append hb, List.cons_append, List.map_cons,
    skipSpace_of_isSpace hc]

end Lexemes

section Soundness

theorem leadingDigits_eq (s : List Symbol) :
    s = (leadingDigits s).1.map some ++ (leadingDigits s).2 ∧ ∀ c ∈ (leadingDigits s).1,
      c.isDigit = true := by
  fun_induction leadingDigits s with
  | case1 c rest hc ih => exact ⟨by simpa using ih.1, List.forall_mem_cons.mpr ⟨hc, ih.2⟩⟩
  | case2 | case3 => exact ⟨rfl, List.forall_mem_nil _⟩

variable {s : List Symbol}

theorem whole?_eq_some {r : List Char × List Symbol} (h : whole? s = some r) :
    s = r.1.map some ++ r.2 ∧ (r.1 = ['0'] ∨ r.1 ≠ [] ∧ r.1.head? ≠ some '0') ∧ ∀ c ∈ r.1,
    c.isDigit = true := by
  unfold whole? at h
  split at h
  · obtain rfl := Option.some.inj h
    exact ⟨rfl, .inl rfl, List.forall_mem_singleton.mpr (by decide)⟩
  · next hzero =>
    split at h
    · cases h
    · next hne =>
      obtain rfl := Option.some.inj h
      obtain ⟨hs, hdigits⟩ := leadingDigits_eq s
      refine ⟨hs, .inr ⟨hne, fun hhead => ?_⟩, hdigits⟩
      obtain ⟨ds, hds⟩ := List.head?_eq_some_iff.mp hhead
      rw [hds] at hs
      exact hzero _ hs

theorem fraction?_eq_some {r : List Char × List Symbol} (h : fraction? s = some r) :
    s = (if r.1 = [] then [] else '.' :: r.1).map some ++ r.2 ∧ ∀ c ∈ r.1, c.isDigit = true := by
  unfold fraction? at h
  split at h
  · next rest =>
    split at h
    · cases h
    · next hne =>
      obtain rfl := Option.some.inj h
      obtain ⟨hrest, hdigits⟩ := leadingDigits_eq rest
      rw [if_neg hne]
      exact ⟨congrArg (some '.' :: ·) hrest, hdigits⟩
  · obtain rfl := Option.some.inj h
    exact ⟨rfl, nofun⟩

/-- Behind the letter of an exponent and its sign, if it has one, digits are read to their end. -/
theorem signedExponent?_eq_some {negative : Bool} (mark : List Char)
    (hmark : ∀ ds, Exponent.Spelled (some ⟨negative, ds⟩) (mark ++ ds))
    {r : Option Exponent × List Symbol} (h : signedExponent? negative s = some r) :
    (∃ es, Exponent.Spelled r.1 es ∧ mark.map some ++ s = es.map some ++ r.2) ∧
      ∀ e ∈ r.1, e.digits ≠ [] ∧ ∀ c ∈ e.digits, c.isDigit = true := by
  unfold signedExponent? at h
  split at h
  · cases h
  · next hne =>
    obtain rfl := Option.some.inj h
    obtain ⟨hs, hdigits⟩ := leadingDigits_eq s
    refine ⟨⟨_, hmark _, ?_⟩, ?_⟩
    · rw [List.map_append, List.append_assoc, ← hs]
    · intro e he
      obtain rfl := Option.some.inj he
      exact ⟨hne, hdigits⟩

theorem exponent?_eq_some {r : Option Exponent × List Symbol} (h : exponent? s = some r) :
    (∃ es, Exponent.Spelled r.1 es ∧ s = es.map some ++ r.2) ∧
      ∀ e ∈ r.1, e.digits ≠ [] ∧ ∀ c ∈ e.digits, c.isDigit = true := by
  unfold exponent? at h
  split at h
  · next mark rest =>
    split at h
    · next hm =>
      split at h
      · exact signedExponent?_eq_some [mark, '+'] (fun _ => .signed hm) h
      · exact signedExponent?_eq_some [mark, '-'] (fun _ => .signed hm) h
      · exact signedExponent?_eq_some [mark] (fun _ => .unsigned hm) h
    · obtain rfl := Option.some.inj h
      exact ⟨⟨[], .absent, rfl⟩, nofun⟩
  · obtain rfl := Option.some.inj h
    exact ⟨⟨[], .absent, rfl⟩, nofun⟩

/-- What is read as a numeral is written as one. -/
theorem unsignedNumeral?_eq_some {negative : Bool} {r : Token × List Symbol}
    (h : unsignedNumeral? negative s = some r) :
    ∃ cs, Lexeme r.1 ((if negative then ['-'] else []) ++ cs) ∧ s = cs.map some ++ r.2 := by
  simp only [unsignedNumeral?, Option.bind_eq_bind, Option.bind_eq_some_iff, Option.some.injEq] at h
  obtain ⟨w, hw, f, hf, e, he, rfl⟩ := h
  obtain ⟨hs, hwhole, hdigits⟩ := whole?_eq_some hw
  obtain ⟨hs', hfraction⟩ := fraction?_eq_some hf
  obtain ⟨⟨es, hes, hs''⟩, hexponent⟩ := exponent?_eq_some he
  refine ⟨_, .number ⟨⟨hwhole, hdigits, hfraction, hexponent⟩, es, hes, rfl⟩, ?_⟩
  rw [hs, hs', hs'']
  simp [Numeral.fractionChars]

/-- Where no byte is stray, a literal that is read is written as the grammar has it. -/
theorem pieces?_eq_some (hclean : none ∉ s) {r : List Piece × List Symbol}
    (h : pieces? s = some r) :
    ∃ cs, Quoted cs r.1 ∧ s = cs.map some ++ some '"' :: r.2 := by
  fun_induction pieces? s generalizing r with
  | case1 | case5 | case7 | case8 => cases h
  | case2 => exact absurd List.mem_cons_self hclean
  | case3 rest =>
    obtain rfl := Option.some.inj h
    exact ⟨[], .nil, rfl⟩
  | case4 w x y z rest _ ih =>
    simp only [List.mem_cons, not_or, ← ne_eq] at hclean
    obtain ⟨-, -, hw, hx, hy, hz, hrest⟩ := hclean
    obtain ⟨w, rfl⟩ := Option.ne_none_iff_exists'.mp hw.symm
    obtain ⟨x, rfl⟩ := Option.ne_none_iff_exists'.mp hx.symm
    obtain ⟨y, rfl⟩ := Option.ne_none_iff_exists'.mp hy.symm
    obtain ⟨z, rfl⟩ := Option.ne_none_iff_exists'.mp hz.symm
    simp only [Option.bind_eq_bind, Option.bind_eq_some_iff, Option.some.injEq] at h
    obtain ⟨n, hn, r', hr', rfl⟩ := h
    obtain ⟨cs, hcs, rfl⟩ := ih hrest hr'
    exact ⟨_, .unit hn hcs, rfl⟩
  | case6 e more _ _ ih =>
    simp only [Option.bind_eq_bind, Option.bind_eq_some_iff, Option.some.injEq] at h
    obtain ⟨c, hc, r', hr', rfl⟩ := h
    obtain ⟨cs, hcs, rfl⟩ :=
      ih (fun hmem => hclean (List.mem_cons_of_mem _ (List.mem_cons_of_mem _ hmem))) hr'
    exact ⟨_, .short hc hcs, rfl⟩
  | case9 c rest hquote hslash hcontrol ih =>
    obtain ⟨r', hr', rfl⟩ := Option.map_eq_some_iff.mp h
    obtain ⟨cs, hcs, rfl⟩ := ih (fun hmem => hclean (List.mem_cons_of_mem _ hmem)) hr'
    exact ⟨_, .plain hquote hslash hcontrol hcs, rfl⟩

/-- Nothing but a lexeme is cut off as a token. -/
theorem token?_eq_some {c : Char} (hclean : none ∉ s) {r : Token × List Symbol}
    (h : token? c s = some r) :
    ∃ cs, Lexeme r.1 cs ∧ some c :: s = cs.map some ++ r.2 := by
  unfold token? at h
  split at h
  case h_7 =>
    obtain ⟨r', hr', rfl⟩ := Option.map_eq_some_iff.mp h
    obtain ⟨cs, hcs, rfl⟩ := pieces?_eq_some hclean hr'
    exact ⟨_, .string hcs (means_iff.mpr rfl), by simp⟩
  case h_8 =>
    obtain ⟨cs, hcs, rfl⟩ := unsignedNumeral?_eq_some h
    exact ⟨_, hcs, rfl⟩
  case h_12 =>
    split at h
    · exact unsignedNumeral?_eq_some h
    · cases h
  case h_9 | h_10 | h_11 =>
    split at h
    · obtain rfl := Option.some.inj h
      exact ⟨_, .fixed nofun nofun, rfl⟩
    · cases h
  all_goals
    obtain rfl := Option.some.inj h
    exact ⟨_, .fixed nofun nofun, rfl⟩

theorem skipSpace_eq (s : List Symbol) :
    ∃ bs : List Char, (∀ c ∈ bs, isSpace c = true) ∧ s = bs.map some ++ skipSpace s := by
  fun_induction skipSpace s with
  | case1 c rest hc ih =>
    obtain ⟨bs, hbs, hrest⟩ := ih
    exact ⟨c :: bs, List.forall_mem_cons.mpr ⟨hc, hbs⟩, congrArg (some c :: ·) hrest⟩
  | case2 | case3 => exact ⟨[], List.forall_mem_nil _, rfl⟩

/-- A text that is cut into tokens is made of their lexemes. -/
theorem tokens?_eq_some (hclean : none ∉ s) {ts : List Token} (h : tokens? s = some ts) :
    ∃ cs : List Char, s = cs.map some ∧ Spaced ts cs := by
  fun_induction tokens? s generalizing ts with
  | case1 s hs =>
    obtain rfl := Option.some.inj h
    obtain ⟨bs, hbs, heq⟩ := skipSpace_eq s
    rw [hs, List.append_nil] at heq
    exact ⟨bs, heq, .nil hbs⟩
  | case2 | case3 => cases h
  | case4 s c rest hs r ht ih =>
    obtain ⟨ts, hts, rfl⟩ := Option.map_eq_some_iff.mp h
    obtain ⟨bs, hbs, heq⟩ := skipSpace_eq s
    rw [hs] at heq
    have hrest : none ∉ rest := fun hmem =>
      hclean (heq ▸ List.mem_append_right _ (List.mem_cons_of_mem _ hmem))
    obtain ⟨cs, hcs, hcut⟩ := token?_eq_some hrest ht
    rw [hcut] at heq
    have hbehind : none ∉ r.2 :=
      fun hmem => hclean (heq ▸ List.mem_append_right _ (List.mem_append_right _ hmem))
    obtain ⟨ds, hds, hspaced⟩ := ih hbehind hts
    refine ⟨bs ++ (cs ++ ds), ?_, .cons hbs hcs hspaced⟩
    rw [heq, hds, List.map_append, List.map_append]

end Soundness

end VenueGateway.Json
