import VenueGateway.Proofs.Json.Fields
import VenueGateway.Proofs.Venue.Frame

/-!
Which texts are frames. An object is taken for a frame by four of its members alone, wherever they
stand and however their keys are written. The others may have any values, but all that is written
has to be JSON, and no key may hold a surrogate that stands alone. An integer is written without
point and exponent, and nought without a sign.
-/

namespace VenueGateway

open Json (Numeral Value Member Literal Spaced Lexeme Token)

namespace MessageKind

theorem ofCode?_eq_some_iff {n : Nat} {k : MessageKind} : ofCode? n = some k ↔ n = k.code := by
  constructor
  · intro h
    unfold ofCode? at h
    split at h <;> cases h <;> rfl
  · rintro rfl
    exact ofCode?_code k

theorem ofJson?_eq_some_iff {v : Value} {k : MessageKind} :
    ofJson? v = some k ↔ ∃ n, v = .number n ∧ n.ReadsAs k.code := by
  rw [ofJson?, Option.bind_eq_some_iff, ← Value.integer?_eq_some_iff]
  have hcode : ∀ n : Int, (if 0 ≤ n then ofCode? n.toNat else none) = some k ↔ n = k.code := by
    intro n
    split
    · rw [ofCode?_eq_some_iff]
      omega
    · exact iff_of_false (Option.some_ne_none k).symm (by omega)
  simp only [hcode, exists_eq_right]

/-- The numbers from nought to five are those of kinds. -/
theorem exists_code {n : Int} (hlow : 0 ≤ n) (hhigh : n ≤ 5) : ∃ k : MessageKind, n = k.code := by
  have hcases : n = 0 ∨ n = 1 ∨ n = 2 ∨ n = 3 ∨ n = 4 ∨ n = 5 := by omega
  rcases hcases with rfl | rfl | rfl | rfl | rfl | rfl
  · exact ⟨.request, rfl⟩
  · exact ⟨.response, rfl⟩
  · exact ⟨.subscribe, rfl⟩
  · exact ⟨.event, rfl⟩
  · exact ⟨.unsubscribe, rfl⟩
  · exact ⟨.error, rfl⟩

end MessageKind

namespace Frame

/-- The keys of the four members that make a frame. -/
def keys : List String := ["m", "i", "n", "o"]

/-- Every key is a text, and those that make a frame occur once at most. -/
structure Unambiguous (ms : List Member) : Prop where
  readable : ∀ m ∈ ms, m.1 ≠ none
  once : ∀ name ∈ keys, ms.countP (fun m => m.1 == some name) ≤ 1

/-- What the members of an object say of a frame, given when a literal stands for an integer. -/
structure Conveys (Integer : Numeral → Int → Prop) (ms : List Member) (f : Frame) : Prop where
  kind : ∃ n, (some "m", .number n) ∈ ms ∧ Integer n f.kind.code
  sequence : ∃ n, (some "i", .number n) ∈ ms ∧ Integer n f.sequence.toInt
  operation : (some "n", .text f.operation) ∈ ms
  payload : (some "o", .text f.payload) ∈ ms ∨ (∀ m ∈ ms, m.1 ≠ some "o") ∧ f.payload = ""

/-- What an object must have to be a frame, given when a literal stands for an integer. -/
structure Admissible (Integer : Numeral → Int → Prop) (ms : List Member) : Prop where
  unambiguous : Unambiguous ms
  kind : ∃ n k, (some "m", .number n) ∈ ms ∧ Integer n k ∧ 0 ≤ k ∧ k ≤ 5
  sequence : ∃ n k, (some "i", .number n) ∈ ms ∧ Integer n k ∧ -0x8000000000000000 ≤ k ∧
    k < 0x8000000000000000
  operation : ∃ s, (some "n", .text s) ∈ ms
  payload : (∃ s, (some "o", .text s) ∈ ms) ∨ ∀ m ∈ ms, m.1 ≠ some "o"

theorem wellKeyed_iff {ms : List Member} : Value.wellKeyed keys ms = true ↔ Unambiguous ms := by
  rw [Value.wellKeyed, Bool.and_eq_true, List.all_eq_true, List.all_eq_true]
  constructor
  · rintro ⟨hsome, honce⟩
    exact ⟨fun m hm => Option.isSome_iff_ne_none.mp (hsome m hm),
      fun name hname => of_decide_eq_true (honce name hname)⟩
  · intro h
    exact ⟨fun m hm => Option.isSome_iff_ne_none.mpr (h.readable m hm),
      fun name hname => decide_eq_true (h.once name hname)⟩

section Members

variable {o : Option Value}

theorem kind_given {k : MessageKind} : Json.Field.required MessageKind.ofJson? o = some k ↔
    ∃ n, o = some (.number n) ∧ n.ReadsAs k.code := by
  simp [Json.Field.required, Option.bind_eq_some_iff, MessageKind.ofJson?_eq_some_iff]

theorem sequence_given {i : Int64} : Json.Field.required Value.int64? o = some i ↔
    ∃ n, o = some (.number n) ∧ n.ReadsAs i.toInt := by
  simp [Json.Field.required, Option.bind_eq_some_iff, Value.int64?_eq_some_iff]

theorem operation_given {s : String} :
    Json.Field.required Value.text? o = some s ↔ o = some (.text s) := by
  simp [Json.Field.required, Option.bind_eq_some_iff, Value.text?_eq_some_iff]

theorem payload_given {s : String} : Json.Field.optional Value.text? "" o = some s ↔
    o = some (.text s) ∨ o = none ∧ s = "" := by
  cases o with
  | none => simp [Json.Field.optional, eq_comm]
  | some v => simp [Json.Field.optional, Value.text?_eq_some_iff]

end Members

/-- What a record must give for a frame. -/
theorem ofJson?_of_record {v : Value} {r : Json.Record} (h : v.record? keys = some r) {f : Frame} :
    ofJson? v = some f ↔ (∃ n, r "m" = some (.number n) ∧ n.ReadsAs f.kind.code) ∧
      (∃ n, r "i" = some (.number n) ∧ n.ReadsAs f.sequence.toInt) ∧
      r "n" = some (.text f.operation) ∧
      (r "o" = some (.text f.payload) ∨ r "o" = none ∧ f.payload = "") := by
  unfold keys at h
  simp only [ofJson?, h, Option.bind_eq_bind, Option.bind_some, Option.bind_eq_some_iff, kind_given,
    sequence_given, operation_given, payload_given, Option.some.injEq]
  constructor
  · rintro ⟨kind, hkind, sequence, hsequence, operation, hoperation, payload, hpayload, rfl⟩
    exact ⟨hkind, hsequence, hoperation, hpayload⟩
  · rintro ⟨hkind, hsequence, hoperation, hpayload⟩
    exact ⟨_, hkind, _, hsequence, _, hoperation, _, hpayload, rfl⟩

variable {ms : List Member}

/-- An object is read as a frame by four of its members. -/
theorem ofJson?_object {f : Frame} :
    ofJson? (.object ms) = some f ↔ Unambiguous ms ∧ Conveys Numeral.ReadsAs ms f := by
  by_cases hwell : Unambiguous ms
  · have hmember : ∀ name ∈ keys, ∀ v, Value.member? ms name = some v ↔ (some name, v) ∈ ms :=
        fun name hname v =>
      Value.member?_eq_some_iff (hwell.once name hname)
    have hrecord : (Value.object ms).record? keys = some (Value.member? ms) := by
      rw [Value.record?, if_pos (wellKeyed_iff.mpr hwell)]
    rw [ofJson?_of_record hrecord, Value.member?_eq_none_iff]
    simp only [hmember "m" (by decide), hmember "i" (by decide), hmember "n" (by decide),
      hmember "o" (by decide)]
    constructor
    · rintro ⟨hkind, hsequence, hoperation, hpayload⟩
      exact ⟨hwell, hkind, hsequence, hoperation, hpayload⟩
    · rintro ⟨-, hkind, hsequence, hoperation, hpayload⟩
      exact ⟨hkind, hsequence, hoperation, hpayload⟩
  · have hrecord : (Value.object ms).record? keys = none := by
      rw [Value.record?, if_neg fun h => hwell (wellKeyed_iff.mp h)]
    unfold keys at hrecord
    rw [ofJson?, hrecord]
    exact iff_of_false (Option.some_ne_none f).symm fun h => hwell h.1

/-- Members say the same of a frame where they agree on four of them. -/
theorem Conveys.congr {Integer : Numeral → Int → Prop} {ms ms' : List Member} {f : Frame}
    (h : Conveys Integer ms' f)
    (hagree : ∀ name ∈ keys, ∀ v, (some name, v) ∈ ms ↔ (some name, v) ∈ ms') :
    Conveys Integer ms f := by
  have habsent : (∀ m ∈ ms', m.1 ≠ some "o") → ∀ m ∈ ms, m.1 ≠ some "o" := by
    rintro hnone ⟨key, v⟩ hm rfl
    exact hnone _ ((hagree "o" (by decide) v).mp hm) rfl
  simp only [keys, List.forall_mem_cons] at hagree
  obtain ⟨hm, hi, hn, ho, -⟩ := hagree
  exact ⟨by simpa only [hm] using h.kind, by simpa only [hi] using h.sequence,
    (hn _).mpr h.operation, h.payload.imp (ho _).mpr (And.imp_left habsent)⟩

/-- What an object must have is that it conveys some frame. -/
theorem admissible_iff {Integer : Numeral → Int → Prop} :
    Admissible Integer ms ↔ Unambiguous ms ∧ ∃ f, Conveys Integer ms f := by
  constructor
  · intro h
    obtain ⟨n, k, hm, hn, hlow, hhigh⟩ := h.kind
    obtain ⟨kind, rfl⟩ := MessageKind.exists_code hlow hhigh
    obtain ⟨n', k', hi, hn', hlow', hhigh'⟩ := h.sequence
    have hsequence : (Int64.ofInt k').toInt = k' := Int64.toInt_ofInt_of_le hlow' hhigh'
    obtain ⟨operation, hoperation⟩ := h.operation
    have hconveys : ∀ payload, ((some "o", .text payload) ∈ ms ∨ (∀ m ∈ ms, m.1 ≠ some "o") ∧
        payload = "") →
        Conveys Integer ms ⟨kind, .ofInt k', operation, payload⟩ := fun payload hpayload =>
      ⟨⟨n, hm, hn⟩, ⟨n', hi, hsequence.symm ▸ hn'⟩, hoperation, hpayload⟩
    refine ⟨h.unambiguous, ?_⟩
    rcases h.payload with ⟨payload, hpayload⟩ | habsent
    · exact ⟨_, hconveys payload (.inl hpayload)⟩
    · exact ⟨_, hconveys "" (.inr ⟨habsent, rfl⟩)⟩
  · rintro ⟨hwell, f, hkind, hsequence, hoperation, hpayload⟩
    obtain ⟨n, hm, hn⟩ := hkind
    obtain ⟨n', hi, hn'⟩ := hsequence
    refine ⟨hwell, ⟨n, _, hm, hn, ?_, ?_⟩,
      ⟨n', _, hi, hn', f.sequence.le_toInt, f.sequence.toInt_lt⟩, ⟨_, hoperation⟩, ?_⟩
    · omega
    · cases f.kind <;> decide
    · exact hpayload.imp (fun h => ⟨_, h⟩) And.left

end Frame

/-- A text that has been trimmed does not begin with a blank. -/
theorem Text.head_trimChars (cs : List Char) : ∀ c ∈ (trimChars cs).head?, isBlank c = false := by
  intro c hc
  have hpre : trimChars cs <+: cs.dropWhile isBlank := by
    rw [← List.reverse_suffix, trimChars, List.reverse_reverse]
    exact List.dropWhile_suffix _
  obtain ⟨ds, hds⟩ := List.head?_eq_some_iff.mp hc
  obtain ⟨es, hes⟩ := hpre
  have hhead := List.head?_dropWhile_not isBlank cs
  rw [← hes, hds] at hhead
  simpa using hhead

namespace Json

section Braces

theorem isBlank_of_isSpace {c : Char} (h : isSpace c = true) : Text.isBlank c = true := by
  simp only [isSpace, Bool.or_eq_true, beq_iff_eq] at h
  rcases h with ((rfl | rfl) | rfl) | rfl <;> decide

theorem lexeme_openObject : Lexeme .openObject ['{'] := .fixed nofun nofun

theorem lexeme_closeObject : Lexeme .closeObject ['}'] := .fixed nofun nofun

theorem Lexeme.openObject_eq {cs : List Char} (h : Lexeme .openObject cs) : cs = ['{'] := by
  cases h
  rfl

theorem Lexeme.closeObject_eq {cs : List Char} (h : Lexeme .closeObject cs) : cs = ['}'] := by
  cases h
  rfl

/-- A brace that opens an object begins no other lexeme. -/
theorem Lexeme.eq_openObject {t : Token} {cs : List Char} (h : Lexeme t cs)
    (hc : cs.head? = some '{') :
    t = .openObject := by
  obtain ⟨c, ds, rfl, -, hread⟩ := h.token? fun _ _ => ends_nil
  obtain rfl := Option.some.inj hc
  exact (congrArg Prod.fst (Option.some.inj hread)).symm

theorem Lexeme.ne_nil {t : Token} {cs : List Char} (h : Lexeme t cs) : cs ≠ [] := by
  obtain ⟨c, ds, rfl, -⟩ := h.token? fun _ _ => ends_nil
  exact List.cons_ne_nil c ds

/-- Behind the brace that closes an object there are blanks, which may be left out. -/
theorem Spaced.closeObject {ts : List Token} {cs : List Char}
    (h : Spaced (ts ++ [.closeObject]) cs) :
    ∃ body bs, cs = body ++ '}' :: bs ∧ (∀ c ∈ bs, isSpace c = true) ∧
      Spaced (ts ++ [.closeObject]) (body ++ ['}']) := by
  induction ts generalizing cs with
  | nil =>
    cases h with
    | @cons _ _ bs lexeme rest hb ht hrest =>
      obtain rfl := ht.closeObject_eq
      cases hrest with
      | nil hbs =>
        exact ⟨bs, rest, rfl, hbs, .cons hb lexeme_closeObject (.nil (List.forall_mem_nil _))⟩
  | cons t ts ih =>
    cases h with
    | @cons _ _ bs lexeme rest hb ht hrest =>
      obtain ⟨body, bs', rfl, hbs', hbody⟩ := ih hrest
      refine ⟨bs ++ (lexeme ++ body), bs', by simp, hbs', ?_⟩
      have hspaced := Spaced.cons hb ht hbody
      simpa using hspaced

namespace Value

/-- A text that is cut into the tokens of a value spells it. -/
theorem Spelled.of_tokens? {v : Value} {text : String}
    (h : tokens? (Text.symbolsOf text) = some v.tokens) :
    v.Spelled text := by
  have hclean : none ∉ Text.symbolsOf text := by simp [Text.symbolsOf]
  obtain ⟨cs, hcs, hspaced⟩ := tokens?_eq_some hclean h
  rwa [Spelled, List.map_injective_iff.mpr (Option.some_injective Char) hcs]

theorem exists_tokens_object (ms : List Member) :
    ∃ ts, (object ms).tokens = .openObject :: (ts ++ [.closeObject]) := by
  cases ms with
  | nil => exact ⟨[], rfl⟩
  | cons m ms =>
    obtain ⟨ts, hts⟩ := exists_moreMembers_eq ms
    exact ⟨.string m.1 :: .colon :: (m.2.tokens ++ ts), by rw [tokens, hts]; simp⟩

/-- A text that spells an object still does so without the blanks around it. -/
theorem Spelled.trim {ms : List Member} {text : String} (h : (object ms).Spelled text) :
    (object ms).Spelled (Text.trim text) := by
  obtain ⟨ts, hts⟩ := exists_tokens_object ms
  rw [Spelled, hts] at h ⊢
  rw [Text.toList_trim]
  generalize text.toList = cs at h
  cases h with
  | @cons _ _ bs lexeme rest hb ht hrest =>
    obtain rfl := ht.openObject_eq
    obtain ⟨body, bs', rfl, hbs', hbody⟩ := hrest.closeObject
    have htrim : Text.trimChars (bs ++ (['{'] ++ (body ++ '}' :: bs'))) =
        '{' :: (body ++ ['}']) := by
      have hcut : Text.trimChars (bs ++ ('{' :: (body ++ ['}']) ++ bs')) = '{' :: (body ++ ['}']) :=
        Text.trimChars_append (fun c hc => isBlank_of_isSpace (hb c hc)) (fun c hc =>
          isBlank_of_isSpace (hbs' c hc))
          (by decide) (by decide)
      simpa using hcut
    rw [htrim]
    have hspaced :
        Spaced (.openObject :: (ts ++ [.closeObject])) ([] ++ (['{'] ++ (body ++ ['}']))) :=
      .cons (List.forall_mem_nil _) lexeme_openObject hbody
    exact hspaced

/-- Only objects begin with a brace. -/
theorem Spelled.eq_object {v : Value} {text : String} (h : v.Spelled text)
    (hhead : text.toList.head? = some '{') :
    ∃ ms, v = object ms := by
  obtain ⟨cs, hcs⟩ := List.head?_eq_some_iff.mp hhead
  rw [Spelled, hcs] at h
  have hbrace : ∀ bs : List Char, (∀ c ∈ bs, isSpace c = true) → '{' ∉ bs :=
    fun bs hb hmem => absurd (hb _ hmem) (by decide)
  have hfirst : v.tokens.head? = some .openObject := by
    generalize hts : v.tokens = ts, hds : '{' :: cs = ds at h
    cases h with
    | nil hb => exact absurd (hds ▸ List.mem_cons_self) (hbrace _ hb)
    | @cons t _ bs lexeme rest hb ht _ =>
      cases bs with
      | cons b bs =>
        obtain ⟨rfl, -⟩ := List.cons.inj hds
        exact absurd List.mem_cons_self (hbrace _ hb)
      | nil =>
        obtain ⟨c, ds, rfl⟩ := List.exists_cons_of_ne_nil ht.ne_nil
        obtain ⟨rfl, -⟩ := List.cons.inj hds
        rw [ht.eq_openObject rfl, List.head?_cons]
  cases v with
  | object ms => exact ⟨ms, rfl⟩
  | array vs => cases vs <;> cases hfirst
  | _ => cases hfirst

/-- The text of an object without blanks in front begins with a brace. -/
theorem Spelled.head_trim {ms : List Member} {text : String}
    (h : (object ms).Spelled (Text.trim text)) :
    (Text.trim text).toList.head? = some '{' := by
  obtain ⟨ts, hts⟩ := exists_tokens_object ms
  rw [Spelled, hts] at h
  have hblank := Text.head_trimChars text.toList
  rw [Text.toList_trim] at h ⊢
  generalize Text.trimChars text.toList = cs at h hblank
  cases h with
  | @cons _ _ bs lexeme rest hb ht _ =>
    obtain rfl := ht.openObject_eq
    cases bs with
    | nil => rfl
    | cons b bs =>
      have hspace := isBlank_of_isSpace (hb b List.mem_cons_self)
      rw [hblank b rfl] at hspace
      cases hspace

end Value

end Braces

end Json

namespace Frame

variable {text : String}

theorem decode_eq_ok_iff_parse {f : Frame} : decode text = .ok f ↔
    (Text.trim text).toList.head? = some '{' ∧
      (Value.parse? (Text.trim text)).bind ofJson? = some f := by
  unfold decode
  dsimp only
  split
  · next hhead =>
    rw [and_iff_right hhead]
    cases (Value.parse? (Text.trim text)).bind ofJson? <;> simp
  · next hhead => exact iff_of_false nofun fun h => hhead h.1

/-- A text is a frame where it spells, but for the blanks around it, an object that says so. -/
theorem decode_eq_ok_iff {f : Frame} : decode text = .ok f ↔
    ∃ ms, (Value.object ms).Spelled (Text.trim text) ∧ Unambiguous ms ∧
    Conveys Numeral.ReadsAs ms f := by
  rw [decode_eq_ok_iff_parse, Option.bind_eq_some_iff]
  constructor
  · rintro ⟨hhead, v, hparse, hread⟩
    have hspelled := Value.parse?_eq_some_iff.mp hparse
    obtain ⟨ms, rfl⟩ := hspelled.eq_object hhead
    exact ⟨ms, hspelled, ofJson?_object.mp hread⟩
  · rintro ⟨ms, hspelled, hread⟩
    exact ⟨hspelled.head_trim, _, Value.parse?_eq_some_iff.mpr hspelled, ofJson?_object.mpr hread⟩

/-- The members of an object tell which frame its text is. -/
theorem decode_object_eq_ok_iff {ms : List Member} (h : (Value.object ms).Spelled text)
    {f : Frame} :
    decode text = .ok f ↔ Unambiguous ms ∧ Conveys Numeral.ReadsAs ms f := by
  rw [decode_eq_ok_iff]
  constructor
  · rintro ⟨ms', hspelled, hread⟩
    have hsame :=
      (Value.parse?_eq_some_iff.mpr h.trim).symm.trans (Value.parse?_eq_some_iff.mpr hspelled)
    cases hsame
    exact hread
  · exact fun hread => ⟨ms, h.trim, hread⟩

/-- A frame is accepted by four of its members, and is what they say. Any text that is accepted is,
but for the blanks around it, an object whose members have well-formed values; and an object is
accepted where its keys are texts, those of the four members are not repeated, the kind and the
number are integers in range, the operation is a text, and so is the payload where there is one. Two
objects that agree on the four members are the same frame. -/
theorem accepted_iff :
    (∀ text f, decode text = .ok f ↔
      ∃ ms, (Value.object ms).Spelled (Text.trim text) ∧ Unambiguous ms ∧
      Conveys Numeral.ReadsAs ms f) ∧
    ∀ text ms, (Value.object ms).Spelled text →
      ((∃ f, decode text = .ok f) ↔ Admissible Numeral.ReadsAs ms) ∧
      ∀ f, decode text = .ok f → Conveys Numeral.ReadsAs ms f ∧
        ∀ text' ms' f', (Value.object ms').Spelled text' → decode text' = .ok f' →
          (∀ name ∈ keys, ∀ v, (some name, v) ∈ ms ↔ (some name, v) ∈ ms') → f' = f := by
  refine ⟨fun text f => decode_eq_ok_iff, fun text ms h => ⟨?_, fun f hf => ⟨?_, ?_⟩⟩⟩
  · rw [admissible_iff]
    simp only [decode_object_eq_ok_iff h, exists_and_left]
  · exact ((decode_object_eq_ok_iff h).mp hf).2
  · intro text' ms' f' h' hf' hagree
    have hwell := ((decode_object_eq_ok_iff h).mp hf).1
    have hconveys := ((decode_object_eq_ok_iff h').mp hf').2.congr hagree
    have hsame : decode text = .ok f' := (decode_object_eq_ok_iff h).mpr ⟨hwell, hconveys⟩
    exact Except.ok.inj (hsame.symm.trans hf)

/-- A frame with its members out of order, blanks between them and escapes in them. The payload is
not given, and there are members besides with a surrogate alone, a number beyond all bounds and a
key that counts further out only. -/
def oddText : String :=
  " \x7b\"i\" :-9223372036854775808,\n\"\\u006d\":3,\"M\":\"\\ud800\",\"x\":[1e999,\x7b\"m\":-0\x7d],\"n\":\"\\ud83d\\ude00\"\x7d\t"

def oddMembers : List Member :=
  [(some "i", .int (-9223372036854775808)), (some "m", .int 3), (some "M", .string none),
    (some "x", .array [
      .number { whole := ['1'], exponent := some ⟨false, ['9', '9', '9']⟩ },
      .object [(some "m", .number { negative := true, whole := ['0'] })]]),
    (some "n", .text "😀")]

theorem oddText_accepted : (Value.object oddMembers).Spelled oddText ∧
    decode oddText = .ok ⟨.event, -9223372036854775808, "😀", ""⟩ ∧
    Admissible Numeral.ReadsAs oddMembers := by
  have hspelled : (Value.object oddMembers).Spelled oddText := by
    exact .of_tokens? (by decide +kernel)
  have hunambiguous : Unambiguous oddMembers := ⟨by decide, by decide⟩
  have hkind : (some "m", .number (.ofInt 3)) ∈ oddMembers := .tail _ (.head _)
  have hsequence : (some "i", .number (.ofInt (-9223372036854775808))) ∈ oddMembers := .head _
  have hoperation : (some "n", .text "😀") ∈ oddMembers :=
    .tail _ (.tail _ (.tail _ (.tail _ (.head _))))
  have hconveys : Conveys Numeral.ReadsAs oddMembers ⟨.event, -9223372036854775808, "😀", ""⟩ :=
    ⟨⟨_, hkind, Numeral.readsAs_ofInt 3⟩, ⟨_, hsequence, Numeral.readsAs_ofInt _⟩, hoperation,
      .inr ⟨by decide, rfl⟩⟩
  have hdecode := (accepted_iff.1 oddText _).mpr ⟨oddMembers, hspelled.trim, hunambiguous, hconveys⟩
  exact ⟨hspelled, hdecode, (accepted_iff.2 oddText oddMembers hspelled).1.mp ⟨_, hdecode⟩⟩

/-- Members of which the number is nought behind a minus sign. -/
def signedMembers : List Member :=
  [(some "m", .int 0), (some "i", .number { negative := true, whole := ['0'] }),
    (some "n", .text "X")]

/-- Nought is refused behind a minus sign, though its literal is that of an integer in range. -/
theorem minus_zero_refused : ¬ ∀ text ms, (Value.object ms).Spelled text →
    ((∃ f, decode text = .ok f) ↔ Admissible Numeral.IsInteger ms) := by
  intro h
  have hspelled : (Value.object signedMembers).Spelled "\x7b\"m\":0,\"i\":-0,\"n\":\"X\"\x7d" := by
    exact .of_tokens? (by decide +kernel)
  have hkind : (some "m", .number (.ofInt 0)) ∈ signedMembers := .head _
  have hadmissible : Admissible Numeral.IsInteger signedMembers :=
    ⟨⟨by decide, by decide⟩, ⟨_, 0, hkind, (Numeral.readsAs_ofInt 0).1, by decide, by decide⟩,
      ⟨_, 0, .tail _ (.head _), ⟨rfl, rfl, rfl⟩, by decide, by decide⟩,
      ⟨"X", .tail _ (.tail _ (.head _))⟩, .inr (by decide)⟩
  obtain ⟨f, hf⟩ := (h _ signedMembers hspelled).mpr hadmissible
  obtain ⟨n, hn, -, hnot⟩ := ((decode_object_eq_ok_iff hspelled).mp hf).2.sequence
  obtain rfl : n = { negative := true, whole := ['0'] } := by
    simpa [signedMembers, Value.int] using hn
  exact hnot ⟨rfl, rfl⟩

end Frame

end VenueGateway
