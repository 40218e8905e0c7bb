import VenueGateway.Json.Field
import VenueGateway.Proofs.Json.Tokens

/-!
A text is read as a value where it spells the value, and nowhere else. The reader, whatever
containers it is inside of, goes through the tokens of a value and ends behind it; and what it has
taken at any moment are the tokens of what it keeps.
-/

namespace VenueGateway.Json

section Cutting

/-- No two numerals stand in a row. -/
theorem Reader.step?_number {r r' : Reader} {n : Numeral} (h : r.step? (.number n) = some r')
    (m : Numeral) :
    r'.step? (.number m) = none := by
  have hbegun : ∀ frames, begin? frames (.number n) = some r' → r'.step? (.number m) = none := by
    intro frames h
    obtain rfl := Option.some.inj h
    rcases frames with _ | ⟨_ | _, _⟩ <;> rfl
  obtain ⟨frames, mode⟩ := r
  cases mode with
  | value => exact hbegun frames h
  | firstItem => rcases frames with _ | ⟨⟨_ | _⟩ | _, _⟩ <;> exact hbegun _ h
  | after v => rcases frames with _ | ⟨_ | _, _⟩ <;> cases h
  | firstKey | key | colon => cases h

/-- A lexeme of any other token does not belong to a numeral in front of it. -/
theorem Lexeme.ends {t : Token} {cs : List Char} (h : Lexeme t cs) (hn : ∀ n, t ≠ .number n)
    (rest : List Char) :
    Ends (cs ++ rest) := by
  cases h with
  | number => exact absurd rfl (hn _)
  | string => exact ends_cons (by decide) _
  | fixed _ hs =>
    cases t with
    | number n => exact absurd rfl (hn n)
    | string s => exact absurd rfl (hs s)
    | bool b => cases b <;> exact ends_cons (by decide) _
    | _ => exact ends_cons (by decide) _

theorem ends_blanks {bs cs : List Char} (hb : ∀ c ∈ bs, isSpace c = true) (h : Ends cs) :
    Ends (bs ++ cs) := by
  cases bs with
  | nil => exact h
  | cons b bs =>
    have hspace : ∀ c, isSpace c = true → c.isDigit = false ∧ c ≠ '.' ∧ c ≠ 'e' ∧ c ≠ 'E' := by
      intro c hc
      simp only [isSpace, Bool.or_eq_true, beq_iff_eq] at hc
      rcases hc with ((rfl | rfl) | rfl) | rfl <;> decide
    exact ends_cons (hspace b (hb b List.mem_cons_self)) _

theorem Spaced.ends {ts : List Token} {cs : List Char} (h : Spaced ts cs)
    (hn : ∀ n, ts.head? ≠ some (.number n)) :
    Ends cs := by
  cases h with
  | nil hb =>
    have hends := ends_blanks hb ends_nil
    rwa [List.append_nil] at hends
  | cons hb ht _ => exact ends_blanks hb (ht.ends (fun n ht => hn n (by rw [ht]; rfl)) _)

/-- A text made of lexemes is cut into their tokens, if the reader takes them. -/
theorem tokens?_spaced {ts : List Token} {cs : List Char} (h : Spaced ts cs) {r r' : Reader}
    (hr : r.run? ts = some r') :
    tokens? (cs.map some) = some ts := by
  induction h generalizing r with
  | nil hb => exact tokens?_blanks hb
  | @cons t ts bs cs rest hb ht hrest ih =>
    obtain ⟨r₁, hstep, hrun⟩ := Option.bind_eq_some_iff.mp hr
    have hends : ∀ n, t = .number n → Ends rest := by
      rintro n rfl
      refine hrest.ends fun m hm => ?_
      obtain ⟨ts', rfl⟩ := List.head?_eq_some_iff.mp hm
      rw [Reader.run?_cons, Reader.step?_number hstep m] at hrun
      cases hrun
    rw [tokens?_lexeme hb ht hends, ih hrun, Option.map_some]

end Cutting

namespace Value

section Reading

/-- A value does not begin with a bracket that closes, so the first item of an array is read as any
value is. -/
theorem run?_firstItem (frames : List Json.Frame) (v : Value) :
    Reader.run? ⟨frames, .firstItem⟩ v.tokens = Reader.run? ⟨frames, .value⟩ v.tokens := by
  cases v with
  | array vs => cases vs <;> simp [tokens, Reader.step?]
  | object ms => rcases ms with _ | ⟨⟨k, v⟩, ms⟩ <;> simp [tokens, Reader.step?]
  | _ => simp [tokens, Reader.step?]

mutual

/-- The reader goes through the tokens of a value and has the value in the end, in the containers it
began in. -/
theorem run?_tokens (v : Value) (frames : List Json.Frame) :
    Reader.run? ⟨frames, .value⟩ v.tokens = some ⟨frames, .after v⟩ := by
  match v with
  | .null | .bool b | .number n | .string s => simp [tokens, Reader.step?, Reader.begin?]
  | .array [] => simp [tokens, Reader.step?, Reader.begin?]
  | .object [] => simp [tokens, Reader.step?, Reader.begin?]
  | .array (v :: vs) =>
    have hitem := run?_tokens v (.array [] :: frames)
    have hmore := run?_moreItems vs [] v frames
    rw [tokens, Reader.run?_cons]
    simp only [Reader.step?, Reader.begin?, Option.bind_some, Reader.run?_append,
      run?_firstItem, hitem]
    exact hmore
  | .object ((k, v) :: ms) =>
    have hmember := run?_tokens v (.object [] k :: frames)
    have hmore := run?_moreMembers ms [] k v frames
    rw [tokens, Reader.run?_cons]
    simp only [Reader.run?_cons, Reader.step?, Reader.begin?, Option.bind_some,
      Reader.run?_append, hmember]
    exact hmore

/-- By induction on the items that are left. -/
theorem run?_moreItems (vs items : List Value) (v : Value) (frames : List Json.Frame) :
    Reader.run? ⟨.array items :: frames, .after v⟩ (moreItems vs) =
      some ⟨frames, .after (.array (items.reverse ++ v :: vs))⟩ := by
  match vs with
  | [] => simp [moreItems, Reader.step?, Reader.continue?]
  | v' :: vs =>
    have hitem := run?_tokens v' (.array (v :: items) :: frames)
    have hmore := run?_moreItems vs (v :: items) v' frames
    rw [moreItems, Reader.run?_cons]
    simp only [Reader.step?, Reader.continue?, Option.bind_some, Reader.run?_append, hitem, hmore]
    simp

/-- By induction on the members that are left. -/
theorem run?_moreMembers (ms members : List Member) (k : Literal) (v : Value)
    (frames : List Json.Frame) :
    Reader.run? ⟨.object members k :: frames, .after v⟩ (moreMembers ms) =
      some ⟨frames, .after (.object (members.reverse ++ (k, v) :: ms))⟩ := by
  match ms with
  | [] => simp [moreMembers, Reader.step?, Reader.continue?]
  | (k', v') :: ms =>
    have hmember := run?_tokens v' (.object ((k, v) :: members) k' :: frames)
    have hmore := run?_moreMembers ms ((k, v) :: members) k' v' frames
    rw [moreMembers, Reader.run?_cons]
    simp only [Reader.run?_cons, Reader.step?, Reader.continue?, Option.bind_some,
      Reader.run?_append, hmember, hmore]
    simp

end

theorem ofTokens?_tokens (v : Value) : ofTokens? v.tokens = some v := by
  rw [ofTokens?, Reader.start, run?_tokens v [], Option.bind_some, Reader.result?]

end Reading

section Taken

def itemsTaken (vs : List Value) : List Token := vs.flatMap fun v => v.tokens ++ [.comma]

def membersTaken (ms : List Member) : List Token :=
  ms.flatMap fun m => .string m.1 :: .colon :: (m.2.tokens ++ [.comma])

theorem tokens_append_moreItems (vs : List Value) (first last : Value) :
    first.tokens ++ moreItems (vs ++ [last]) = itemsTaken (first :: vs) ++
      (last.tokens ++ [.closeArray]) := by
  induction vs generalizing first with
  | nil => simp [moreItems, itemsTaken]
  | cons v vs ih =>
    have hrest := ih v
    simp only [itemsTaken, List.cons_append, List.flatMap_cons, moreItems,
      List.append_assoc] at hrest ⊢
    rw [hrest]
    simp

theorem tokens_array_concat (vs : List Value) (last : Value) :
    (array (vs ++ [last])).tokens =
      .openArray :: (itemsTaken vs ++ (last.tokens ++ [.closeArray])) := by
  cases vs with
  | nil => simp [tokens, moreItems, itemsTaken]
  | cons v vs => rw [List.cons_append, tokens, tokens_append_moreItems]

theorem tokens_append_moreMembers (ms : List Member) (first last : Member) :
    .string first.1 :: .colon :: (first.2.tokens ++ moreMembers (ms ++ [last])) =
      membersTaken (first :: ms) ++
        (.string last.1 :: .colon :: (last.2.tokens ++ [.closeObject])) := by
  induction ms generalizing first with
  | nil => simp [moreMembers, membersTaken]
  | cons m ms ih =>
    have hrest := ih m
    simp only [membersTaken, List.cons_append, List.flatMap_cons, moreMembers,
      List.append_assoc] at hrest ⊢
    rw [hrest]
    simp

theorem tokens_object_concat (ms : List Member) (last : Member) :
    (object (ms ++ [last])).tokens =
      .openObject ::
        (membersTaken ms ++ (.string last.1 :: .colon :: (last.2.tokens ++ [.closeObject]))) := by
  cases ms with
  | nil => simp [tokens, moreMembers, membersTaken]
  | cons m ms => rw [List.cons_append, tokens, tokens_append_moreMembers]

end Taken

end Value

section Taken

open Value (itemsTaken membersTaken)

def Frame.taken : Json.Frame → List Token
  | .array items => .openArray :: itemsTaken items.reverse
  | .object members key => .openObject :: (membersTaken members.reverse ++ [.string key, .colon])

/-- The tokens behind the last container. -/
def Mode.taken : Mode → List Token
  | .value | .firstItem => []
  | .firstKey => [.openObject]
  | .key members => .openObject :: membersTaken members.reverse
  | .colon members name => .openObject :: (membersTaken members.reverse ++ [.string name])
  | .after v => v.tokens

/-- The tokens that a reader has taken. -/
def Reader.taken (r : Reader) : List Token := r.frames.reverse.flatMap Frame.taken ++ r.mode.taken

theorem Reader.taken_begin? {frames : List Json.Frame} {t : Token} {r : Reader}
    (h : begin? frames t = some r) :
    r.taken = frames.reverse.flatMap Frame.taken ++ [t] := by
  cases t <;> cases h <;> simp [taken, Mode.taken, Frame.taken, Value.tokens, itemsTaken]

/-- Behind a complete value the reader has taken one token more. -/
theorem Reader.taken_continue? {v : Value} {frames : List Json.Frame} {t : Token} {r : Reader}
    (h : continue? v frames t = some r) :
    r.taken = frames.reverse.flatMap Frame.taken ++ v.tokens ++ [t] := by
  unfold continue? at h
  split at h
  · cases h
    simp [taken, Mode.taken, Frame.taken, itemsTaken]
  · cases h
    simp [taken, Mode.taken, Frame.taken, Value.tokens_array_concat]
  · cases h
    simp [taken, Mode.taken, Frame.taken, membersTaken]
  · cases h
    simp [taken, Mode.taken, Frame.taken, Value.tokens_object_concat]
  · cases h

/-- A step takes one token. -/
theorem Reader.taken_step? {r r' : Reader} {t : Token} (h : r.step? t = some r') :
    r'.taken = r.taken ++ [t] := by
  obtain ⟨frames, mode⟩ := r
  cases mode with
  | value => simpa [taken, Mode.taken] using taken_begin? h
  | firstItem =>
    simp only [step?] at h
    split at h
    · cases h
      simp [taken, Mode.taken, Frame.taken, Value.tokens, itemsTaken]
    · simpa [taken, Mode.taken] using taken_begin? h
  | firstKey =>
    simp only [step?] at h
    split at h <;> cases h <;> simp [taken, Mode.taken, Value.tokens, membersTaken]
  | key members =>
    simp only [step?] at h
    split at h <;> cases h
    simp [taken, Mode.taken]
  | colon members key =>
    simp only [step?] at h
    split at h <;> cases h
    simp [taken, Mode.taken, Frame.taken]
  | after v => simpa [taken, Mode.taken] using taken_continue? h

theorem Reader.taken_run? {r r' : Reader} {ts : List Token} (h : r.run? ts = some r') :
    r'.taken = r.taken ++ ts := by
  induction ts generalizing r with
  | nil =>
    obtain rfl := Option.some.inj h
    rw [List.append_nil]
  | cons t ts ih =>
    obtain ⟨r₁, hstep, hrun⟩ := Option.bind_eq_some_iff.mp h
    rw [ih hrun, taken_step? hstep, List.append_assoc, List.singleton_append]

end Taken

namespace Value

/-- Tokens are read as the value that they are the tokens of. -/
theorem ofTokens?_eq_some_iff {ts : List Token} {v : Value} :
    ofTokens? ts = some v ↔ ts = v.tokens := by
  refine ⟨fun h => ?_, ?_⟩
  · obtain ⟨r, hrun, hresult⟩ := Option.bind_eq_some_iff.mp h
    have htaken := Reader.taken_run? hrun
    unfold Reader.result? at hresult
    split at hresult
    · cases hresult
      simpa [Reader.taken, Mode.taken, Reader.start] using htaken.symm
    · cases hresult
  · rintro rfl
    exact ofTokens?_tokens v

/-- A text is read as the value that it spells. -/
theorem parse?_eq_some_iff {text : String} {v : Value} : parse? text = some v ↔ v.Spelled text := by
  constructor
  · intro h
    obtain ⟨ts, hcut, hread⟩ := Option.bind_eq_some_iff.mp h
    obtain rfl := ofTokens?_eq_some_iff.mp hread
    obtain ⟨cs, hcs, hspaced⟩ := tokens?_eq_some (by simp [Text.symbolsOf]) hcut
    have htext : text.toList = cs := (List.map_inj_right fun _ _ => Option.some.inj).mp hcs
    rw [Spelled, htext]
    exact hspaced
  · intro h
    have hcut := tokens?_spaced h (run?_tokens v [])
    rw [parse?, ofSymbols?, Text.symbolsOf, hcut, Option.bind_some, ofTokens?_tokens]

/-- A value is read back from the text that is written for it. -/
theorem parse?_print {v : Value} (hv : v.WellFormed) : parse? v.print = some v :=
  parse?_eq_some_iff.mpr (spelled_print hv)

end Value

end VenueGateway.Json
