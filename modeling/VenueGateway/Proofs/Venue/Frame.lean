import VenueGateway.Proofs.Json.Wire
import VenueGateway.Venue.Frame

/-!
A frame is read back from its text, whatever its payload is made of and whatever blanks stand around
it. The text of an object begins and ends with a brace, so the blanks are all that is trimmed.
-/

namespace VenueGateway

open Json (Value)

namespace Text

/-- Nothing but the blanks around a text is trimmed. -/
theorem trimChars_append {v w cs : List Char} {first last : Char} (hv : ∀ c ∈ v, isBlank c = true)
    (hw : ∀ c ∈ w, isBlank c = true) (hfirst : isBlank first = false)
    (hlast : isBlank last = false) :
    trimChars (v ++ (first :: (cs ++ [last]) ++ w)) = first :: (cs ++ [last]) := by
  have hw' : ∀ c ∈ w.reverse, isBlank c = true := fun c hc => hw c (List.mem_reverse.mp hc)
  rw [trimChars, List.dropWhile_append_of_pos hv, List.cons_append, List.dropWhile_cons, hfirst]
  simp only [Bool.false_eq_true, if_false, List.reverse_cons, List.reverse_append,
    List.append_assoc, List.dropWhile_append_of_pos hw', List.reverse_nil, List.nil_append,
    List.cons_append, List.dropWhile_cons, hlast, List.reverse_reverse]

end Text

namespace Json.Value

/-- Behind the last member of an object there is its brace. -/
theorem exists_moreMembers_eq (ms : List Member) : ∃ ts, moreMembers ms = ts ++ [.closeObject] := by
  induction ms with
  | nil => exact ⟨[], rfl⟩
  | cons m ms ih =>
    obtain ⟨ts, hts⟩ := ih
    refine ⟨.comma :: .string m.1 :: .colon :: (m.2.tokens ++ ts), ?_⟩
    rw [moreMembers, hts, ← List.append_assoc, ← List.cons_append, ← List.cons_append,
      ← List.cons_append]

theorem exists_chars_object (ms : List Member) :
    ∃ cs, (object ms).chars = '{' :: (cs ++ ['}']) := by
  cases ms with
  | nil => exact ⟨[], rfl⟩
  | cons m ms =>
    obtain ⟨ts, hts⟩ := exists_moreMembers_eq ms
    refine ⟨(.string m.1 :: .colon :: (m.2.tokens ++ ts)).flatMap Token.chars, ?_⟩
    simp [chars, tokens, hts, Token.chars]

end Json.Value

@[simp] theorem MessageKind.ofJson?_int (k : MessageKind) : ofJson? (.int k.code) = some k := by
  simp [ofJson?, Value.int, Value.integer?]

namespace Frame

theorem wellFormed_toJson (f : Frame) : f.toJson.WellFormed := by
  refine Value.wellFormed_fields fun m hm => ?_
  simp only [List.mem_cons, List.not_mem_nil, or_false] at hm
  rcases hm with rfl | rfl | rfl | rfl
  · exact Value.wellFormed_int _
  · exact Value.wellFormed_int _
  · exact Value.wellFormed_text _
  · exact Value.wellFormed_text _

theorem ofJson?_toJson (f : Frame) : ofJson? f.toJson = some f := by
  simp [ofJson?, toJson, Value.record?_fields, List.lookup_cons, Json.Field.required,
    Json.Field.optional]

theorem exists_toList_encode (f : Frame) : ∃ cs, f.encode.toList = '{' :: (cs ++ ['}']) := by
  obtain ⟨cs, hcs⟩ := Value.exists_chars_object _
  exact ⟨cs, String.toList_ofList.trans hcs⟩

theorem trim_encode (f : Frame) {v w : String} (hv : Text.allBlank v = true)
    (hw : Text.allBlank w = true) :
    Text.trim (v ++ f.encode ++ w) = f.encode := by
  obtain ⟨cs, hcs⟩ := f.exists_toList_encode
  rw [Text.trim, String.toList_append, String.toList_append, hcs, List.append_assoc,
    Text.trimChars_append (List.all_eq_true.mp hv) (List.all_eq_true.mp hw) (by decide) (by decide),
    ← hcs, String.ofList_toList]

/-- Whatever is trimmed to the text of a frame spells the frame. -/
theorem decode_of_trim {s : String} {f : Frame} (h : Text.trim s = f.encode) :
    decode s = .ok f := by
  obtain ⟨cs, hcs⟩ := f.exists_toList_encode
  have hhead : f.encode.toList.head? = some '{' := by rw [hcs, List.head?_cons]
  have hparse : Value.parse? f.encode = some f.toJson := Value.parse?_print f.wellFormed_toJson
  simp only [decode, h, hhead, hparse, Option.bind_some, ofJson?_toJson, if_true]

theorem decode_unpadded (f : Frame) : decode f.encode = .ok f := by
  have htrim := f.trim_encode (v := "") (w := "") rfl rfl
  rw [String.empty_append, String.append_empty] at htrim
  exact decode_of_trim htrim

/-- A frame is read back from its text, with any blanks around it. -/
theorem decode_encode (f : Frame) (v w : String) (hv : Text.allBlank v = true)
    (hw : Text.allBlank w = true) :
    decode (v ++ f.encode ++ w) = .ok f :=
  decode_of_trim (f.trim_encode hv hw)

/-- The payload is the text of an object whose key holds a quote, a backslash and a line break, and
there are blanks around the frame that are none to JSON. -/
theorem nested_decode_encode :
    let f : Frame := ⟨.event, -9223372036854775808, "Send\x22Order\\",
      "\x7b\x22a\\n\\\x22\x22:\x22\x00\x01\x7f 😀\x22\x7d"⟩
    Text.allBlank "\u00a0\t\u3000" = true ∧ Text.allBlank "\u2028\u0085" = true ∧
      decode ("\u00a0\t\u3000" ++ f.encode ++ "\u2028\u0085") = .ok f := by
  intro f
  have hv : Text.allBlank "\u00a0\t\u3000" = true := by decide
  have hw : Text.allBlank "\u2028\u0085" = true := by decide
  exact ⟨hv, hw, decode_encode f _ _ hv hw⟩

end Frame

end VenueGateway
