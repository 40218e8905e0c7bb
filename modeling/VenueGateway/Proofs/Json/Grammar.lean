import VenueGateway.Json.Printer

/-!
The grammar of JSON texts. A text is made of lexemes with blanks between them, and it spells a value
where its lexemes are the tokens of the value in order. A numeral has one spelling for each way to
write its exponent; a string literal is written piece by piece, and denotes a text unless a
surrogate stands alone in it.
-/

namespace VenueGateway.Json

/-- What JSON allows for a numeral: no zero in front of other digits, and one digit at least in an
exponent. -/
structure Numeral.WellFormed (n : Numeral) : Prop where
  whole : n.whole = ['0'] ∨ n.whole ≠ [] ∧ n.whole.head? ≠ some '0'
  wholeDigits : ∀ c ∈ n.whole, c.isDigit = true
  fractionDigits : ∀ c ∈ n.fraction, c.isDigit = true
  exponentDigits : ∀ e ∈ n.exponent, e.digits ≠ [] ∧ ∀ c ∈ e.digits, c.isDigit = true

/-- How an exponent is written: not at all, or behind either letter, a plus sign being optional. -/
inductive Exponent.Spelled : Option Exponent → List Char → Prop
  | absent : Spelled none []
  | unsigned {mark : Char} {ds : List Char} (hm : mark = 'e' ∨ mark = 'E') :
    Spelled (some ⟨false, ds⟩) (mark :: ds)
  | signed {mark : Char} {negative : Bool} {ds : List Char} (hm : mark = 'e' ∨ mark = 'E') :
      Spelled (some ⟨negative, ds⟩) (mark :: (if negative then '-' else '+') :: ds)

namespace Numeral

def signChars (n : Numeral) : List Char := if n.negative then ['-'] else []

def fractionChars (n : Numeral) : List Char := if n.fraction = [] then [] else '.' :: n.fraction

structure Spelled (n : Numeral) (cs : List Char) : Prop where
  wellFormed : n.WellFormed
  chars : ∃ es, Exponent.Spelled n.exponent es ∧ cs = n.signChars ++
    (n.whole ++ (n.fractionChars ++ es))

end Numeral

/-- How the inside of a string literal is written: a character stands for itself, unless it is a
quote, a backslash or a control character, and an escape for a character or for a UTF-16 unit. -/
inductive Quoted : List Char → List Piece → Prop
  | nil : Quoted [] []
  | plain {c : Char} {cs : List Char} {ps : List Piece} (hquote : c ≠ '"') (hslash : c ≠ '\\')
      (hcontrol : ¬ c.toNat < 0x20) (h : Quoted cs ps) : Quoted (c :: cs) (.char c :: ps)
  | short {e c : Char} {cs : List Char} {ps : List Piece} (he : escaped? e = some c)
      (h : Quoted cs ps) :
      Quoted ('\\' :: e :: cs) (.char c :: ps)
  | unit {w x y z : Char} {n : Nat} {cs : List Char} {ps : List Piece}
      (hn : unit? (some w) (some x) (some y) (some z) = some n) (h : Quoted cs ps) :
      Quoted ('\\' :: 'u' :: w :: x :: y :: z :: cs) (.unit n :: ps)

/-- A UTF-16 unit that is the first half of a character. -/
def HighSurrogate (n : Nat) : Prop := 0xD800 ≤ n ∧ n < 0xDC00

/-- A UTF-16 unit that is the second half of a character. -/
def LowSurrogate (n : Nat) : Prop := 0xDC00 ≤ n ∧ n < 0xE000

/-- The characters that pieces denote. A surrogate denotes a character together with its other half
only. -/
inductive Denotes : List Piece → List Char → Prop
  | nil : Denotes [] []
  | char (c : Char) {ps : List Piece} {cs : List Char} (h : Denotes ps cs) :
    Denotes (.char c :: ps) (c :: cs)
  | unit {n : Nat} {ps : List Piece} {cs : List Char} (hhigh : ¬ HighSurrogate n)
      (hlow : ¬ LowSurrogate n)
      (h : Denotes ps cs) : Denotes (.unit n :: ps) (Char.ofNat n :: cs)
  | pair {n m : Nat} {ps : List Piece} {cs : List Char} (hn : HighSurrogate n) (hm : LowSurrogate m)
      (h : Denotes ps cs) :
      Denotes (.unit n :: .unit m :: ps)
        (Char.ofNat (0x10000 + (n - 0xD800) * 0x400 + (m - 0xDC00)) :: cs)

/-- What a string literal is read as: the text that its pieces denote, or no text where they denote
none. -/
inductive Means (ps : List Piece) : Literal → Prop
  | text {s : String} (h : Denotes ps s.toList) : Means ps (some s)
  | none (h : ∀ cs, ¬ Denotes ps cs) : Means ps none

inductive Lexeme : Token → List Char → Prop
  | fixed {t : Token} (hn : ∀ n, t ≠ .number n) (hs : ∀ s, t ≠ .string s) : Lexeme t t.chars
  | number {n : Numeral} {cs : List Char} (h : n.Spelled cs) : Lexeme (.number n) cs
  | string {cs : List Char} {ps : List Piece} {s : Literal} (hq : Quoted cs ps) (hm : Means ps s) :
      Lexeme (.string s) ('"' :: (cs ++ ['"']))

/-- A text made of lexemes, with blanks in front of each and behind the last. -/
inductive Spaced : List Token → List Char → Prop
  | nil {bs : List Char} (hb : ∀ c ∈ bs, isSpace c = true) : Spaced [] bs
  | cons {t : Token} {ts : List Token} {bs cs rest : List Char} (hb : ∀ c ∈ bs,
      isSpace c = true) (ht : Lexeme t cs)
      (h : Spaced ts rest) : Spaced (t :: ts) (bs ++ (cs ++ rest))

def Value.Spelled (v : Value) (text : String) : Prop := Spaced v.tokens text.toList

section Printing

/-- The four digits of an escape by number denote the number again. -/
theorem unit?_digitChar {n : Nat} (h : n < 0x20) :
    unit? (some '0') (some '0') (some (Nat.digitChar (n / 16))) (some (Nat.digitChar (n % 16))) =
      some n := by
  have hall : ∀ n < 0x20,
      unit? (some '0') (some '0') (some (Nat.digitChar (n / 16))) (some (Nat.digitChar (n % 16))) =
        some n := by decide
  exact hall n h

/-- What an escaped character is read as: a control character without a short form as a unit. -/
def pieceOf (c : Char) : Piece :=
  if c.toNat < 0x20 ∧ c ∉ ['\x08', '\x0c', '\n', '\r', '\t'] then .unit c.toNat else .char c

/-- An escaped character is spelled as the grammar has it. -/
theorem quoted_escape (c : Char) {cs : List Char} {ps : List Piece} (h : Quoted cs ps) :
    Quoted (escape c ++ cs) (pieceOf c :: ps) := by
  unfold escape
  split
  case h_8 hquote hslash hb hf hn hr ht =>
    have hlisted : c ∉ ['\x08', '\x0c', '\n', '\r', '\t'] := by
      simp only [List.mem_cons, List.not_mem_nil, or_false, not_or]
      exact ⟨hb, hf, hn, hr, ht⟩
    split
    · next hcontrol =>
      rw [pieceOf, if_pos ⟨hcontrol, hlisted⟩]
      exact .unit (unit?_digitChar hcontrol) h
    · next hcontrol =>
      rw [pieceOf, if_neg fun hboth => hcontrol hboth.1]
      exact .plain hquote hslash hcontrol h
  all_goals exact .short rfl h

/-- A control character is the character of its own number. -/
theorem denotes_pieceOf (c : Char) {ps : List Piece} {cs : List Char} (h : Denotes ps cs) :
    Denotes (pieceOf c :: ps) (c :: cs) := by
  unfold pieceOf
  split
  · next hc =>
    have hunit := Denotes.unit (n := c.toNat) (fun hhigh => by unfold HighSurrogate at hhigh; omega)
      (fun hlow => by unfold LowSurrogate at hlow; omega) h
    rwa [Char.ofNat_toNat] at hunit
  · exact .char c h

theorem quoted_flatMap_escape (cs : List Char) : Quoted (cs.flatMap escape) (cs.map pieceOf) := by
  induction cs with
  | nil => exact .nil
  | cons c cs ih => exact quoted_escape c ih

theorem denotes_map_pieceOf (cs : List Char) : Denotes (cs.map pieceOf) cs := by
  induction cs with
  | nil => exact .nil
  | cons c cs ih => exact denotes_pieceOf c ih

theorem lexeme_literal (s : Literal) : Lexeme (.string s) (literal s) := by
  cases s with
  | some s => exact .string (quoted_flatMap_escape s.toList) (.text (denotes_map_pieceOf s.toList))
  | none =>
    have hquoted : Quoted ['\\', 'u', 'd', '8', '0', '0'] [.unit 0xD800] := .unit rfl .nil
    refine .string hquoted (.none fun cs h => ?_)
    cases h with
    | unit hhigh => exact hhigh ⟨by decide, by decide⟩

theorem lexeme_numeral {n : Numeral} (hn : n.WellFormed) : Lexeme (.number n) n.chars := by
  have hexponent : Exponent.Spelled n.exponent ((n.exponent.map Exponent.chars).getD []) := by
    cases n.exponent with
    | none => exact .absent
    | some e => exact .signed (.inl rfl)
  refine .number ⟨hn, _, hexponent, ?_⟩
  simp only [Numeral.chars, Numeral.signChars, Numeral.fractionChars, List.append_assoc]

/-- What is written for a token is a lexeme of it. -/
theorem lexeme_chars {t : Token} (ht : ∀ n, t = .number n → n.WellFormed) : Lexeme t t.chars := by
  cases t with
  | number n => exact lexeme_numeral (ht n rfl)
  | string s => exact lexeme_literal s
  | _ => exact .fixed nofun nofun

theorem spaced_flatMap_chars {ts : List Token} (h : ∀ n, .number n ∈ ts → n.WellFormed) :
    Spaced ts (ts.flatMap Token.chars) := by
  induction ts with
  | nil => exact .nil nofun
  | cons t ts ih =>
    have hfirst := lexeme_chars (t := t) fun n hn => h n (hn ▸ List.mem_cons_self)
    have hrest := ih fun n hn => h n (List.mem_cons_of_mem _ hn)
    have hspaced : Spaced (t :: ts) ([] ++ (t.chars ++ ts.flatMap Token.chars)) :=
      .cons nofun hfirst hrest
    exact hspaced

def Value.WellFormed (v : Value) : Prop := ∀ n, .number n ∈ v.tokens → n.WellFormed

/-- The text that is written for a value spells it. -/
theorem Value.spelled_print {v : Value} (hv : v.WellFormed) : v.Spelled v.print := by
  rw [Spelled, print, String.toList_ofList]
  exact spaced_flatMap_chars hv

end Printing

end VenueGateway.Json
