import VenueGateway.Json.Value
import VenueGateway.Text.Utf8

/-!
JSON tokens: cutting a text into tokens, and the text of a token. Blanks stand between tokens only,
an escape is one of the nine that JSON knows, and a control character is never written as itself.
-/

namespace VenueGateway.Json

open Text (Symbol)

/-- What a JSON text is made of, blanks apart. -/
inductive Token where
  | openArray
  | closeArray
  | openObject
  | closeObject
  | comma
  | colon
  | null
  | bool (b : Bool)
  | number (n : Numeral)
  | string (s : Literal)
  deriving DecidableEq, Repr

/-- The four characters that may stand between tokens. -/
def isSpace (c : Char) : Bool := c == ' ' || c == '\t' || c == '\n' || c == '\r'

/-- What a string literal is made of: a character, a UTF-16 unit given by its number, or a stray
byte. -/
inductive Piece where
  | char (c : Char)
  | unit (n : Nat)
  | stray
  deriving DecidableEq, Repr

def hexValue? (c : Char) : Option Nat :=
  if c.isDigit then some (c.toNat - 48)
  else if 'a' ≤ c ∧ c ≤ 'f' then some (c.toNat - 87)
  else if 'A' ≤ c ∧ c ≤ 'F' then some (c.toNat - 55)
  else none

def unit? (a b c d : Symbol) : Option Nat := do
  let a ← a.bind hexValue?
  let b ← b.bind hexValue?
  let c ← c.bind hexValue?
  let d ← d.bind hexValue?
  some (((a * 16 + b) * 16 + c) * 16 + d)

/-- The character that a one-letter escape stands for. -/
def escaped? (c : Char) : Option Char :=
  match c with
  | '"' => some '"'
  | '\\' => some '\\'
  | '/' => some '/'
  | 'b' => some '\x08'
  | 'f' => some '\x0c'
  | 'n' => some '\n'
  | 'r' => some '\r'
  | 't' => some '\t'
  | _ => none

/-- The pieces of a string literal up to its closing quote, and what follows the quote. -/
def pieces? : List Symbol → Option (List Piece × List Symbol)
  | [] => none
  | none :: rest => (pieces? rest).map fun r => (.stray :: r.1, r.2)
  | some c :: rest =>
    if c = '"' then some ([], rest)
    else if c = '\\' then
      match rest with
      | some e :: more =>
        if e = 'u' then
          match more with
          | w :: x :: y :: z :: rest => do
            let n ← unit? w x y z
            let r ← pieces? rest
            some (.unit n :: r.1, r.2)
          | _ => none
        else do
          let c ← escaped? e
          let r ← pieces? more
          some (.char c :: r.1, r.2)
      | _ => none
    else if c.toNat < 0x20 then none
    else (pieces? rest).map fun r => (.char c :: r.1, r.2)

/-- The characters of a string literal: a high surrogate needs a low one right behind it, and a
stray byte or a surrogate alone denotes nothing. -/
def chars? : List Piece → Option (List Char)
  | [] => some []
  | .char c :: rest => (chars? rest).map (c :: ·)
  | .stray :: _ => none
  | .unit n :: rest =>
    if 0xD800 ≤ n ∧ n < 0xDC00 then
      match rest with
      | .unit m :: more =>
        if 0xDC00 ≤ m ∧ m < 0xE000 then
          (chars? more).map (Char.ofNat (0x10000 + (n - 0xD800) * 0x400 + (m - 0xDC00)) :: ·)
        else none
      | _ => none
    else if 0xDC00 ≤ n ∧ n < 0xE000 then none
    else (chars? rest).map (Char.ofNat n :: ·)

def leadingDigits : List Symbol → List Char × List Symbol
  | some c :: rest =>
    if c.isDigit then (c :: (leadingDigits rest).1, (leadingDigits rest).2)
      else ([], some c :: rest)
  | rest => ([], rest)

/-- The whole part of a numeral: a zero alone, or digits that begin otherwise. -/
def whole? : List Symbol → Option (List Char × List Symbol)
  | some '0' :: rest => some (['0'], rest)
  | s => if (leadingDigits s).1 = [] then none else some (leadingDigits s)

/-- The fraction behind a point, where there is a point. -/
def fraction? : List Symbol → Option (List Char × List Symbol)
  | some '.' :: rest => if (leadingDigits rest).1 = [] then none else some (leadingDigits rest)
  | s => some ([], s)

/-- The digits of an exponent behind its sign. -/
def signedExponent? (negative : Bool) (s : List Symbol) : Option (Option Exponent × List Symbol) :=
  if (leadingDigits s).1 = [] then none
  else some (some ⟨negative, (leadingDigits s).1⟩, (leadingDigits s).2)

/-- The exponent behind an `e`, where there is one. -/
def exponent? : List Symbol → Option (Option Exponent × List Symbol)
  | some c :: rest =>
    if c = 'e' ∨ c = 'E' then
      match rest with
      | some '+' :: rest => signedExponent? false rest
      | some '-' :: rest => signedExponent? true rest
      | _ => signedExponent? false rest
    else some (none, some c :: rest)
  | s => some (none, s)

/-- The numeral behind its sign. -/
def unsignedNumeral? (negative : Bool) (s : List Symbol) : Option (Token × List Symbol) := do
  let w ← whole? s
  let f ← fraction? w.2
  let e ← exponent? f.2
  some (.number ⟨negative, w.1, f.1, e.1⟩, e.2)

def token? (c : Char) (rest : List Symbol) : Option (Token × List Symbol) :=
  match c with
  | '[' => some (.openArray, rest)
  | ']' => some (.closeArray, rest)
  | '{' => some (.openObject, rest)
  | '}' => some (.closeObject, rest)
  | ',' => some (.comma, rest)
  | ':' => some (.colon, rest)
  | '"' => (pieces? rest).map fun r => (.string ((chars? r.1).map String.ofList), r.2)
  | '-' => unsignedNumeral? true rest
  | 'n' =>
    match rest with
    | some 'u' :: some 'l' :: some 'l' :: rest => some (.null, rest)
    | _ => none
  | 't' =>
    match rest with
    | some 'r' :: some 'u' :: some 'e' :: rest => some (.bool true, rest)
    | _ => none
  | 'f' =>
    match rest with
    | some 'a' :: some 'l' :: some 's' :: some 'e' :: rest => some (.bool false, rest)
    | _ => none
  | c => if c.isDigit then unsignedNumeral? false (some c :: rest) else none

theorem length_pieces? {s : List Symbol} {r} (h : pieces? s = some r) : r.2.length < s.length := by
  fun_induction pieces? s generalizing r <;>
    simp_all [Option.bind_eq_some_iff, Option.map_eq_some_iff] <;> grind

theorem length_leadingDigits (s : List Symbol) : (leadingDigits s).2.length ≤ s.length := by
  fun_induction leadingDigits s <;> simp_all
  omega

theorem length_leadingDigits_lt {s : List Symbol} (h : (leadingDigits s).1 ≠ []) :
    (leadingDigits s).2.length < s.length := by
  revert h
  fun_cases leadingDigits s <;> simp_all
  rename_i rest _
  have := length_leadingDigits rest
  omega

theorem length_whole? {s : List Symbol} {r} (h : whole? s = some r) : r.2.length < s.length := by
  revert h
  fun_cases whole? s <;> simp_all
  · rintro rfl; simp
  · rintro rfl; exact length_leadingDigits_lt (by assumption)

theorem length_fraction? {s : List Symbol} {r} (h : fraction? s = some r) :
    r.2.length ≤ s.length := by
  revert h
  fun_cases fraction? s <;> simp_all
  · rintro rfl
    rename_i rest _
    have := length_leadingDigits rest
    simp; omega
  · rintro rfl; simp

theorem length_signedExponent? {negative : Bool} {s : List Symbol} {r}
    (h : signedExponent? negative s = some r) : r.2.length ≤ s.length := by
  revert h
  simp only [signedExponent?]
  split
  · simp
  · simp only [Option.some.injEq]
    rintro rfl
    exact length_leadingDigits s

theorem length_exponent? {s : List Symbol} {r} (h : exponent? s = some r) :
    r.2.length ≤ s.length := by
  revert h
  fun_cases exponent? s <;> intro h
  case case1 => grind [length_signedExponent? h]
  case case2 => grind [length_signedExponent? h]
  case case3 => grind [length_signedExponent? h]
  all_goals grind

theorem length_unsignedNumeral? {negative : Bool} {s : List Symbol} {r}
    (h : unsignedNumeral? negative s = some r) : r.2.length < s.length := by
  simp only [unsignedNumeral?, Option.bind_eq_bind, Option.bind_eq_some_iff, Option.some.injEq] at h
  obtain ⟨w, hw, f, hf, e, he, rfl⟩ := h
  have := length_whole? hw
  have := length_fraction? hf
  have := length_exponent? he
  simp only
  omega

/-- A token takes one symbol or more. -/
theorem length_token? {c : Char} {rest : List Symbol} {r} (h : token? c rest = some r) :
    r.2.length ≤ rest.length := by
  unfold token? at h
  split at h
  all_goals try split at h
  all_goals try cases h
  all_goals try simp
  case h_7 =>
    obtain ⟨p, hp, rfl⟩ := Option.map_eq_some_iff.1 h
    exact Nat.le_of_lt (length_pieces? hp)
  case h_8 => exact Nat.le_of_lt (length_unsignedNumeral? h)
  case h_12.isTrue => exact Nat.lt_succ_iff.1 (length_unsignedNumeral? h)
  all_goals omega

def skipSpace : List Symbol → List Symbol
  | some c :: rest => if isSpace c then skipSpace rest else some c :: rest
  | s => s

theorem length_skipSpace (s : List Symbol) : (skipSpace s).length ≤ s.length := by
  fun_induction skipSpace s <;> simp_all
  omega

def tokens? (s : List Symbol) : Option (List Token) :=
  match _hs : skipSpace s with
  | [] => some []
  | none :: _ => none
  | some c :: rest =>
    match _ht : token? c rest with
    | none => none
    | some r => (tokens? r.2).map (r.1 :: ·)
termination_by s.length
decreasing_by
  have h₁ := length_token? _ht
  have h₂ := length_skipSpace s
  rw [_hs] at h₂
  simp at h₂
  omega

end VenueGateway.Json
