/-!
Bytes as text. A byte sequence is read symbol by symbol: a well-formed UTF-8 sequence is a
character, and a byte that begins none is a stray byte, which stands alone. The bytes are a text
when no byte is stray.
-/

namespace VenueGateway.Text

/-- A character, or a byte that begins no well-formed UTF-8 sequence. -/
abbrev Symbol := Option Char

def symbolsOf (s : String) : List Symbol := s.toList.map some

/-- The payload bits of a continuation byte. -/
def continuation? (b : UInt8) : Option Nat :=
  if 0x80 ≤ b ∧ b < 0xC0 then some (b.toNat - 0x80) else none

/-- The character of a scalar value, which must need as many bytes as were spent on it. -/
def scalar? (least n : Nat) : Option Char :=
  if least ≤ n ∧ n.isValidChar then some (Char.ofNat n) else none

def two? (a b : UInt8) : Option Char :=
  if 0xC0 ≤ a ∧ a < 0xE0 then do
    let x ← continuation? b
    scalar? 0x80 ((a.toNat - 0xC0) * 0x40 + x)
  else none

def three? (a b c : UInt8) : Option Char :=
  if 0xE0 ≤ a ∧ a < 0xF0 then do
    let x ← continuation? b
    let y ← continuation? c
    scalar? 0x800 (((a.toNat - 0xE0) * 0x40 + x) * 0x40 + y)
  else none

def four? (a b c d : UInt8) : Option Char :=
  if 0xF0 ≤ a ∧ a < 0xF8 then do
    let x ← continuation? b
    let y ← continuation? c
    let z ← continuation? d
    scalar? 0x10000 ((((a.toNat - 0xF0) * 0x40 + x) * 0x40 + y) * 0x40 + z)
  else none

/-- The first symbol of a byte sequence and the bytes behind it. -/
def symbol (a : UInt8) (rest : List UInt8) : Symbol × List UInt8 :=
  if a < 0x80 then (some (Char.ofNat a.toNat), rest) else
  match rest with
  | [] => (none, [])
  | b :: bs =>
    match two? a b, bs with
    | some ch, _ => (some ch, bs)
    | none, [] => (none, rest)
    | none, c :: cs =>
      match three? a b c, cs with
      | some ch, _ => (some ch, cs)
      | none, [] => (none, rest)
      | none, d :: ds =>
        match four? a b c d with
        | some ch => (some ch, ds)
        | none => (none, rest)

theorem length_symbol_le (a : UInt8) (rest : List UInt8) :
    (symbol a rest).2.length ≤ rest.length := by
  unfold symbol
  repeat' split
  all_goals simp_all
  all_goals omega

def symbols : List UInt8 → List Symbol
  | [] => []
  | a :: rest =>
    have := length_symbol_le a rest
    (symbol a rest).1 :: symbols (symbol a rest).2
termination_by bytes => bytes.length
decreasing_by simp; omega

/-- The characters that symbols are, where no byte is stray. -/
def characters? (s : List Symbol) : Option (List Char) := s.mapM id

/-- The text that bytes encode, where they are well-formed UTF-8. -/
def ofBytes? (bytes : List UInt8) : Option String := (characters? (symbols bytes)).map String.ofList

def bytes (s : String) : List UInt8 := s.toUTF8.toList

def hexOfByte (b : UInt8) : List Char :=
  [Nat.digitChar (b.toNat / 16), Nat.digitChar (b.toNat % 16)]

/-- Bytes in lower-case hexadecimal. -/
def hex (bytes : List UInt8) : String := String.ofList (bytes.flatMap hexOfByte)

end VenueGateway.Text
