import VenueGateway.Json.Reader

/-!
Writing JSON without blanks. The two delimiters of strings and the control characters are escaped,
in the short form where there is one, and every other character is written as itself.
-/

namespace VenueGateway.Json

def escape (c : Char) : List Char :=
  match c with
  | '"' => ['\\', '"']
  | '\\' => ['\\', '\\']
  | '\x08' => ['\\', 'b']
  | '\x0c' => ['\\', 'f']
  | '\n' => ['\\', 'n']
  | '\r' => ['\\', 'r']
  | '\t' => ['\\', 't']
  | c =>
    if c.toNat < 0x20 then
      ['\\', 'u', '0', '0', Nat.digitChar (c.toNat / 16), Nat.digitChar (c.toNat % 16)]
    else [c]

/-- A string literal. One that denotes no text is written as a surrogate alone, which denotes
none. -/
def literal : Literal → List Char
  | some s => '"' :: s.toList.flatMap escape ++ ['"']
  | none => ['"', '\\', 'u', 'd', '8', '0', '0', '"']

namespace Exponent

def chars (e : Exponent) : List Char := 'e' :: (if e.negative then '-' else '+') :: e.digits

end Exponent

namespace Numeral

def chars (n : Numeral) : List Char :=
  (if n.negative then ['-'] else []) ++ n.whole ++
    (if n.fraction = [] then [] else '.' :: n.fraction) ++ (n.exponent.map Exponent.chars).getD []

end Numeral

namespace Token

def chars : Token → List Char
  | .openArray => ['[']
  | .closeArray => [']']
  | .openObject => ['{']
  | .closeObject => ['}']
  | .comma => [',']
  | .colon => [':']
  | .null => ['n', 'u', 'l', 'l']
  | .bool true => ['t', 'r', 'u', 'e']
  | .bool false => ['f', 'a', 'l', 's', 'e']
  | .number n => n.chars
  | .string s => literal s

end Token

namespace Value

mutual

/-- The tokens of a value. -/
def tokens : Value → List Token
  | .null => [.null]
  | .bool b => [.bool b]
  | .number n => [.number n]
  | .string s => [.string s]
  | .array [] => [.openArray, .closeArray]
  | .array (v :: vs) => .openArray :: (tokens v ++ moreItems vs)
  | .object [] => [.openObject, .closeObject]
  | .object ((k, v) :: ms) => .openObject :: .string k :: .colon :: (tokens v ++ moreMembers ms)

/-- The tokens of the items behind the first one, to the end of the array. -/
def moreItems : List Value → List Token
  | [] => [.closeArray]
  | v :: vs => .comma :: (tokens v ++ moreItems vs)

/-- The tokens of the members behind the first one, to the end of the object. -/
def moreMembers : List Member → List Token
  | [] => [.closeObject]
  | (k, v) :: ms => .comma :: .string k :: .colon :: (tokens v ++ moreMembers ms)

end

def chars (v : Value) : List Char := v.tokens.flatMap Token.chars

def print (v : Value) : String := String.ofList v.chars

end Value

end VenueGateway.Json
