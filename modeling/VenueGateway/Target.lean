/-!
Targets of requests: a path, an address with a scheme, an authority and a path, or an authority
alone. A query and a fragment may follow a path, and do not belong to it.
-/

namespace VenueGateway.Target

/-- The number of bytes that a target stays below. -/
def lengthLimit : Nat := 65535

def maxSchemeLength : Nat := 64

/-- The most colons that an authority holds in one stretch, as many as an address in brackets
needs. -/
def maxColons : Nat := 8

def isSchemeChar (c : Char) : Bool := c.isAlphanum || c == '+' || c == '-' || c == '.' || c == '~'

/-- What follows the scheme, where there is one. -/
def afterScheme? (cs : List Char) : Option (List Char) :=
  match cs.dropWhile isSchemeChar with
  | ':' :: '/' :: '/' :: rest => some rest
  | _ => none

def endsAuthority (c : Char) : Bool := c == '/' || c == '?' || c == '#'

/-- Whether a character may stand in an authority and means nothing there. -/
def isPlain (c : Char) : Bool := c.isAlphanum || "!$&'()*+,-.;=_~".toList.contains c

/-- What an authority holds, as far as it is read. -/
structure Authority where
  /-- The colons since the last at sign or closing bracket. -/
  colons : Nat := 0
  opened : Bool := false
  closed : Bool := false
  /-- Whether there was a percent sign since the last at sign or closing bracket. -/
  percent : Bool := false
  /-- Whether an at sign came last. -/
  afterAt : Bool := false
  deriving DecidableEq, Repr

namespace Authority

def step? (a : Authority) (c : Char) : Option Authority :=
  let a := { a with afterAt := c == '@' }
  match c with
  | ':' => if a.colons < maxColons then some { a with colons := a.colons + 1 } else none
  | '[' => if a.percent || a.opened then none else some { a with opened := true }
  | ']' => if a.opened &&
    !a.closed then some { a with closed := true, colons := 0, percent := false } else none
  | '@' => some { a with colons := 0, percent := false }
  | '%' => some { a with percent := true }
  | c => if isPlain c then some a else none

/-- Whether it may end here. -/
def isComplete (a : Authority) : Bool :=
  a.opened == a.closed && a.colons ≤ 1 && !a.afterAt && !a.percent

def accepts (cs : List Char) : Bool := !cs.isEmpty && (cs.foldlM step? {}).any isComplete

end Authority

/-- Whether a character is seen in print and stands outside angle brackets. -/
def isVisible (c : Char) : Bool := 0x20 < c.toNat && c.toNat != 0x7F && c != '<' && c != '>'

/-- Whether a character may stand in a path, beside those that end it. -/
def isPathChar (c : Char) : Bool := isVisible c && c.toNat != 0x60

/-- Whether a character may stand in a query, beside the one that ends it. -/
def isQueryChar (c : Char) : Bool := isVisible c && c != '"'

def endsPath (c : Char) : Bool := c == '?' || c == '#'

/-- The query that follows a path. -/
def queryChars : List Char → List Char
  | '?' :: cs => cs.takeWhile (· != '#')
  | _ => []

/-- The path that characters begin with. An empty one is the root. -/
def leadingPath? (cs : List Char) : Option String :=
  let path := cs.takeWhile fun c => !endsPath c
  if path.all isPathChar && (queryChars (cs.dropWhile fun c => !endsPath c)).all isQueryChar then
    some (if path.isEmpty then "/" else String.ofList path)
  else none

/-- The path behind the scheme of an address. -/
def addressPath? (cs : List Char) : Option String :=
  if Authority.accepts (cs.takeWhile fun c => !endsAuthority c) then
    leadingPath? (cs.dropWhile fun c => !endsAuthority c)
  else none

/-- The path of a target, which is empty for an authority alone. A malformed target has none. -/
def path? (target : String) : Option String :=
  let cs := target.toList
  if lengthLimit ≤ target.utf8ByteSize then none
  else if cs = ['*'] then some target
  else if cs.head? = some '/' then leadingPath? cs
  else match afterScheme? cs with
    | some rest => if (cs.takeWhile isSchemeChar).length ≤ maxSchemeLength then addressPath? rest
      else none
    | none => if Authority.accepts cs then some "" else none

end VenueGateway.Target
