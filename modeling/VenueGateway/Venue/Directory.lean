import VenueGateway.Assoc
import VenueGateway.Json.Field

/-!
The instrument directory: which number the venue has for which symbol. It is kept in both directions
at once, and a new pair drives out the pairs that mention its symbol or its number.
-/

namespace VenueGateway

/-- The instruments known by symbol and by number. -/
structure Directory where
  idOf : Assoc String Int64
  symbolOf : Assoc Int64 String
  deriving DecidableEq, Repr

namespace Directory

def empty : Directory := ⟨.empty, .empty⟩

instance : Inhabited Directory := ⟨empty⟩

def id? (d : Directory) (symbol : String) : Option Int64 := d.idOf.get? symbol

def symbol? (d : Directory) (id : Int64) : Option String := d.symbolOf.get? id

def size (d : Directory) : Nat := d.idOf.size

/-- The numbers by symbol without the number that a symbol had before. -/
def dropId (d : Directory) (symbol : String) (id : Int64) : Assoc Int64 String :=
  match d.idOf.get? symbol with
  | some former => if former = id then d.symbolOf else d.symbolOf.erase former
  | none => d.symbolOf

/-- The symbols by number without the symbol that a number had before. -/
def dropSymbol (idOf : Assoc String Int64) (symbolOf : Assoc Int64 String) (symbol : String)
    (id : Int64) :
    Assoc String Int64 :=
  match symbolOf.get? id with
  | some former => if former = symbol then idOf else idOf.erase former
  | none => idOf

def insert (d : Directory) (symbol : String) (id : Int64) : Directory :=
  let symbolOf := d.dropId symbol id
  let idOf := dropSymbol d.idOf symbolOf symbol id
  ⟨idOf.insert symbol id, symbolOf.insert id symbol⟩

def insertAll (d : Directory) (pairs : List (String × Int64)) : Directory :=
  pairs.foldl (fun d p => d.insert p.1 p.2) d

end Directory

/-- Why a directory was not loaded. -/
inductive DirectoryError where
  /-- There is no such document. -/
  | notFound
  /-- The document cannot be read as a text. -/
  | unreadable
  /-- The text is no object of symbols with numbers. -/
  | malformed
  deriving DecidableEq, Repr

/-- What is found under the name of a document. -/
inductive Document where
  | missing
  | unreadable
  | bytes (content : List UInt8)
  deriving DecidableEq, Repr

namespace Document

def text : Document → Except DirectoryError String
  | missing => .error .notFound
  | unreadable => .error .unreadable
  | bytes content =>
    match Text.ofBytes? content with
    | some s => .ok s
    | none => .error .unreadable

end Document

namespace Directory

/-- A member of a document. -/
def pair? (m : Json.Member) : Option (String × Int64) := do
  let symbol ← m.1
  let id ← m.2.int64?
  some (symbol, id)

/-- The pairs of a document. The last number of a repeated symbol counts. -/
def pairs? : Json.Value → Option (Assoc String Int64)
  | .object members => (members.mapM pair?).map Assoc.ofList
  | _ => none

/-- Enters all pairs of a text and tells their number. A text that is malformed changes nothing. -/
def load (order : VisitOrder (String × Int64)) (d : Directory) (text : String) :
    Except DirectoryError (Directory × Nat) :=
  match (Json.Value.parse? text).bind pairs? with
  | some pairs => .ok (d.insertAll (order.arrange pairs.entries), pairs.size)
  | none => .error .malformed

def loadDocument (order : VisitOrder (String × Int64)) (d : Directory) (doc : Document) :
    Except DirectoryError (Directory × Nat) :=
  doc.text.bind (d.load order)

end Directory

end VenueGateway
