import Mathlib.Data.Set.Card
import VenueGateway.Gateway.Replies

/-!
The directory is one to one. What an insertion does is told on either side by one law, and the two
laws mirror each other, so neither side is left with half a pair. Main statement: whatever is
loaded, added or replied, a directory knows the pairs that were entered and not driven out since,
and knows them from both sides.
-/

namespace VenueGateway

namespace Assoc

variable {κ ν : Type} [DecidableEq κ]

/-- A map has as many entries as keys with a value. -/
theorem encard_keys (m : Assoc κ ν) : {k | ∃ v, m.get? k = some v}.encard = m.size := by
  have hkeys : {k | ∃ v, m.get? k = some v} = ((m.entries.map Prod.fst).toFinset : Set κ) := by
    ext k
    simp [get?_eq_some_iff]
  rw [hkeys, Set.encard_coe_eq_coe_finsetCard, List.toFinset_card_of_nodup m.nodup,
    List.length_map, size]

end Assoc

namespace Directory

section Insertion

variable (d : Directory) (symbol symbol' : String) (id id' : Int64)

theorem get?_dropId :
    (d.dropId symbol id).get? id' = if d.id? symbol = some id' ∧ id' ≠ id then none
      else d.symbol? id' := by
  unfold dropId id? symbol?
  split
  · next former hformer =>
    split
    · next hsame => grind
    · next hother => rw [Assoc.get?_erase]; grind
  · next hnone => simp [hnone]

theorem get?_dropSymbol (idOf : Assoc String Int64) (symbolOf : Assoc Int64 String) :
    (dropSymbol idOf symbolOf symbol id).get? symbol' =
      if symbolOf.get? id = some symbol' ∧ symbol' ≠ symbol then none else idOf.get? symbol' := by
  unfold dropSymbol
  split
  · next former hformer =>
    split
    · next hsame => grind
    · next hother => rw [Assoc.get?_erase]; grind
  · next hnone => simp [hnone]

/-- The symbol that had the number before is forgotten. -/
theorem id?_insert :
    (d.insert symbol id).id? symbol' =
      if symbol' = symbol then some id else if d.symbol? id = some symbol' then none
        else d.id? symbol' := by
  -- The number itself is not dropped with the former number of the symbol.
  have hkept : (d.dropId symbol id).get? id = d.symbol? id := by simp [get?_dropId]
  rw [insert, id?, Assoc.get?_insert, get?_dropSymbol, hkept, id?]
  grind

/-- The number that the symbol had before is forgotten. -/
theorem symbol?_insert :
    (d.insert symbol id).symbol? id' =
      if id' = id then some symbol else if d.id? symbol = some id' then none
        else d.symbol? id' := by
  rw [insert, symbol?, Assoc.get?_insert, get?_dropId]
  grind

end Insertion

/-- A symbol has a number just where the number has the symbol. -/
def Inverse (d : Directory) : Prop :=
  ∀ symbol id, d.id? symbol = some id ↔ d.symbol? id = some symbol

theorem inverse_empty : empty.Inverse := by simp [Inverse, empty, id?, symbol?]

def pairs (d : Directory) : Set (String × Int64) := {p | d.id? p.1 = some p.2}

/-- A pair is entered among others, and those that mention its symbol or its number are driven
out. -/
def entering (known : Set (String × Int64)) (p : String × Int64) : Set (String × Int64) :=
  {q ∈ known | q.1 ≠ p.1 ∧ q.2 ≠ p.2} ∪ {p}

namespace Inverse

variable {d : Directory} (h : d.Inverse) (symbol symbol' : String) (id id' : Int64)

include h

/-- After an insertion a symbol has the number that it had before if neither is mentioned. -/
theorem id?_insert_eq_some_iff :
    (d.insert symbol id).id? symbol' = some id' ↔
      symbol' = symbol ∧ id' = id ∨ symbol' ≠ symbol ∧ id' ≠ id ∧ d.id? symbol' = some id' := by
  rw [id?_insert]
  split
  · next hs => simp [hs, eq_comm]
  · next hs =>
    have hformer : d.symbol? id = some symbol' ↔ d.id? symbol' = some id := (h symbol' id).symm
    grind

theorem symbol?_insert_eq_some_iff :
    (d.insert symbol id).symbol? id' = some symbol' ↔
      symbol' = symbol ∧ id' = id ∨ symbol' ≠ symbol ∧ id' ≠ id ∧ d.symbol? id' = some symbol' := by
  rw [symbol?_insert]
  split
  · next hi => simp [hi, eq_comm]
  · next hi =>
    have hformer : d.id? symbol = some id' ↔ d.symbol? id' = some symbol := h symbol id'
    grind

theorem insert : (d.insert symbol id).Inverse := by
  intro symbol' id'
  rw [h.id?_insert_eq_some_iff, h.symbol?_insert_eq_some_iff, h symbol' id']

theorem pairs_insert : (d.insert symbol id).pairs = entering d.pairs (symbol, id) := by
  ext ⟨symbol', id'⟩
  simp only [pairs, entering, Set.mem_ofPred_eq, Set.mem_union, Set.mem_singleton_iff,
    Prod.mk.injEq, h.id?_insert_eq_some_iff]
  grind

end Inverse

inductive Update where
  /-- A text is loaded, and its pairs are met in some order. -/
  | text (order : VisitOrder (String × Int64)) (text : String)
  /-- A document is loaded. -/
  | document (order : VisitOrder (String × Int64)) (doc : Document)
  /-- One pair is added. -/
  | pair (symbol : String) (id : Int64)
  /-- The venue lists its instruments. -/
  | reply (f : Frame)

/-- A directory after an update. What cannot be read changes nothing. -/
def update (d : Directory) : Update → Directory
  | .text order text =>
    match d.load order text with
    | .ok r => r.1
    | .error _ => d
  | .document order doc =>
    match d.loadDocument order doc with
    | .ok r => r.1
    | .error _ => d
  | .pair symbol id => d.insert symbol id
  | .reply f =>
    match ReplyKind.instruments.effect? d f with
    | some effect => effect.1
    | none => d

def updateAll (d : Directory) (us : List Update) : Directory := us.foldl update d

/-- The pairs of a text in the order in which they are met. -/
def pairsOfText (order : VisitOrder (String × Int64)) (text : String) : List (String × Int64) :=
  match (Json.Value.parse? text).bind pairs? with
  | some pairs => order.arrange pairs.entries
  | none => []

def Update.pairs : Update → List (String × Int64)
  | .text order s => pairsOfText order s
  | .document order doc =>
    match doc.text with
    | .ok s => pairsOfText order s
    | .error _ => []
  | .pair symbol id => [(symbol, id)]
  | .reply f =>
    match f.body?.bind InstrumentsReply.ofJson? with
    | some r => r.pairs
    | none => []

theorem update_text (d : Directory) (order : VisitOrder (String × Int64)) (text : String) :
    d.update (.text order text) = d.insertAll (pairsOfText order text) := by
  rw [update, load, pairsOfText]
  cases (Json.Value.parse? text).bind pairs? <;> rfl

/-- However it comes about, an update enters its pairs one by one. -/
theorem update_eq (d : Directory) (u : Update) : d.update u = d.insertAll u.pairs := by
  cases u with
  | text order text => exact d.update_text order text
  | document order doc =>
    have htext := d.update_text order
    rw [update, loadDocument, Update.pairs]
    cases doc.text with
    | error e => rfl
    | ok text => exact htext text
  | pair symbol id => rfl
  | reply f =>
    rw [update, ReplyKind.effect?, Update.pairs]
    cases f.body?.bind InstrumentsReply.ofJson? <;> rfl

theorem Inverse.insertAll {d : Directory} (h : d.Inverse) (ps : List (String × Int64)) :
    (d.insertAll ps).Inverse ∧ (d.insertAll ps).pairs = ps.foldl entering d.pairs := by
  induction ps generalizing d with
  | nil => exact ⟨h, rfl⟩
  | cons p ps ih =>
    have hrest := ih (h.insert p.1 p.2)
    rw [h.pairs_insert] at hrest
    exact hrest

theorem Inverse.updateAll {d : Directory} (h : d.Inverse) (us : List Update) :
    (d.updateAll us).Inverse ∧ (d.updateAll us).pairs =
      (us.flatMap Update.pairs).foldl entering d.pairs := by
  induction us generalizing d with
  | nil => exact ⟨h, rfl⟩
  | cons u us ih =>
    obtain ⟨hinverse, hpairs⟩ := h.insertAll u.pairs
    rw [← update_eq] at hinverse hpairs
    rw [List.flatMap_cons, List.foldl_append, ← hpairs]
    exact ih hinverse

/-- Where every symbol has its own number, there are as many numbers as symbols. -/
theorem Inverse.size_symbolOf {d : Directory} (h : d.Inverse) : d.symbolOf.size = d.size := by
  have hmem : ∀ id symbol, (id, symbol) ∈ d.idOf.entries.map Prod.swap ↔
      (id, symbol) ∈ d.symbolOf.entries := by
    intro id symbol
    have hpair : d.idOf.get? symbol = some id ↔ d.symbolOf.get? id = some symbol := h symbol id
    rw [Assoc.get?_eq_some_iff, Assoc.get?_eq_some_iff] at hpair
    simpa using hpair
  have hperm : (d.idOf.entries.map Prod.swap).Perm d.symbolOf.entries := by
    refine (List.perm_ext_iff_of_nodup ?_ d.symbolOf.nodup.of_map).mpr fun p => hmem p.1 p.2
    exact d.idOf.nodup.of_map.map Prod.swap_injective
  rw [size, Assoc.size, Assoc.size, ← hperm.length_eq, List.length_map]

/-- A directory that is one to one and has come to know the given pairs. -/
structure OneToOne (d : Directory) (known : Set (String × Int64)) : Prop where
  /-- A symbol has a number just where the number has the symbol. -/
  inverse : ∀ symbol id, d.id? symbol = some id ↔ d.symbol? id = some symbol
  /-- Its size is the number of symbols, -/
  symbols : {symbol | ∃ id, d.id? symbol = some id}.encard = d.size
  /-- and the number of numbers. -/
  ids : {id | ∃ symbol, d.symbol? id = some symbol}.encard = d.size
  pairs : d.pairs = known
  /-- An insertion drives out the pairs that mention the symbol or the number, and no other. -/
  insertion : ∀ symbol id, (d.insert symbol id).pairs = entering d.pairs (symbol, id)
  /-- What the gateway does with a list of instruments is such an update. -/
  handled : ∀ (g : Gateway) (f : Frame), g.directory = d →
    (g.runHandler f (.reply .instruments)).directory = d.update (.reply f)

theorem directory_applyEffect (g : Gateway) (effect : Directory × List Event) :
    (g.applyEffect effect).directory = effect.1 := by
  have hoffers : ∀ (es : List Event) (g : Gateway), (es.foldl Gateway.offer g).directory =
      g.directory := by
    intro es
    induction es with
    | nil => exact fun _ => rfl
    | cons e es ih => exact fun g => ih (g.offer e)
  exact hoffers effect.2 _

/-- Whatever is loaded, added or replied, in whatever order pairs are met, a directory stays one to
one. -/
theorem one_to_one (us : List Update) :
    (empty.updateAll us).OneToOne ((us.flatMap Update.pairs).foldl entering ∅) := by
  have hempty : empty.pairs = ∅ := by
    ext p
    simp [pairs, empty, id?]
  obtain ⟨hinverse, hpairs⟩ := inverse_empty.updateAll us
  rw [hempty] at hpairs
  constructor
  case inverse => exact hinverse
  case symbols => exact Assoc.encard_keys _
  case ids => rw [← hinverse.size_symbolOf]; exact Assoc.encard_keys _
  case pairs => exact hpairs
  case insertion => exact hinverse.pairs_insert
  case handled =>
    rintro g f hg
    rw [← hg, Gateway.runHandler, update]
    cases ReplyKind.instruments.effect? g.directory f with
    | none => rfl
    | some effect => exact directory_applyEffect g effect

/-- A pair that clashes with one pair by its symbol and with another by its number drives out
both. -/
example :
    let d := ((empty.insert "a" 1).insert "b" 2).insert "a" 2
    d.id? "a" = some 2 ∧ d.symbol? 1 = none ∧ d.id? "b" = none := by decide

end Directory

end VenueGateway
