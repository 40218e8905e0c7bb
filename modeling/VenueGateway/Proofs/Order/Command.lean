import VenueGateway.Proofs.Decimal.Text
import VenueGateway.Proofs.Gateway.Settlement
import VenueGateway.Proofs.Json.Fields
import VenueGateway.Proofs.Text.Utf8

/-!
Submissions read back from what was written of them. What is left out is what a reader takes a
missing field for, texts come back from their escapes, and decimals with all their places.
-/

namespace VenueGateway

open Json (Value)

/-- A value is read from the bytes of a text as from the text. -/
theorem Json.Value.parseBytes?_bytes (s : String) : parseBytes? (Text.bytes s) = parse? s := by
  rw [parseBytes?, Text.symbols_bytes, parse?]

namespace SubmitOrder

def slots (c : SubmitOrder) : List (String × Option Value) :=
  [("id", some (.int64 c.id)), ("orderId", Value.unlessEmpty c.orderId),
    ("instrumentPair", some (.text c.instrumentPair)), ("quantity", some (.text c.quantity.text)),
    ("price", c.price.map fun p => .text p.text), ("side", some (.text c.sideName)),
    ("status", Value.unlessEmpty c.status), ("type", some (.text c.kindName)),
    ("clientId", Value.unlessEmpty c.clientId), ("date", Value.unlessEmpty c.date),
    ("clientOrderId", some (.text c.clientOrderId)),
    ("requestForQuoteId", Value.unlessEmpty c.requestForQuoteId),
    ("provider", Value.unlessEmpty c.provider), ("notes", Value.unlessEmpty c.notes),
    ("blockChain", Value.unlessEmpty c.blockChain),
    ("tags", if c.tags = [] then none else some (.texts c.tags)),
    ("source", Value.unlessEmpty c.source)]

theorem names_slots (c : SubmitOrder) : c.slots.map Prod.fst = fieldNames := rfl

theorem toJson_eq (c : SubmitOrder) : c.toJson = .fields (Value.given c.slots) := by
  unfold toJson slots
  cases c.price <;> by_cases htags : c.tags = [] <;>
    simp only [Value.given_some, Value.given_none, Value.given_unlessEmpty, Value.given_nil,
      Value.texts, Option.map_some, Option.map_none, htags, if_true, if_false, List.append_assoc,
      List.cons_append, List.nil_append, List.append_nil]

def settled (c : SubmitOrder) : SubmitOrder :=
  { c with quantity := c.quantity.settled, price := c.price.map Decimal.settled }

@[simp] theorem decimal?_text (d : Decimal) : (Value.text d.text).decimal? = some d.settled :=
  d.ofText?_text

theorem optional_price (price : Option Decimal) :
    Json.Field.optional (Value.nullable? Value.decimal?) none (price.map fun p => .text p.text) =
      some (price.map Decimal.settled) := by
  cases price with
  | none => rfl
  | some p => exact congrArg (Option.map some) (decimal?_text p)

theorem optional_tags (tags : List String) :
    Json.Field.optional (Value.list? Value.text?) [] (if tags = [] then none
      else some (.texts tags)) =
      some tags := by
  split
  · next h => rw [h]; rfl
  · exact Value.list?_texts tags

theorem ofJson?_toJson (c : SubmitOrder) : ofJson? c.toJson = some c.settled := by
  have hnames : (c.slots.map Prod.fst).Nodup := by rw [names_slots]; decide
  rw [toJson_eq, ofJson?, Value.record?_given hnames, Option.bind_eq_bind, Option.bind_some]
  simp only [slots, List.lookup_cons, String.reduceBEq, Option.join_some]
  simp only [Value.optional_some, Value.int64?_int64, Value.text?_text, Value.optional_unlessEmpty,
    decimal?_text, optional_price, optional_tags, Option.bind_eq_bind, Option.bind_some, settled]

theorem wellFormed_toJson (c : SubmitOrder) : c.toJson.WellFormed := by
  have hprice : Value.WellGiven (c.price.map fun p => .text p.text) := by
    cases c.price <;> simp [Value.wellFormed_text]
  have htags : Value.WellGiven (if c.tags = [] then none else some (.texts c.tags)) := by
    split <;> simp [Value.wellFormed_texts]
  rw [toJson_eq]
  refine Value.wellFormed_given ?_
  simp [slots, Value.wellFormed_text, Value.int64, Value.wellFormed_int, hprice, htags]

/-- A submission is read from the bytes of its text. -/
theorem ofBytes?_bytes (c : SubmitOrder) :
    ofBytes? (Text.bytes c.toJson.print) = some c.settled := by
  rw [ofBytes?, Value.parseBytes?_bytes, Value.parse?_print c.wellFormed_toJson, Option.bind_some,
    ofJson?_toJson]

def decimals (c : SubmitOrder) : List Decimal := c.quantity :: c.price.toList

theorem settled_eq {c : SubmitOrder} (h : ∀ d ∈ c.decimals, d.isZero = true → d.negative = false) :
    c.settled = c := by
  obtain ⟨hquantity, hprice⟩ := List.forall_mem_cons.mp h
  have hsettled : c.price.map Decimal.settled = c.price := by
    cases hp : c.price with
    | none => rfl
    | some p => exact congrArg some (Decimal.settled_eq (hprice p (by simp [hp])))
  rw [settled, Decimal.settled_eq hquantity, hsettled]

/-- A submission of which no decimal is nought behind a minus sign is read back as it was, whatever
its texts are made of and however many places its decimals have. -/
theorem read_back (c : SubmitOrder) (h : ∀ d ∈ c.decimals, d.isZero = true → d.negative = false) :
    ofBytes? (Text.bytes c.toJson.print) = some c := by
  rw [ofBytes?_bytes, settled_eq h]

/-- The least number, the longest decimals, and texts that need escapes. -/
def extreme : SubmitOrder :=
  { id := -9223372036854775808, instrumentPair := "\x22\\/\x00\x1f\x7f"
    quantity := ⟨false, 79228162514264337593543950335, 28, by decide, by decide⟩
    price := some ⟨true, 1, 28, by decide, by decide⟩, kindName :=
      " LIMIT ", clientOrderId := "null"
    notes := "é€😀\u2028", tags := ["", "[]", "\x22"] }

theorem extreme_read_back : (∀ d ∈ extreme.decimals, d.isZero = true → d.negative = false) ∧
    ofBytes? (Text.bytes extreme.toJson.print) = some extreme := by
  have hnought : ∀ d ∈ extreme.decimals, d.isZero = true → d.negative = false := by decide
  exact ⟨hnought, read_back extreme hnought⟩

end SubmitOrder

end VenueGateway
