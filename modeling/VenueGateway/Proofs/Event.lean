import VenueGateway.Outbox
import VenueGateway.Proofs.Json.Fields

/-!
Events read back from what was written of them, and so from what the platform is told. Every field
of a fill but one may be left out, and each is found under its own name.
-/

namespace VenueGateway

open Json (Value)

namespace TradeRef

def read? (text : String) : Option TradeRef := (Value.parse? text).bind ofJson?

theorem ofJson?_toJson (t : TradeRef) : ofJson? t.toJson = some t := by
  simp [ofJson?, toJson, Value.record?_fields, List.lookup_cons, Json.Field.required]

theorem wellFormed_toJson (t : TradeRef) : t.toJson.WellFormed := by
  refine Value.wellFormed_fields ?_
  simp [Value.int64, Value.wellFormed_int]

theorem read?_print (t : TradeRef) : read? t.toJson.print = some t := by
  rw [read?, Value.parse?_print t.wellFormed_toJson, Option.bind_some, ofJson?_toJson]

end TradeRef

namespace Fill

def slots (f : Fill) : List (String × Option Value) :=
  [("orderId", Value.unlessEmpty f.orderId), ("fillId", Value.unlessEmpty f.fillId),
    ("externalOrderId", Value.unlessEmpty f.externalOrderId),
    ("instrumentPair", Value.unlessEmpty f.instrumentPair),
    ("quantityFilled", Value.unlessEmpty f.quantityFilled),
    ("quantityCumulative", Value.unlessEmpty f.quantityCumulative),
    ("quantityLeaves", Value.unlessEmpty f.quantityLeaves), ("price", Value.unlessEmpty f.price),
    ("side", Value.unlessEmpty f.side), ("status", Value.unlessEmpty f.status),
    ("type", Value.unlessEmpty f.kind), ("clientId", Value.unlessEmpty f.clientId),
    ("date", Value.unlessEmpty f.date), ("clientOrderId", Value.unlessEmpty f.clientOrderId),
    ("requestForQuoteId", Value.unlessEmpty f.requestForQuoteId),
    ("externalRequestForQuoteId", Value.unlessEmpty f.externalRequestForQuoteId),
    ("provider", Value.unlessEmpty f.provider), ("source", Value.unlessEmpty f.source),
    ("sourceType", Value.unlessEmpty f.sourceType), ("executionType", some (.text f.executionType))]

theorem names_slots (f : Fill) : f.slots.map Prod.fst = fieldNames := rfl

theorem toJson_eq (f : Fill) : f.toJson = .fields (Value.given f.slots) := by
  simp only [toJson, slots, Value.given_some, Value.given_unlessEmpty, Value.given_nil,
    List.append_assoc]

theorem ofJson?_toJson (f : Fill) : ofJson? f.toJson = some f := by
  have hnames : (f.slots.map Prod.fst).Nodup := by rw [names_slots]; decide
  rw [toJson_eq, ofJson?, Value.record?_given hnames, Option.bind_eq_bind, Option.bind_some]
  simp only [slots, List.lookup_cons, String.reduceBEq, Option.join_some,
    Value.optional_unlessEmpty, Json.Field.required, Value.text?_text, Option.bind_eq_bind,
    Option.bind_some]

theorem wellFormed_toJson (f : Fill) : f.toJson.WellFormed := by
  rw [toJson_eq]
  refine Value.wellFormed_given ?_
  simp [slots, Value.wellFormed_text]

end Fill

namespace Event

def read? (kind : EventKind) (text : String) : Option Event :=
  (Value.parse? text).bind (ofJson? · kind)

theorem ofJson?_toJson (e : Event) : ofJson? e.toJson e.kind = some e := by
  cases e with
  | orderSubmitted trade key =>
    simp [ofJson?, toJson, Value.record?_fields, List.lookup_cons, Json.Field.required,
      TradeRef.ofJson?_toJson]
  | attemptedCancel orderId =>
    simp [ofJson?, toJson, Value.record?_fields, List.lookup_cons, Json.Field.required]
  | fillArrived fill => simp [ofJson?, toJson, Fill.ofJson?_toJson]
  | orderCanceled key =>
    simp [ofJson?, toJson, Value.record?_fields, List.lookup_cons, Json.Field.required]

theorem wellFormed_toJson (e : Event) : e.toJson.WellFormed := by
  cases e with
  | orderSubmitted trade key =>
    refine Value.wellFormed_fields ?_
    simp [trade.wellFormed_toJson, Value.wellFormed_text]
  | attemptedCancel orderId =>
    refine Value.wellFormed_fields ?_
    simp [Value.int64, Value.wellFormed_int]
  | fillArrived fill => exact fill.wellFormed_toJson
  | orderCanceled key =>
    refine Value.wellFormed_fields ?_
    simp [Value.wellFormed_text]

/-- An event is read back from its text as one of its kind. -/
theorem read?_print (e : Event) : read? e.kind e.toJson.print = some e := by
  rw [read?, Value.parse?_print e.wellFormed_toJson, Option.bind_some, ofJson?_toJson]

/-- The events that the platform is told of: fills and cancellations that name their order. -/
inductive Outbound : Event → Prop
  | fill {f : Fill} (h : f.orderId ≠ "") : Outbound (fillArrived f)
  | canceled {key : String} (h : key ≠ "") : Outbound (orderCanceled key)

/-- The routing key and the priority of what the platform is told of events of a kind. -/
def route? : EventKind → Option (String × Option Nat)
  | .fillArrived => some ("inbound.fills.creates", none)
  | .orderCanceled => some ("returned.orders.canceled", some 10)
  | .orderSubmitted => none
  | .attemptedCancel => none

/-- An event is told to the platform where it names its order. -/
theorem outbound_iff {e : Event} : (∃ m, PlatformMessage.ofEvent? e = some m) ↔ e.Outbound := by
  cases e with
  | fillArrived f =>
    by_cases h : f.orderId = ""
    · exact iff_of_false (by simp [PlatformMessage.ofEvent?, h]) fun | .fill hne => hne h
    · exact iff_of_true ⟨_, if_neg h⟩ (.fill h)
  | orderCanceled key =>
    by_cases h : key = ""
    · exact iff_of_false (by simp [PlatformMessage.ofEvent?, h]) fun | .canceled hne => hne h
    · exact iff_of_true ⟨_, if_neg h⟩ (.canceled h)
  | orderSubmitted trade key => exact iff_of_false nofun nofun
  | attemptedCancel orderId => exact iff_of_false nofun nofun

/-- A message takes the route of its event, and its body is the text of the event. -/
theorem message_eq {e : Event} {m : PlatformMessage} (h : PlatformMessage.ofEvent? e = some m) :
    route? e.kind = some (m.routingKey, m.priority) ∧ m.body = e.toJson.print := by
  cases e <;> simp only [PlatformMessage.ofEvent?] at h
  case fillArrived | orderCanceled =>
    split at h
    · cases h
    · obtain rfl := Option.some.inj h
      exact ⟨rfl, rfl⟩
  case orderSubmitted | attemptedCancel => cases h

/-- The platform is told of the fills and cancellations that name their order, and of nothing else.
What it is told goes by the route of its kind and spells the event in full, whatever its texts are
made of. The other events are read back from their texts as well, and so are references. -/
theorem lossless :
    (∀ e : Event,
      ((∃ m, PlatformMessage.ofEvent? e = some m) ↔ e.Outbound) ∧
      (∀ m, PlatformMessage.ofEvent? e = some m →
        route? e.kind = some (m.routingKey, m.priority) ∧ read? e.kind m.body = some e) ∧
      read? e.kind e.toJson.print = some e) ∧
    ∀ t : TradeRef, TradeRef.read? t.toJson.print = some t := by
  refine ⟨fun e => ⟨outbound_iff, fun m hm => ?_, e.read?_print⟩, TradeRef.read?_print⟩
  obtain ⟨hroute, hbody⟩ := message_eq hm
  exact ⟨hroute, hbody ▸ e.read?_print⟩

/-- A fill with texts that need escapes, of which one holds the name of a field, and with no kind of
execution. -/
def oddFill : Fill :=
  { orderId := "\x22\\"
    fillId := "\x22,\x22price\x22:\x221"
    price := "0.10"
    kind := "Limit"
    source := "\x00\u2028😀"
    executionType := "" }

theorem oddFill_lossless : ∃ m, PlatformMessage.ofEvent? (.fillArrived oddFill) = some m ∧
    m.routingKey = "inbound.fills.creates" ∧ m.priority = none ∧
    read? .fillArrived m.body = some (.fillArrived oddFill) := by
  obtain ⟨htold, hmessage, -⟩ := lossless.1 (.fillArrived oddFill)
  obtain ⟨m, hm⟩ := htold.mpr (.fill (by decide))
  obtain ⟨hroute, hread⟩ := hmessage m hm
  obtain ⟨hkey, hpriority⟩ := Prod.mk.inj (Option.some.inj hroute)
  exact ⟨m, hm, hkey.symm, hpriority.symm, hread⟩

end Event

end VenueGateway
