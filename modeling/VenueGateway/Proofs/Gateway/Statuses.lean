import VenueGateway.Proofs.Gateway.Reconciliation

/-!
Status replies. The orders of a reply are looked at one by one, and what follows from one of them
does not depend on the others: it is given up, or filled, or passed over, whatever stands in front
of it or behind it in the list.
-/

namespace VenueGateway

namespace Text

/-- Two characters are the same, but for the case of an ASCII letter. -/
def SameLetter (c d : Char) : Prop :=
  c = d ∨ c.isUpper = true ∧ d.toNat = c.toNat + 32 ∨ d.isUpper = true ∧ c.toNat = d.toNat + 32

/-- Two texts are the same, but for the case of ASCII letters. -/
def SameLetters (s t : String) : Prop := List.Forall₂ SameLetter s.toList t.toList

theorem isUpper_iff {c : Char} : c.isUpper = true ↔ 65 ≤ c.toNat ∧ c.toNat ≤ 90 := by
  unfold Char.isUpper
  rw [decide_eq_true_iff, ge_iff_le, UInt32.le_iff_toNat_le, UInt32.le_iff_toNat_le]
  exact Iff.rfl

theorem toNat_toLower (c : Char) :
    c.toLower.toNat = if c.isUpper then c.toNat + 32 else c.toNat := by
  unfold Char.toLower
  split
  · next hc =>
    have hupper : c.isUpper = true := isUpper_iff.mpr hc
    have hrange := isUpper_iff.mp hupper
    have hsum : (c.val + ('a'.val - 'A'.val)).toNat = c.val.toNat + 32 := by
      rw [UInt32.toNat_add]
      exact Nat.mod_eq_of_lt (show c.toNat + 32 < 2 ^ 32 by omega)
    rw [if_pos hupper]
    exact hsum
  · next hc =>
    rw [if_neg fun hupper => hc (isUpper_iff.mp hupper)]

theorem toLower_eq_iff {c d : Char} : c.toLower = d.toLower ↔ SameLetter c d := by
  rw [← Char.toNat_inj, toNat_toLower, toNat_toLower, SameLetter, ← Char.toNat_inj]
  simp only [isUpper_iff]
  split <;> split <;> omega

theorem sameIgnoringCase_iff {s t : String} : sameIgnoringCase s t = true ↔ SameLetters s t := by
  have hchars : ∀ cs ds : List Char, cs.map Char.toLower = ds.map Char.toLower ↔
      List.Forall₂ SameLetter cs ds := by
    intro cs ds
    rw [← List.forall₂_eq_eq_eq, List.forall₂_map_left_iff, List.forall₂_map_right_iff]
    simp only [toLower_eq_iff]
  rw [sameIgnoringCase, beq_iff_eq, lower, lower, String.ofList_inj, hchars, SameLetters]

end Text

namespace ReportedOrder

/-- The state of an order is a word, in whatever case. -/
def IsIn (o : ReportedOrder) (word : String) : Prop := Text.SameLetters o.state word

/-- A fill names its order as the venue reports it, and the symbol of its instrument where that is
known. -/
structure Names (directory : Directory) (o : ReportedOrder) (f : Fill) : Prop where
  fillId : f.fillId = Text.ofInt64 o.orderId
  externalOrderId : f.externalOrderId = Text.ofInt64 o.orderId
  ours : o.clientOrderId ≠ 0 → f.orderId = Text.ofInt64 o.clientOrderId
  nobodys : o.clientOrderId = 0 → f.orderId = ""
  known : ∀ symbol, directory.symbol? o.instrument = some symbol → f.instrumentPair = symbol
  unknown : directory.symbol? o.instrument = none → f.instrumentPair = ""

inductive Yields (directory : Directory) (o : ReportedOrder) : List Event → Prop
  | unnumbered (hz : o.orderId = 0) : Yields directory o []
  | givenUp (hz : o.orderId ≠ 0) (hs : o.IsIn "canceled" ∨
      o.IsIn "rejected") (hours : o.clientOrderId ≠ 0) :
      Yields directory o [.attemptedCancel o.clientOrderId]
  | givenUpUnnamed (hz : o.orderId ≠ 0) (hs : o.IsIn "canceled" ∨
      o.IsIn "rejected") (hnot : o.clientOrderId = 0) :
      Yields directory o [.attemptedCancel o.orderId]
  | filled (hz : o.orderId ≠ 0) (hs : o.IsIn "filled") {f : Fill} (hf : o.Names directory f) :
      Yields directory o [.fillArrived f]
  | other (hz : o.orderId ≠ 0) (hs : ∀ word ∈ ["canceled", "rejected", "filled"], ¬ o.IsIn word) :
      Yields directory o []

theorem isGivenUp_iff {o : ReportedOrder} :
    o.isGivenUp = true ↔ o.IsIn "canceled" ∨ o.IsIn "rejected" := by
  rw [isGivenUp, Bool.or_eq_true, Text.sameIgnoringCase_iff, Text.sameIgnoringCase_iff, IsIn, IsIn]

theorem isFilled_iff {o : ReportedOrder} : o.isFilled = true ↔ o.IsIn "filled" :=
  Text.sameIgnoringCase_iff

theorem names_fill (directory : Directory) (o : ReportedOrder) :
    o.Names directory (o.fill directory) where
  fillId := rfl
  externalOrderId := rfl
  ours h := if_neg h
  nobodys h := if_pos h
  known symbol h := by rw [fill, h, Option.getD_some]
  unknown h := by rw [fill, h, Option.getD_none]

/-- What a report yields, told by its state, its numbers and its quantities. -/
theorem yields_events (directory : Directory) (o : ReportedOrder) :
    o.Yields directory (o.events directory) := by
  by_cases hz : o.orderId = 0
  · rw [events, if_pos hz]
    exact .unnumbered hz
  · by_cases hup : o.isGivenUp = true
    · rw [events_of_isGivenUp hup, if_neg hz, knownId]
      split
      · next hnot => exact .givenUpUnnamed hz (isGivenUp_iff.mp hup) hnot
      · next hours => exact .givenUp hz (isGivenUp_iff.mp hup) hours
    · by_cases hfilled : o.isFilled = true
      · rw [events_of_isFilled hfilled, if_neg hz]
        exact .filled hz (isFilled_iff.mp hfilled) (o.names_fill directory)
      · rw [events, if_neg hz, if_neg hup, if_neg hfilled]
        refine .other hz fun word hword => ?_
        simp only [List.mem_cons, List.not_mem_nil, or_false] at hword
        rcases hword with rfl | rfl | rfl
        · exact fun h => hup (isGivenUp_iff.mpr (.inl h))
        · exact fun h => hup (isGivenUp_iff.mpr (.inr h))
        · exact fun h => hfilled (isFilled_iff.mpr h)

end ReportedOrder

namespace Gateway

/-- The events that are emitted when a frame is handled as a status reply. -/
def emitted (g : Gateway) (f : Frame) : List Event :=
  ((g.runHandler f (.reply .status)).trace.drop g.trace.length).filterMap Act.event?

theorem trace_offers (g : Gateway) (es : List Event) :
    (es.foldl offer g).trace = g.trace ++ es.map .published := by
  induction es generalizing g with
  | nil => simp
  | cons e es ih =>
    rw [List.foldl_cons, ih, List.map_cons, offer]
    simp

theorem runHandler_status {g : Gateway} {f : Frame} {r : StatusReply}
    (hr : f.body?.bind StatusReply.ofJson? = some r) :
    g.runHandler f (.reply .status) = (r.events g.directory).foldl offer g := by
  have heffect : ReplyKind.effect? .status g.directory f =
      some (g.directory, r.events g.directory) := by
    rw [ReplyKind.effect?, hr, Option.map_some]
  rw [runHandler, heffect]
  rfl

theorem emitted_eq {g : Gateway} {f : Frame} {r : StatusReply}
    (hr : f.body?.bind StatusReply.ofJson? = some r) :
    g.emitted f = r.events g.directory := by
  have hevents : ∀ es : List Event, (es.map Act.published).filterMap Act.event? = es := fun es => by
    rw [List.filterMap_map]
    exact List.filterMap_some
  rw [emitted, runHandler_status hr, trace_offers, List.drop_left, hevents]

/-- The events of a status reply are those of its orders, one after another, and each order leads to
the same events whether it is listed alone or among others. -/
theorem translated_order_by_order (g : Gateway) :
    ∃ yields : ReportedOrder → List Event, (∀ o : ReportedOrder, o.Yields g.directory (yields o)) ∧
      (∀ f r, f.body?.bind StatusReply.ofJson? = some r →
        g.emitted f = r.orders.flatMap yields ∧ g.runHandler f (.reply .status) =
          (g.emitted f).foldl offer g) ∧
      (∀ f o, f.body?.bind StatusReply.ofJson? = some { orders := [o] } → g.emitted f = yields o) ∧
      ∀ f f₁ f₂ r r₁ r₂, f.body?.bind StatusReply.ofJson? = some r →
      f₁.body?.bind StatusReply.ofJson? = some r₁ →
        f₂.body?.bind StatusReply.ofJson? = some r₂ → r.orders = r₁.orders ++ r₂.orders →
        g.emitted f = g.emitted f₁ ++ g.emitted f₂ := by
  have hemitted : ∀ f r, f.body?.bind StatusReply.ofJson? = some r →
      g.emitted f = r.orders.flatMap (·.events g.directory) := fun f r hr => emitted_eq hr
  refine ⟨(·.events g.directory), fun o => ReportedOrder.yields_events g.directory o,
    fun f r hr => ⟨hemitted f r hr, ?_⟩, fun f o hr => ?_, ?_⟩
  · rw [emitted_eq hr, runHandler_status hr]
  · rw [hemitted f _ hr, List.flatMap_singleton]
  · intro f f₁ f₂ r r₁ r₂ hr hr₁ hr₂ happend
    rw [hemitted f r hr, hemitted f₁ r₁ hr₁, hemitted f₂ r₂ hr₂, happend, List.flatMap_append]

/-- An order without a number is passed over, and what stands behind it is not. -/
example :
    let skipped := "\x7b\"OrderState\":\"filled\"\x7d"
    let unnamed := "\x7b\"OrderId\":12,\"OrderState\":\"REJECTED\"\x7d"
    let payload := "\x7b\"orders\":[" ++ skipped ++ "," ++ unnamed ++ "]\x7d"
    (new ⟨1, 9⟩ "kiiex" none .empty 8 ⟨0⟩ []).emitted ⟨.response, 2,
      Operation.orderStatus, payload⟩ =
      [.attemptedCancel 12] := by
  decide +kernel

end Gateway

end VenueGateway
