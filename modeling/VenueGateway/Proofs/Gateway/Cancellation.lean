import VenueGateway.Proofs.Gateway.Provenance
import VenueGateway.Proofs.Text.Spelling

/-!
Which cancellations go ahead. The platform names an order by a text; where it spells a number of the
venue, the text is published as it was given and the number is sent, and whatever else the text may
be, the command is refused and leaves nothing behind but a count.
-/

namespace VenueGateway

open Json (Value)

/-- A frame asks for the cancellation of the order with the venue's number, which is the only name
it gives. -/
structure Frame.Cancels (f : Frame) (account : Account) (orderId : Int64) : Prop where
  kind : f.kind = .request
  operation : f.operation = Operation.cancelOrder
  omsId : f.number? "OMSId" = some account.omsId
  accountId : f.number? "AccountId" = some account.accountId
  clientOrderId : f.number? "ClOrderId" = some 0
  orderId : f.number? "OrderId" = some orderId

/-- What the payload of a cancellation asks for is read off the frame. -/
theorem Frame.cancels_of_wire {f : Frame} {account : Account} {id : Int64}
    (hkind : f.kind = .request) (hop : f.operation = Operation.cancelOrder)
    (hf : f.payload = (CancelRequest.onAccount account id).toJson.wire) :
    f.Cancels account id := by
  have hnumber := @number?_of_wire f _ hf (by
    simp only [List.forall_mem_cons]
    exact ⟨Value.wellFormed_int _, Value.wellFormed_int _, Value.wellFormed_int _,
      Value.wellFormed_int _, nofun⟩) (by simp)
  exact ⟨hkind, hop, hnumber (by simp [CancelRequest.onAccount]),
    hnumber (by simp [CancelRequest.onAccount]), hnumber (by simp [CancelRequest.onAccount]),
    hnumber (by simp [CancelRequest.onAccount])⟩

namespace Gateway

/-- A cancellation goes ahead: its text is published, and behind that a login is sent, where there
is one, and a request with the number, as far as the link takes them. -/
structure GoesAhead (g : Gateway) (c : CancelOrder) (id : Int64) : Prop where
  carriedOut : ∃ logins orders, CarriedOut g (g.cancel c).1 ⟨.orderCanceled c.orderId,
      Operation.cancelOrder,
      (CancelRequest.onAccount g.account id).toJson⟩ logins orders (.ofOutcome (g.cancel c).2) ∧
    ∀ f ∈ orders, f.Cancels g.account id
  told : ∀ text, (g.cancel c).2 ≠ .error (.invalidOrderId text)

/-- A cancellation is refused, and apart from a count everything is as before. -/
structure Refuses (g : Gateway) (c : CancelOrder) : Prop where
  told : (g.cancel c).2 = .error (.invalidOrderId c.orderId)
  unpublished : (g.cancel c).1.trace = g.trace ∧ (g.cancel c).1.hub.bus = g.hub.bus
  /-- No sequence number is used, either. -/
  unsent : (g.cancel c).1.link = g.link
  tracked : (g.cancel c).1.tracker = g.tracker
  untouched : Untouched g (g.cancel c).1

section Cancelling

variable {g : Gateway} {c : CancelOrder} {id : Int64}

/-- A number that can be read goes ahead, whatever then becomes of the request. -/
theorem goesAhead_of_number (hid : c.venueId? = some id) : g.GoesAhead c id := by
  obtain ⟨logins, orders, hdone⟩ :=
    exists_carriedOut (g.withdrawal c id) (madeKnown_publish g c.orderId) rfl rfl rfl
  have hfares := hdone.fares
  have hcancel : g.cancel c =
      countSent ((g.publish (.orderCanceled c.orderId)).sendLoggedIn Operation.cancelOrder
      (CancelRequest.onAccount g.account id).toJson) .orderCancels := by
    rw [cancel, hid]
  rw [← countSent_snd _ .orderCancels] at hdone hfares
  refine ⟨⟨logins, orders, ?_, ?_⟩, ?_⟩
  · rw [hcancel]
    exact hdone.countSent _
  · intro f hf
    rw [hfares.eq_of_mem_orders hf]
    exact Frame.cancels_of_wire rfl rfl rfl
  · intro text htold
    rw [hcancel] at htold
    exact hfares.ne_reject (congrArg Settlement.ofOutcome htold)

theorem refuses_of_no_number (hid : c.venueId? = none) : g.Refuses c := by
  have hcancel : g.cancel c =
      (g.count (.orderFailures .invalidOrderId), .error (.invalidOrderId c.orderId)) := by
    rw [cancel, hid]
  constructor <;> rw [hcancel]
  · exact ⟨rfl, rfl⟩
  · rfl
  · rfl
  · exact ⟨_, rfl⟩

theorem venueId?_eq_some_iff : c.venueId? = some id ↔ Text.SpellsInt c.orderId id.toInt :=
  Text.int64?_trim_eq_some_iff

end Cancelling

/-- A cancellation goes ahead where its text spells a signed 64-bit number, with that number, and
nowhere else; any other text is handed back, and nothing was published, sent, numbered or untracked
for it. -/
theorem cancels_numbered_orders_only (g : Gateway) (c : CancelOrder) :
    ((∃ id, g.GoesAhead c id) ↔ ∃ id : Int64, Text.SpellsInt c.orderId id.toInt) ∧
      (∀ id : Int64, Text.SpellsInt c.orderId id.toInt → g.GoesAhead c id) ∧
      ((¬ ∃ id : Int64, Text.SpellsInt c.orderId id.toInt) → g.Refuses c) := by
  simp only [← venueId?_eq_some_iff]
  have hrefused : (¬ ∃ id, c.venueId? = some id) → g.Refuses c := fun hnone =>
    refuses_of_no_number (Option.eq_none_iff_forall_ne_some.mpr fun id hid => hnone ⟨id, hid⟩)
  refine ⟨⟨?_, ?_⟩, fun id => goesAhead_of_number, hrefused⟩
  · rintro ⟨id, hahead⟩
    by_contra hnone
    exact hahead.told _ (hrefused hnone).told
  · rintro ⟨id, hid⟩
    exact ⟨id, goesAhead_of_number hid⟩

/-- A gateway with nobody to log in, on a link that is connected. -/
def connected : Gateway :=
  { new ⟨1, 9⟩ "kiiex" none .empty 4 ⟨0⟩ [] with
    link := { state := .connected, lastSequence := 6 } }

/-- The least number of a word has no positive counterpart. -/
theorem least_number_goes_ahead :
    Text.SpellsInt "\u2003-009223372036854775808\n" (-9223372036854775808 : Int64).toInt ∧
      connected.GoesAhead ⟨"\u2003-009223372036854775808\n"⟩ (-9223372036854775808) ∧
      (¬ ∃ id : Int64, Text.SpellsInt "+9223372036854775808" id.toInt) ∧
      connected.Refuses ⟨"+9223372036854775808"⟩ := by
  have hspells :
      Text.SpellsInt "\u2003-009223372036854775808\n" (-9223372036854775808 : Int64).toInt :=
    venueId?_eq_some_iff (c := ⟨_⟩).mp (by decide)
  have hnone : ¬ ∃ id : Int64, Text.SpellsInt "+9223372036854775808" id.toInt := by
    rintro ⟨id, hid⟩
    have hsome := venueId?_eq_some_iff (c := ⟨_⟩).mpr hid
    rw [show (CancelOrder.mk "+9223372036854775808").venueId? = none by decide] at hsome
    cases hsome
  exact ⟨hspells, (cancels_numbered_orders_only connected ⟨_⟩).2.1 _ hspells, hnone,
    (cancels_numbered_orders_only connected ⟨_⟩).2.2 hnone⟩

end Gateway

end VenueGateway
