import VenueGateway.Proofs.Json.Tolerance
import VenueGateway.Venue.Reply

/-!
Replies are read tolerantly. What the venue adds to a reply, in which order it lists the members,
and whether it leaves a field out or gives it as null makes no difference, in a reply and in every
record inside it.
-/

namespace VenueGateway

open Json (Value Shape Edit Tolerant)

section Records

/-! Each record with the fields that its reader looks for. -/

def OrderReply.shape : Shape := .flat ["status", "errormsg", "OrderId"]

theorem OrderReply.tolerant : Tolerant shape ofJson? := by
  refine .record (fun _ => rfl) fun r r' h => ?_
  simp (disch := decide) only [replyText, replyInt, h.lenient]

def CancelReply.shape : Shape := .flat ["result", "errormsg", "errorcode", "detail", "orderId"]

theorem CancelReply.tolerant : Tolerant shape ofJson? := by
  refine .record (fun _ => rfl) fun r r' h => ?_
  simp (disch := decide) only [replyText, replyInt, replyBool, h.lenient]

def CancelAllReply.shape : Shape := .flat ["result", "errormsg", "errorcode", "detail"]

theorem CancelAllReply.tolerant : Tolerant shape ofJson? := by
  refine .record (fun _ => rfl) fun r r' h => ?_
  simp (disch := decide) only [replyText, replyInt, replyBool, h.lenient]

def ReportedOrder.shape : Shape := .flat fieldNames

theorem ReportedOrder.tolerant : Tolerant shape ofJson? := by
  refine .record (fun _ => rfl) fun r r' h => ?_
  simp (disch := decide) only [replyText, replyInt, replyBool, replyFloat, h.lenient]

def StatusReply.shape : Shape := .record [("orders", .list ReportedOrder.shape)]

theorem StatusReply.tolerant : Tolerant shape ofJson? := by
  refine .record (fun _ => rfl) fun r r' h => ?_
  rw [ReportedOrder.tolerant.list.lenient [] (h "orders" _ rfl)]

def ReportedUser.shape : Shape := .flat ["userId", "userName", "accountId", "omsId"]

theorem ReportedUser.tolerant : Tolerant shape ofJson? := by
  refine .record (fun _ => rfl) fun r r' h => ?_
  simp (disch := decide) only [replyText, replyInt, h.lenient]

def LoginReply.shape : Shape :=
  .record [("authenticated", .whole), ("user", ReportedUser.shape), ("locked", .whole),
    ("requires2FA", .whole), ("errormsg", .whole)]

theorem LoginReply.tolerant : Tolerant shape ofJson? := by
  refine .record (fun _ => rfl) fun r r' h => ?_
  have huser := ReportedUser.tolerant.optional (h "user" _ rfl)
  simp (disch := decide) only [replyText, replyBool, h.lenient, huser]

def ListedInstrument.shape : Shape := .flat ["InstrumentId", "Symbol", "Product1", "Product2"]

theorem ListedInstrument.tolerant : Tolerant shape ofJson? := by
  refine .record (fun _ => rfl) fun r r' h => ?_
  simp (disch := decide) only [replyText, replyInt, h.lenient]

def InstrumentsReply.shape : Shape := .record [("instruments", .list ListedInstrument.shape)]

theorem InstrumentsReply.tolerant : Tolerant shape ofJson? := by
  refine .record (fun _ => rfl) fun r r' h => ?_
  rw [ListedInstrument.tolerant.list.lenient [] (h "instruments" _ rfl)]

def ListedProduct.shape : Shape := .flat ["ProductId", "ProductName", "ProductType"]

theorem ListedProduct.tolerant : Tolerant shape ofJson? := by
  refine .record (fun _ => rfl) fun r r' h => ?_
  simp (disch := decide) only [replyText, replyInt, h.lenient]

def ProductsReply.shape : Shape := .record [("products", .list ListedProduct.shape)]

theorem ProductsReply.tolerant : Tolerant shape ofJson? := by
  refine .record (fun _ => rfl) fun r r' h => ?_
  rw [ListedProduct.tolerant.list.lenient [] (h "products" _ rfl)]

end Records

inductive ReplyForm where
  | order
  | cancel
  | cancelAll
  | status
  | login
  | instruments
  | products
  deriving DecidableEq, Repr

namespace ReplyForm

def Reply : ReplyForm → Type
  | order => OrderReply
  | cancel => CancelReply
  | cancelAll => CancelAllReply
  | status => StatusReply
  | login => LoginReply
  | instruments => InstrumentsReply
  | products => ProductsReply

def read? : (form : ReplyForm) → Value → Option form.Reply
  | order => OrderReply.ofJson?
  | cancel => CancelReply.ofJson?
  | cancelAll => CancelAllReply.ofJson?
  | status => StatusReply.ofJson?
  | login => LoginReply.ofJson?
  | instruments => InstrumentsReply.ofJson?
  | products => ProductsReply.ofJson?

def decode? (form : ReplyForm) (text : String) : Option form.Reply :=
  (Value.parse? text).bind form.read?

/-- The fields of a reply, and those of the records inside it. -/
def shape : ReplyForm → Shape
  | order => OrderReply.shape
  | cancel => CancelReply.shape
  | cancelAll => CancelAllReply.shape
  | status => StatusReply.shape
  | login => LoginReply.shape
  | instruments => InstrumentsReply.shape
  | products => ProductsReply.shape

theorem tolerant (form : ReplyForm) : Tolerant form.shape form.read? := by
  cases form with
  | order => exact OrderReply.tolerant
  | cancel => exact CancelReply.tolerant
  | cancelAll => exact CancelAllReply.tolerant
  | status => exact StatusReply.tolerant
  | login => exact LoginReply.tolerant
  | instruments => exact InstrumentsReply.tolerant
  | products => exact ProductsReply.tolerant

/-- However a reply is edited, and whatever text spells what comes out, it is read as before, or
fails as before. -/
theorem edits_read_alike (form : ReplyForm) {text : String} {v v' : Value}
    (h : Value.parse? text = some v) (hedits : Relation.EqvGen (Edit form.shape) v v') :
    (∀ text', Value.parse? text' = some v' → form.decode? text' = form.decode? text) ∧
      (v'.WellFormed → form.decode? v'.print = form.decode? text) := by
  have hread : form.read? v = form.read? v' := form.tolerant.edits hedits
  have hspelled : ∀ text', Value.parse? text' = some v' → form.decode? text' =
      form.decode? text := by
    intro text' h'
    rw [decode?, decode?, h, h', Option.bind_some, Option.bind_some, hread]
  exact ⟨hspelled, fun hwell => hspelled _ (Value.parse?_print hwell)⟩

def terseLogin : Value :=
  .fields [
    ("authenticated", .bool true), ("user", .fields [("userId", .int 9), ("userName", .text "bo")]),
    ("remark", .text "hi")]

/-- The same without the remark, in another order, with nulls, and with lists in the user. -/
def paddedLogin : Value :=
  .fields [
    ("errormsg", .null),
    ("user", .fields [
      ("userName", .text "bo"), ("since", .array [.array [], .fields []]), ("userId", .int 9),
        ("accountId", .null)]),
    ("authenticated", .bool true)]

theorem padded_login_alike :
    let terse :=
      "\x7b\"authenticated\":true,\"user\":\x7b\"userId\":9,\"userName\":\"bo\"\x7d,\"remark\":\"hi\"\x7d"
    let padded :=
      "\x7b\"errormsg\":null,\"user\":\x7b\"userName\":\"bo\",\"since\":[[],\x7b\x7d]," ++
      "\"userId\":9," ++
      "\"accountId\":null\x7d,\"authenticated\":true\x7d"
    Value.parse? terse = some terseLogin ∧
      Relation.EqvGen (Edit login.shape) terseLogin paddedLogin ∧
      Value.parse? padded = some paddedLogin ∧ login.decode? padded = login.decode? terse ∧
      (Value.parse? terse).bind LoginReply.ofJson? =
        some { authenticated := true, user := some { userId := 9, userName := "bo" } } := by
  intro terse padded
  have hterse : Value.parse? terse = some terseLogin := by
    have htext : terseLogin.print = terse := by decide +kernel
    rw [← htext]
    refine Value.parse?_print fun n hn => ?_
    obtain rfl : n = .ofInt 9 := by
      simpa [terseLogin, Value.fields, Value.tokens, Value.moreMembers, Value.int,
        Value.text] using hn
    exact Json.Numeral.wellFormed_ofInt 9
  have hpadded : Value.parse? padded = some paddedLogin := by
    have htext : paddedLogin.print = padded := by decide +kernel
    rw [← htext]
    refine Value.parse?_print fun n hn => ?_
    obtain rfl : n = .ofInt 9 := by
      simpa [paddedLogin, Value.fields, Value.tokens, Value.moreMembers, Value.moreItems, Value.int,
        Value.text] using hn
    exact Json.Numeral.wellFormed_ofInt 9
  have hedits : Relation.EqvGen (Edit login.shape) terseLogin paddedLogin := by
    have huser : ∀ {u u' : Value} {l r : List Json.Member}, Edit ReportedUser.shape u u' →
        Relation.EqvGen (Edit login.shape) (.object (l ++ (some "user", u) :: r))
          (.object (l ++ (some "user", u') :: r)) :=
      fun h => .rel _ _ (.member rfl h)
    refine .trans _ _ _ (huser (l := [_]) (@Edit.null _ [_, _] [] "accountId" (by simp))) ?_
    refine .trans _ _ _ (huser (l := [_]) (.permute (.swap _ _ _))) ?_
    refine .trans _ _ _
      (huser (l := [_]) (@Edit.unknown _ [_] _ "since" (.array [.array [], .fields []]) rfl)) ?_
    refine .trans _ _ _ (.rel _ _ (.permute (.swap _ _ _))) ?_
    refine .trans _ _ _ (.symm _ _ (.rel _ _ (@Edit.unknown _ [_, _] [] "remark" _ rfl))) ?_
    exact .rel _ _ (@Edit.null _ [] _ "errormsg" (by simp))
  exact ⟨hterse, hedits, hpadded, (edits_read_alike login hterse hedits).1 _ hpadded,
    by decide +kernel⟩

end ReplyForm

end VenueGateway
