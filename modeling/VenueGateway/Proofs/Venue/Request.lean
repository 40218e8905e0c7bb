import VenueGateway.Gateway.Commands
import VenueGateway.Proofs.Client.Numbering
import VenueGateway.Proofs.Gateway.Settlement
import VenueGateway.Proofs.Json.Canonical
import VenueGateway.Proofs.Venue.Frame

/-!
What goes out is what was asked. A request is sorted, written as a text, and that text is written
once more as a string inside a frame; whoever reads the frame and then its payload has the request
again, and knows its number.
-/

namespace VenueGateway

open Json (Value Member)
open Json.Field (required)

section RoundTrips

/-! Every request is read back from its fields. -/

@[simp] theorem CancelRequest.ofJson?_toJson (q : CancelRequest) : ofJson? q.toJson = some q := by
  simp [ofJson?, toJson, Value.record?_fields, List.lookup_cons, required]

@[simp] theorem CancelAllRequest.ofJson?_toJson (q : CancelAllRequest) :
    ofJson? q.toJson = some q := by
  simp [ofJson?, toJson, Value.record?_fields, List.lookup_cons, required]

@[simp] theorem LoginRequest.ofJson?_toJson (q : LoginRequest) : ofJson? q.toJson = some q := by
  simp [ofJson?, toJson, Value.record?_fields, List.lookup_cons, required]

@[simp] theorem StatusRequest.ofJson?_toJson (q : StatusRequest) : ofJson? q.toJson = some q := by
  simp [ofJson?, toJson, Value.record?_fields, List.lookup_cons, required]

@[simp] theorem ListRequest.ofJson?_toJson (q : ListRequest) : ofJson? q.toJson = some q := by
  simp [ofJson?, toJson, Value.record?_fields, List.lookup_cons, required]

@[simp] theorem AccountsRequest.ofJson?_toJson (q : AccountsRequest) :
    ofJson? q.toJson = some q := by
  simp [ofJson?, toJson, Value.record?_fields, List.lookup_cons, required]

@[simp] theorem LogoutRequest.ofJson?_toJson (q : LogoutRequest) : ofJson? q.toJson = some q := by
  simp [ofJson?, toJson, Value.record?_fields]

end RoundTrips

inductive PlainRequest where
  | cancelOrder (q : CancelRequest)
  | cancelAllOrders (q : CancelAllRequest)
  | login (q : LoginRequest)
  | orderStatus (q : StatusRequest)
  | instruments (q : ListRequest)
  | products (q : ListRequest)
  | userAccounts (q : AccountsRequest)
  | logout (q : LogoutRequest)
  deriving DecidableEq, Repr

namespace PlainRequest

def operation : PlainRequest → String
  | cancelOrder _ => Operation.cancelOrder
  | cancelAllOrders _ => Operation.cancelAllOrders
  | login _ => Operation.authenticate
  | orderStatus _ => Operation.orderStatus
  | instruments _ => Operation.instruments
  | products _ => Operation.products
  | userAccounts _ => Operation.userAccounts
  | logout _ => Operation.logOut

def toJson : PlainRequest → Value
  | cancelOrder q => q.toJson
  | cancelAllOrders q => q.toJson
  | login q => q.toJson
  | orderStatus q => q.toJson
  | instruments q | products q => q.toJson
  | userAccounts q => q.toJson
  | logout q => q.toJson

def read? : PlainRequest → Value → Option PlainRequest
  | cancelOrder _, v => (CancelRequest.ofJson? v).map cancelOrder
  | cancelAllOrders _, v => (CancelAllRequest.ofJson? v).map cancelAllOrders
  | login _, v => (LoginRequest.ofJson? v).map login
  | orderStatus _, v => (StatusRequest.ofJson? v).map orderStatus
  | instruments _, v => (ListRequest.ofJson? v).map instruments
  | products _, v => (ListRequest.ofJson? v).map products
  | userAccounts _, v => (AccountsRequest.ofJson? v).map userAccounts
  | logout _, v => (LogoutRequest.ofJson? v).map logout

/-- A request is an object of numbers and texts, none of them twice under one name. -/
theorem exists_fields (q : PlainRequest) :
    ∃ fs, q.toJson = .fields fs ∧ (fs.map Prod.fst).Nodup ∧ ∀ f ∈ fs, f.2.WellFormed := by
  cases q <;> refine ⟨_, rfl, by simp, ?_⟩ <;>
    simp [Value.int64, Value.wellFormed_int, Value.wellFormed_text]

/-- The order of its members does not tell. -/
theorem read?_sortMembers (q : PlainRequest) {ms : List Member} (hkeys : (ms.map Prod.fst).Nodup) :
    q.read? (Value.object ms).sortMembers = q.read? (.object ms) := by
  cases q <;>
    simp only [read?, CancelRequest.ofJson?, CancelAllRequest.ofJson?, LoginRequest.ofJson?,
      StatusRequest.ofJson?, ListRequest.ofJson?, AccountsRequest.ofJson?, LogoutRequest.ofJson?,
      Value.record?_sortMembers hkeys]

theorem read?_toJson (q : PlainRequest) : q.read? q.toJson = some q := by
  cases q <;> simp [read?, toJson]

/-- The text is that of a request with the given number, of which the payload is canonical JSON and
spells `q`. -/
def Conveys (text : String) (n : Int64) (q : PlainRequest) : Prop :=
  ∃ payload v, Frame.decode text = .ok (.request n q.operation payload) ∧ Json.Compact payload ∧
    Value.parse? payload = some v ∧ v.KeysAscend ∧ q.read? v = some q

/-- A request that is written conveys itself. -/
theorem conveys_encode (q : PlainRequest) (n : Int64) :
    Conveys (Frame.request n q.operation q.toJson.wire).encode n q := by
  obtain ⟨fs, hfields, hkeys, hwell⟩ := q.exists_fields
  have hread : q.read? (Value.fields fs).sortMembers = some q := by
    rw [Value.fields, q.read?_sortMembers (Value.nodup_members hkeys), ← Value.fields, ← hfields,
      q.read?_toJson]
  refine ⟨q.toJson.wire, _, Frame.decode_unpadded _, ?_, ?_,
    Value.keysAscend_sortMembers hkeys, hread⟩
  · rw [hfields, Value.wire]
    exact Value.compact_print (Value.wellFormed_sortMembers_fields hwell)
  · rw [hfields]
    exact Value.parse?_wire hwell

/-- However a request is sent, what goes out conveys it, under the number that its sender is
told. -/
structure SentAsAsked (q : PlainRequest) : Prop where
  encoded : ∀ n, Conveys (Frame.request n q.operation q.toJson.wire).encode n q
  /-- A session sends one frame. -/
  sent : ∀ (g : Gateway) (n : Int64), (g.send q.operation q.toJson).2 = .ok n →
    ∃ f, (g.send q.operation q.toJson).1.link.accepted = g.link.accepted ++ [f] ∧
      Conveys f.encode n q
  /-- A client writes nothing else for a sender, whatever its other tasks do meanwhile. -/
  written : ∀ settings as i p f,
    ((Client.new settings).run as).tasks[i]? = some (.send q.operation q.toJson.wire p) →
    (i, .wrote f) ∈ (Client.new settings).marks as →
      p = .done (.ok f.sequence) ∧ Conveys f.encode f.sequence q
  /-- Who is told a number has had the request written. -/
  told : ∀ settings as i n,
    ((Client.new settings).run as).tasks[i]? =
      some (.send q.operation q.toJson.wire (.done (.ok n))) →
      ∃ f ∈ ((Client.new settings).run as).shared.requests,
        (i, .wrote f) ∈ (Client.new settings).marks as ∧ Conveys f.encode n q

/-- Whatever a request is made of, it arrives as it was asked. -/
theorem sent_as_asked (q : PlainRequest) : SentAsAsked q := by
  constructor
  case encoded => exact q.conveys_encode
  case sent =>
    intro g n h
    have hlink : (g.link.send q.operation q.toJson.wire).2 = .ok n := h
    obtain rfl := Link.sequence_of_send_ok hlink
    exact ⟨_, Link.accepted_send_of_ok hlink, q.conveys_encode _⟩
  case written =>
    intro settings as i p f ht hm
    obtain ⟨hf, hp⟩ := ((Client.ledger_run settings as).wrote_iff ht).mp hm
    refine ⟨hp, ?_⟩
    rw [hf]
    exact q.conveys_encode f.sequence
  case told =>
    intro settings as i n ht
    have hledger := Client.ledger_run settings as
    have hm := (hledger.wrote_iff ht (f := .request n q.operation q.toJson.wire)).mpr ⟨rfl, rfl⟩
    exact ⟨_, hledger.mem_requests hm, hm, q.conveys_encode n⟩

/-- A sender that nothing gets in the way of is told the first number. -/
example :
    let q := logout {}
    let as := [.connect] ++ List.replicate 5 (.step 0 .fine) ++ [.send q.operation q.toJson.wire] ++
      List.replicate 4 (.step 2 .fine)
    ((Client.new {}).run as).tasks[2]? = some (.send q.operation q.toJson.wire (.done (.ok 2))) :=
      rfl

end PlainRequest

end VenueGateway
