import VenueGateway.Gateway.Intake
import VenueGateway.Proofs.Bus.Publishing
import VenueGateway.Proofs.Gateway.Relay

/-!
What a message from a queue leads to. Either it asks for nothing that can be done, is rejected and
changes nothing, or it is an errand: an event is published first, then a login and a request are
sent, and the message is settled by what became of the two. `Fares` lists all that may become of
them.
-/

namespace VenueGateway

open Json (Value)

namespace Link

/-- A request gets a number only from a link that is connected and accepts its frame. -/
theorem accepts_of_send_ok {l : Link} {operation payload : String} {n : Int64}
    (h : (l.send operation payload).2 = .ok n) :
    l.state = .connected ∧ l.refusal (l.nextFrame operation payload) = none := by
  by_cases hs : l.state = .connected
  · cases hr : l.refusal (l.nextFrame operation payload) with
    | none => exact ⟨hs, rfl⟩
    | some e =>
      rw [send_of_refused hs hr] at h
      cases h
  · rw [send_of_not_connected hs] at h
    cases h

/-- An accepted request is the last of the accepted frames. -/
theorem accepted_send_of_ok {l : Link} {operation payload : String} {n : Int64}
    (h : (l.send operation payload).2 = .ok n) :
    (l.send operation payload).1.accepted = l.accepted ++ [l.nextFrame operation payload] := by
  obtain ⟨hs, hr⟩ := accepts_of_send_ok h
  rw [send_of_accepted hs hr]

/-- Who sends is told the number of the frame. -/
theorem sequence_of_send_ok {l : Link} {operation payload : String} {n : Int64}
    (h : (l.send operation payload).2 = .ok n) : (l.nextFrame operation payload).sequence = n := by
  obtain ⟨hs, hr⟩ := accepts_of_send_ok h
  rw [send_of_accepted hs hr] at h
  exact Except.ok.inj h

/-- A request that fails was not written. -/
theorem accepted_send_of_error {l : Link} {operation payload : String} {e : LinkError}
    (h : (l.send operation payload).2 = .error e) :
    (l.send operation payload).1.accepted = l.accepted := by
  by_cases hs : l.state = .connected
  · cases hr : l.refusal (l.nextFrame operation payload) with
    | none =>
      rw [send_of_accepted hs hr] at h
      cases h
    | some e' => rw [send_of_refused hs hr]
  · rw [send_of_not_connected hs]

/-- The link behind a login, or as it is where there is nobody to log in. -/
def behind (l : Link) : Option LoginRequest → Link
  | none => l
  | some q => (l.send Operation.authenticate q.toJson.wire).1

end Link

def SubmitOrder.ofBytes? (body : List UInt8) : Option SubmitOrder :=
  (Value.parseBytes? body).bind ofJson?

def CancelOrder.ofBytes? (body : List UInt8) : Option CancelOrder :=
  (Value.parseBytes? body).bind ofJson?

namespace Listener

/-- What an event makes of the floor when a listener handles it. -/
def hear (order : VisitOrder Tracker.Entry) (e : Event) (w : Floor) (listener : Listener) : Floor :=
  (react order listener e w {}).world

/-- A submission is heard whatever was counted, and nobody answers it with an event. -/
theorem react_submitted (order : VisitOrder Tracker.Entry) (listener : Listener) (trade : TradeRef)
    (key : String) (w : Floor) (m : Metrics) :
    let e := Event.orderSubmitted trade key
    (react order listener e w m).world = hear order e w listener ∧
      (react order listener e w m).offers = [] := by
  cases listener <;> exact ⟨rfl, rfl⟩

end Listener

/-- What a message asks for: an event to be published, and a request to be sent. -/
structure Errand where
  event : Event
  operation : String
  payload : Value

/-- What becomes of a request and the login in front of it: the frames that the link accepts of
either, and how the message is settled for which they were sent. -/
inductive Fares (l : Link) (login : Option LoginRequest) (operation payload : String) :
    List Frame → List Frame → Settlement → Prop
  | loginLost {q : LoginRequest} {e : LinkError} (hq : login = some q)
      (hl : (l.send Operation.authenticate q.toJson.wire).2 = .error e) :
      Fares l login operation payload [] [] .requeue
  | lost {e : LinkError} (hq : login = none)
      (hs : ((l.behind login).send operation payload).2 = .error e) :
      Fares l login operation payload [] [] .requeue
  | done {n : Int64} (hq : login = none)
      (hs : ((l.behind login).send operation payload).2 = .ok n) :
      Fares l login operation payload [] [(l.behind login).nextFrame operation payload] .ack
  | loggedInAndLost {q : LoginRequest} {m : Int64} {e : LinkError} (hq : login = some q)
      (hl : (l.send Operation.authenticate q.toJson.wire).2 = .ok m)
      (hs : ((l.behind login).send operation payload).2 = .error e) :
      Fares l login operation payload [l.nextFrame Operation.authenticate q.toJson.wire] [] .requeue
  | loggedInAndDone {q : LoginRequest} {m n : Int64} (hq : login = some q)
      (hl : (l.send Operation.authenticate q.toJson.wire).2 = .ok m)
      (hs : ((l.behind login).send operation payload).2 = .ok n) :
      Fares l login operation payload [l.nextFrame Operation.authenticate q.toJson.wire]
        [(l.behind login).nextFrame operation payload] .ack

namespace Fares

variable {l : Link} {login : Option LoginRequest} {operation payload : String}
  {logins orders : List Frame}
  {s : Settlement}

theorem ne_reject (h : Fares l login operation payload logins orders s) : s ≠ .reject := by
  cases h <;> exact nofun

/-- A login is written where there is one and the link takes it. -/
theorem logins_ne_nil_iff (h : Fares l login operation payload logins orders s) :
    logins ≠ [] ↔ ∃ q n, login = some q ∧
      (l.send Operation.authenticate q.toJson.wire).2 = .ok n := by
  cases h with
  | loginLost hq hl => simp [hq, hl]
  | lost hq hs => simp [hq]
  | done hq hs => simp [hq]
  | loggedInAndLost hq hl hs => simp [hq, hl]
  | loggedInAndDone hq hl hs => simp [hq, hl]

/-- A message is done with where its request was written, which happens once. -/
theorem ack_iff (h : Fares l login operation payload logins orders s) :
    s = .ack ↔ orders = [(l.behind login).nextFrame operation payload] := by
  cases h <;> simp

/-- A message is put back where the login failed or the request did. -/
theorem requeue_iff (h : Fares l login operation payload logins orders s) :
    s = .requeue ↔
    (∃ q e, login = some q ∧ (l.send Operation.authenticate q.toJson.wire).2 = .error e) ∨
      ∃ e, ((l.behind login).send operation payload).2 = .error e := by
  cases h with
  | loginLost hq hl => simp [hq, hl]
  | lost hq hs => simp [hs]
  | done hq hs =>
    subst hq
    simp [hs]
  | loggedInAndLost hq hl hs => simp [hs]
  | loggedInAndDone hq hl hs =>
    subst hq
    simp [hl, hs]

end Fares

namespace Gateway

/-- What a sending leaves alone, and the frames that it adds. -/
structure Sends (g g' : Gateway) (frames : List Frame) : Prop where
  trace : g'.trace = g.trace ++ frames.map .sent
  accepted : g'.link.accepted = g.link.accepted ++ frames
  bus : g'.hub.bus = g.hub.bus
  world : g'.hub.world = g.hub.world

theorem Sends.nil (g : Gateway) : Sends g g [] := ⟨by simp, by simp, rfl, rfl⟩

theorem Sends.count {g g' : Gateway} {frames : List Frame} (h : Sends g g' frames) (c : Counter) :
    Sends g (g'.count c) frames := ⟨h.trace, h.accepted, h.bus, h.world⟩

theorem Sends.trans {g g' g'' : Gateway} {frames frames' : List Frame} (h : Sends g g' frames)
    (h' : Sends g' g'' frames') : Sends g g'' (frames ++ frames') where
  trace := by rw [h'.trace, h.trace, List.map_append, List.append_assoc]
  accepted := by rw [h'.accepted, h.accepted, List.append_assoc]
  bus := h'.bus.trans h.bus
  world := h'.world.trans h.world

def Kept (g g' : Gateway) : Prop := ∃ hub link trace, g' = { g with hub, link, trace }

theorem Kept.trans {g g' g'' : Gateway} (h : Kept g g') (h' : Kept g' g'') : Kept g g'' := by
  obtain ⟨_, _, _, rfl⟩ := h
  obtain ⟨hub, link, trace, rfl⟩ := h'
  exact ⟨hub, link, trace, rfl⟩

theorem Kept.account {g g' : Gateway} (h : Kept g g') : g'.account = g.account := by
  obtain ⟨_, _, _, rfl⟩ := h
  rfl

theorem Kept.provider {g g' : Gateway} (h : Kept g g') : g'.provider = g.provider := by
  obtain ⟨_, _, _, rfl⟩ := h
  rfl

theorem Kept.directory {g g' : Gateway} (h : Kept g g') : g'.directory = g.directory := by
  obtain ⟨_, _, _, rfl⟩ := h
  rfl

theorem sends_of_ok {g : Gateway} {operation : String} {payload : Value} {n : Int64}
    (h : (g.link.send operation payload.wire).2 = .ok n) :
    Sends g (g.send operation payload).1 [g.link.nextFrame operation payload.wire] where
  trace := by simp [send, h]
  accepted := Link.accepted_send_of_ok h
  bus := rfl
  world := rfl

theorem sends_of_error {g : Gateway} {operation : String} {payload : Value} {e : LinkError}
    (h : (g.link.send operation payload.wire).2 = .error e) :
    Sends g (g.send operation payload).1 [] where
  trace := by simp [send, h]
  accepted := by rw [List.append_nil]; exact Link.accepted_send_of_error h
  bus := rfl
  world := rfl

/-- A request that is sent behind a login fares in one of the listed ways. -/
theorem exists_fares (g : Gateway) (operation : String) (payload : Value) :
    ∃ logins orders, Sends g (g.sendLoggedIn operation payload).1 (logins ++ orders) ∧
      Fares g.link g.session.loginRequest? operation payload.wire logins orders
        (.ofOutcome (g.sendLoggedIn operation payload).2) := by
  simp only [sendLoggedIn, login]
  cases g.session.loginRequest? with
  | none =>
    cases hs : (g.link.send operation payload.wire).2 with
    | error e =>
      have hout : (g.send operation payload).2 = .error e := hs
      simp only [hout]
      exact ⟨[], [], (sends_of_error hs).count _, .lost rfl hs⟩
    | ok n =>
      have hout : (g.send operation payload).2 = .ok n := hs
      simp only [hout]
      exact ⟨[], _, sends_of_ok hs, .done rfl hs⟩
  | some q =>
    cases hl : (g.link.send Operation.authenticate q.toJson.wire).2 with
    | error e =>
      have hlogin : (g.send Operation.authenticate q.toJson).2 = .error e := hl
      simp only [hlogin, Except.map]
      exact ⟨[], [], (sends_of_error hl).count _, .loginLost rfl hl⟩
    | ok m =>
      have hlogin : (g.send Operation.authenticate q.toJson).2 = .ok m := hl
      simp only [hlogin, Except.map]
      cases hs :
        ((g.link.send Operation.authenticate q.toJson.wire).1.send operation payload.wire).2 with
      | error e =>
        have hout : ((g.send Operation.authenticate q.toJson).1.send operation payload).2 =
          .error e := hs
        simp only [hout]
        exact ⟨_, [], (sends_of_ok hl).trans ((sends_of_error hs).count _),
          .loggedInAndLost rfl hl hs⟩
      | ok n =>
        have hout : ((g.send Operation.authenticate q.toJson).1.send operation payload).2 = .ok n :=
          hs
        simp only [hout]
        exact ⟨_, _, (sends_of_ok hl).trans (sends_of_ok hs), .loggedInAndDone rfl hl hs⟩

/-- The errand on which a message from a queue sends a gateway. -/
inductive Asks (g : Gateway) (queue : String) (body : List UInt8) : Errand → Prop
  | submission {c : SubmitOrder} {id : Int64} (hq : queue = submissionQueue g.provider)
      (hc : SubmitOrder.ofBytes? body = some c) (hid : g.directory.id? c.instrumentPair = some id) :
      Asks g queue body
        ⟨g.submission c, Operation.sendOrder, (OrderRequest.ofCommand g.account id c).toJson⟩
  | cancellation {c : CancelOrder} {id : Int64} (hq : queue = cancellationQueue g.provider)
      (hc : CancelOrder.ofBytes? body = some c) (hid : c.venueId? = some id) :
      Asks g queue body
        ⟨.orderCanceled c.orderId, Operation.cancelOrder,
          (CancelRequest.onAccount g.account id).toJson⟩

/-- A message that asks for nothing that can be done. -/
inductive Unusable (g : Gateway) (queue : String) (body : List UInt8) : Prop
  | strangeQueue (hs : queue ≠ submissionQueue g.provider)
    (hc : queue ≠ cancellationQueue g.provider)
  | noSubmission (hq : queue = submissionQueue g.provider) (hc : SubmitOrder.ofBytes? body = none)
  | noCancellation (hq : queue = cancellationQueue g.provider)
    (hc : CancelOrder.ofBytes? body = none)
  | unknownInstrument {c : SubmitOrder} (hq : queue = submissionQueue g.provider)
      (hc : SubmitOrder.ofBytes? body = some c) (hid : g.directory.id? c.instrumentPair = none)
  | noNumber {c : CancelOrder} (hq : queue = cancellationQueue g.provider)
      (hc : CancelOrder.ofBytes? body = some c) (hid : c.venueId? = none)

def Untouched (g g' : Gateway) : Prop := ∃ m, g' = { g with hub := { g.hub with metrics := m } }

/-- How an event was made known. A submission is handled by all who are subscribed to its kind, one
after another. A cancellation is put into the queue of each of them once, behind what waits there,
as soon as there is room. -/
inductive MadeKnown (g g' : Gateway) : Event → Prop
  | handled {trade : TradeRef} {key : String} (hb : g'.hub.bus = g.hub.bus)
      (hw : g'.hub.world =
        ((g.hub.bus.subscriptions.filter fun s => s.subscribed && s.kind == .orderSubmitted).map
          (·.handler)).foldl
          (Listener.hear g.visits (.orderSubmitted trade key)) g.hub.world) :
      MadeKnown g g' (.orderSubmitted trade key)
  | queued {key : String} {is : List Nat} {n : Nat} {h : Hub Listener Floor}
      (his : g.hub.bus.Addressees .orderCanceled is)
      (hserves : Hub.Serves g.reactor (.orderCanceled key) is g.hub h n)
      (hb : g'.hub.bus = h.bus) (hw : g'.hub.world = h.world) :
      MadeKnown g g' (.orderCanceled key)

/-- What has been done once an errand is over and its message is settled: its event was made known
when nothing had been sent for it, and then the frames were. -/
structure CarriedOut (g g' : Gateway) (errand : Errand) (logins orders : List Frame)
    (s : Settlement) : Prop where
  announced : ∃ made, MadeKnown g made errand.event ∧ made.link = g.link ∧
    made.trace = g.trace ++ [.published errand.event] ∧ Sends made g' (logins ++ orders)
  fares : Fares g.link g.session.loginRequest? errand.operation errand.payload.wire logins orders s

theorem MadeKnown.congr {g g' g'' : Gateway} {e : Event} (h : MadeKnown g g' e)
    (hb : g''.hub.bus = g'.hub.bus) (hw : g''.hub.world = g'.hub.world) : MadeKnown g g'' e := by
  cases h with
  | handled hb' hw' => exact .handled (hb.trans hb') (hw.trans hw')
  | queued his hserves hb' hw' => exact .queued his hserves (hb.trans hb') (hw.trans hw')

/-- A submission was heard by every handler of its kind. -/
theorem MadeKnown.heard {g g' : Gateway} {trade : TradeRef} {key : String}
    (h : MadeKnown g g' (.orderSubmitted trade key)) :
    g'.hub.bus = g.hub.bus ∧ g'.hub.world = (g.hub.bus.handlers .orderSubmitted).foldl
      (Listener.hear g.visits (.orderSubmitted trade key)) g.hub.world := by
  cases h with
  | handled hb hw => exact ⟨hb, hw⟩

namespace CarriedOut

variable {g g' : Gateway} {errand : Errand} {logins orders : List Frame} {s : Settlement}

theorem known (h : CarriedOut g g' errand logins orders s) : MadeKnown g g' errand.event := by
  obtain ⟨made, hknown, -, -, hsends⟩ := h.announced
  exact hknown.congr hsends.bus hsends.world

/-- Others saw the event first, and then the frames. -/
theorem trace (h : CarriedOut g g' errand logins orders s) :
    g'.trace = g.trace ++ .published errand.event :: (logins ++ orders).map .sent := by
  obtain ⟨made, -, -, htrace, hsends⟩ := h.announced
  rw [hsends.trace, htrace, List.append_assoc]
  rfl

theorem accepted (h : CarriedOut g g' errand logins orders s) :
    g'.link.accepted = g.link.accepted ++ (logins ++ orders) := by
  obtain ⟨made, -, hlink, -, hsends⟩ := h.announced
  rw [hsends.accepted, hlink]

theorem count (h : CarriedOut g g' errand logins orders s) (c : Counter) :
    CarriedOut g (g'.count c) errand logins orders s := by
  obtain ⟨made, hknown, hlink, htrace, hsends⟩ := h.announced
  exact ⟨⟨made, hknown, hlink, htrace, hsends.count c⟩, h.fares⟩

end CarriedOut

/-- Whoever listens to submissions offers nothing, so all of them hear of it one after another. -/
theorem foldl_invoke_submitted (order : VisitOrder Tracker.Entry) (h : Hub Listener Floor)
    (listeners : List Listener) (trade : TradeRef) (key : String) :
    let e := Event.orderSubmitted trade key
    let h' := listeners.foldl (fun h listener => h.invoke (Listener.react order) listener e) h
    h'.bus = h.bus ∧ h'.world = listeners.foldl (Listener.hear order e) h.world := by
  induction listeners generalizing h with
  | nil => exact ⟨rfl, rfl⟩
  | cons listener listeners ih =>
    obtain ⟨hworld, hoffers⟩ := Listener.react_submitted order listener trade key h.world h.metrics
    obtain ⟨hb, hw⟩ := ih (h.invoke (Listener.react order) listener (.orderSubmitted trade key))
    have hbus : (h.invoke (Listener.react order) listener (.orderSubmitted trade key)).bus =
        h.bus := by
      rw [Hub.invoke, hoffers]
      rfl
    have hfloor : (h.invoke (Listener.react order) listener (.orderSubmitted trade key)).world =
        Listener.hear order (.orderSubmitted trade key) h.world listener := by
      rw [← hworld, Hub.invoke, hoffers]
      rfl
    exact ⟨hb.trans hbus, by rw [List.foldl_cons, List.foldl_cons, hw, hfloor]⟩

theorem madeKnown_announce (g : Gateway) (trade : TradeRef) (key : String) :
    MadeKnown g (g.announce (.orderSubmitted trade key)) (.orderSubmitted trade key) := by
  obtain ⟨hb, hw⟩ :=
    foldl_invoke_submitted g.visits g.hub (g.hub.bus.handlers .orderSubmitted) trade key
  exact .handled hb hw

theorem madeKnown_publish (g : Gateway) (key : String) :
    MadeKnown g (g.publish (.orderCanceled key)) (.orderCanceled key) := by
  obtain ⟨h, hserves, hpublish⟩ :=
    Hub.publish_serves (Listener.calm g.visits).answers g.schedule g.hub (.orderCanceled key)
  have hhub : (g.publish (.orderCanceled key)).hub =
    (g.hub.publish g.schedule g.reactor (.orderCanceled key)).1 := rfl
  exact .queued (g.hub.bus.addressees_recipients _) hserves (by rw [hhub, reactor, hpublish])
    (by rw [hhub, reactor, hpublish])

/-- An errand is carried out by sending its request, once its event has been made known and nothing
else has been done. -/
theorem exists_carriedOut {g g' : Gateway} (errand : Errand) (hknown : MadeKnown g g' errand.event)
    (htrace : g'.trace = g.trace ++ [.published errand.event]) (hlink : g'.link = g.link)
    (hsession : g'.session = g.session) :
    ∃ logins orders,
    CarriedOut g (g'.sendLoggedIn errand.operation errand.payload).1 errand logins orders
      (.ofOutcome (g'.sendLoggedIn errand.operation errand.payload).2) := by
  obtain ⟨logins, orders, hsends, hfares⟩ := exists_fares g' errand.operation errand.payload
  rw [hlink, hsession] at hfares
  exact ⟨logins, orders, ⟨g', hknown, hlink, htrace, hsends⟩, hfares⟩

theorem countSent_snd (r : Gateway × Except CommandError Int64) (c : Counter) :
    (countSent r c).2 = r.2 := by
  unfold countSent
  split <;> rfl

/-- Counting a command that went out undoes nothing of its errand. -/
theorem CarriedOut.countSent {g : Gateway} {r : Gateway × Except CommandError Int64}
    {errand : Errand} {logins orders : List Frame} {s : Settlement}
    (h : CarriedOut g r.1 errand logins orders s) (c : Counter) :
    CarriedOut g (Gateway.countSent r c).1 errand logins orders s := by
  unfold Gateway.countSent
  split
  · exact h.count c
  · exact h

theorem kept_login (g : Gateway) : Kept g g.login.1 := by
  unfold login
  split
  · exact ⟨g.hub, g.link, g.trace, rfl⟩
  · exact ⟨_, _, _, rfl⟩

theorem kept_sendLoggedIn (g : Gateway) (operation : String) (payload : Value) :
    Kept g (g.sendLoggedIn operation payload).1 := by
  refine (kept_login g).trans ?_
  simp only [sendLoggedIn]
  split
  · exact ⟨_, _, _, rfl⟩
  · split <;> exact ⟨_, _, _, rfl⟩

theorem kept_countSent (r : Gateway × Except CommandError Int64) (c : Counter) :
    Kept r.1 (countSent r c).1 := by
  unfold countSent
  split <;> exact ⟨_, _, _, rfl⟩

theorem kept_submit (g : Gateway) (c : SubmitOrder) : Kept g (g.submit c).1 := by
  unfold submit
  split
  · exact ⟨_, _, _, rfl⟩
  · have hannounced : Kept g (g.announce (g.submission c)) := ⟨_, _, _, rfl⟩
    exact (hannounced.trans (kept_sendLoggedIn _ _ _)).trans (kept_countSent _ _)

theorem submissionQueue_ne_cancellationQueue (provider : String) :
    submissionQueue provider ≠ cancellationQueue provider := by
  unfold submissionQueue cancellationQueue
  intro h
  have hchars := congrArg String.toList h
  simp only [String.toList_append] at hchars
  have hchar := congrArg (fun cs : List Char => cs[17]?) hchars
  simp at hchar

/-- No message is both an errand and unusable. -/
theorem not_unusable_of_asks {g : Gateway} {queue : String} {body : List UInt8} {errand : Errand}
    (h : Asks g queue body errand) : ¬ Unusable g queue body := by
  have hne := submissionQueue_ne_cancellationQueue g.provider
  intro hu
  cases h with
  | submission hq hc hid =>
    subst hq
    cases hu with
    | strangeQueue hs => exact hs rfl
    | noSubmission _ hc' => simp [hc] at hc'
    | noCancellation hq' => exact hne hq'
    | unknownInstrument _ hc' hid' =>
      obtain rfl := Option.some.inj (hc.symm.trans hc')
      simp [hid] at hid'
    | noNumber hq' => exact hne hq'
  | cancellation hq hc hid =>
    subst hq
    cases hu with
    | strangeQueue _ hs => exact hs rfl
    | noSubmission hq' => exact hne hq'.symm
    | noCancellation _ hc' => simp [hc] at hc'
    | unknownInstrument hq' => exact hne hq'.symm
    | noNumber _ hc' hid' =>
      obtain rfl := Option.some.inj (hc.symm.trans hc')
      simp [hid] at hid'

/-- A submission is rejected without a trace, or carried out. -/
theorem handle_submission (g : Gateway) {queue : String} (hq : queue = submissionQueue g.provider)
    (body : List UInt8) :
    (Unusable g queue body ∧ (g.handle queue body).2 = .reject ∧
      Untouched g (g.handle queue body).1) ∨
    ∃ errand logins orders, Asks g queue body errand ∧
      CarriedOut g (g.handle queue body).1 errand logins orders (g.handle queue body).2 := by
  have hhandle : g.handle queue body = g.handleSubmission body := by rw [handle, if_pos hq]
  rw [hhandle, handleSubmission]
  cases hc : (Value.parseBytes? body).bind SubmitOrder.ofJson? with
  | none => exact .inl ⟨.noSubmission hq hc, rfl, g.hub.metrics, rfl⟩
  | some c =>
    simp only [submit]
    cases hid : g.directory.id? c.instrumentPair with
    | none => exact .inl ⟨.unknownInstrument hq hc hid, rfl, _, rfl⟩
    | some id =>
      right
      obtain ⟨logins, orders, hdone⟩ := exists_carriedOut
        ⟨g.submission c, Operation.sendOrder, (OrderRequest.ofCommand g.account id c).toJson⟩
        (madeKnown_announce g (.onAccount g.account c.id) c.trackingKey) rfl rfl rfl
      refine ⟨_, logins, orders, .submission hq hc hid, ?_⟩
      simp only [countSent_snd]
      exact hdone.countSent _

/-- A cancellation is rejected without a trace, or carried out. -/
theorem handle_cancellation (g : Gateway) {queue : String}
    (hq : queue = cancellationQueue g.provider) (body : List UInt8) :
    (Unusable g queue body ∧ (g.handle queue body).2 = .reject ∧
      Untouched g (g.handle queue body).1) ∨
    ∃ errand logins orders, Asks g queue body errand ∧
      CarriedOut g (g.handle queue body).1 errand logins orders (g.handle queue body).2 := by
  have hne : queue ≠ submissionQueue g.provider := by
    rw [hq]
    exact (submissionQueue_ne_cancellationQueue g.provider).symm
  have hhandle : g.handle queue body = g.handleCancellation body := by
    rw [handle, if_neg hne, if_pos hq]
  rw [hhandle, handleCancellation]
  cases hc : (Value.parseBytes? body).bind CancelOrder.ofJson? with
  | none => exact .inl ⟨.noCancellation hq hc, rfl, g.hub.metrics, rfl⟩
  | some c =>
    simp only [cancel]
    cases hid : c.venueId? with
    | none => exact .inl ⟨.noNumber hq hc hid, rfl, _, rfl⟩
    | some id =>
      right
      obtain ⟨logins, orders, hdone⟩ := exists_carriedOut
        ⟨.orderCanceled c.orderId, Operation.cancelOrder,
          (CancelRequest.onAccount g.account id).toJson⟩
        (madeKnown_publish g c.orderId) rfl rfl rfl
      refine ⟨_, logins, orders, .cancellation hq hc hid, ?_⟩
      simp only [countSent_snd]
      exact hdone.countSent _

/-- Every message is rejected without a trace, or carried out. -/
theorem handle_cases (g : Gateway) (queue : String) (body : List UInt8) :
    (Unusable g queue body ∧ (g.handle queue body).2 = .reject ∧
      Untouched g (g.handle queue body).1) ∨
    ∃ errand logins orders, Asks g queue body errand ∧
      CarriedOut g (g.handle queue body).1 errand logins orders (g.handle queue body).2 := by
  by_cases hs : queue = submissionQueue g.provider
  · exact handle_submission g hs body
  · by_cases hc : queue = cancellationQueue g.provider
    · exact handle_cancellation g hc body
    · have hr : g.handle queue body = (g, .reject) := by rw [handle, if_neg hs, if_neg hc]
      rw [hr]
      exact .inl ⟨.strangeQueue hs hc, rfl, g.hub.metrics, rfl⟩

/-- The settlement of a message says what was done for it. It is rejected where it asks for nothing
that can be done, and then nothing was; otherwise its event was made known before anything was sent,
a login went out where there is one and the link took it, and the message is done with or put back
as its request went out or not. -/
theorem settlement_agrees_with_effects (g : Gateway) (queue : String) (body : List UInt8) :
    let r := g.handle queue body
    (Unusable g queue body ∧ r.2 = .reject ∧ Untouched g r.1) ∨
    (¬ Unusable g queue body ∧ r.2 ≠ .reject ∧ ∃ errand logins orders,
      Asks g queue body errand ∧ CarriedOut g r.1 errand logins orders r.2 ∧
      let l := g.link
      let l' := l.behind g.session.loginRequest?
      (logins ≠ [] ↔ ∃ q n, g.session.loginRequest? = some q ∧
        (l.send Operation.authenticate q.toJson.wire).2 = .ok n) ∧
      (r.2 = .ack ↔ orders = [l'.nextFrame errand.operation errand.payload.wire]) ∧
      (r.2 = .requeue ↔ (∃ q e, g.session.loginRequest? = some q ∧
          (l.send Operation.authenticate q.toJson.wire).2 = .error e) ∨
        ∃ e, (l'.send errand.operation errand.payload.wire).2 = .error e)) := by
  intro r
  rcases handle_cases g queue body with hrejected | ⟨errand, logins, orders, hasks, hdone⟩
  · exact .inl hrejected
  · right
    have hfares := hdone.fares
    exact ⟨not_unusable_of_asks hasks, hfares.ne_reject, errand, logins, orders, hasks, hdone,
      hfares.logins_ne_nil_iff, hfares.ack_iff, hfares.requeue_iff⟩

end Gateway

end VenueGateway
