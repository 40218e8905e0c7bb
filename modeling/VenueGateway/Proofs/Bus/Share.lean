import Mathlib.Data.List.Nodup
import VenueGateway.Proofs.Bus.Posting

/-!
What publications do for one subscription. Its share of them tells which events were offered to it,
which of these missed it because its queue held as many as it may, and which its queue accepted. A
bus is in service while all its dispatchers run and no queue is longer than it may be; a publication
keeps it so.
-/

namespace VenueGateway

/-- The events that were offered to a subscription, those that missed it, and those that its queue
accepted. -/
@[ext]
structure Share where
  offered : List Event := []
  missed : List Event := []
  accepted : List Event := []
  deriving DecidableEq, Repr

namespace Share

instance : Append Share :=
  ⟨fun s s' => ⟨s.offered ++ s'.offered, s.missed ++ s'.missed, s.accepted ++ s'.accepted⟩⟩

@[simp] theorem offered_append (s s' : Share) : (s ++ s').offered = s.offered ++ s'.offered := rfl
@[simp] theorem missed_append (s s' : Share) : (s ++ s').missed = s.missed ++ s'.missed := rfl
@[simp] theorem accepted_append (s s' : Share) : (s ++ s').accepted = s.accepted ++ s'.accepted :=
  rfl

theorem append_empty (s : Share) : s ++ ({} : Share) = s :=
  Share.ext (List.append_nil _) (List.append_nil _) (List.append_nil _)

theorem append_assoc (s s' s'' : Share) : s ++ s' ++ s'' = s ++ (s' ++ s'') :=
  Share.ext (List.append_assoc ..) (List.append_assoc ..) (List.append_assoc ..)

/-- Every event that was offered was accepted or missed, and none was both. -/
def Settled (s : Share) : Prop := (s.accepted ++ s.missed).Perm s.offered

theorem Settled.append {s s' : Share} (h : s.Settled) (h' : s'.Settled) : (s ++ s').Settled := by
  rw [Settled, List.perm_iff_count] at *
  intro e
  have he := h e
  have he' := h' e
  simp only [List.count_append, accepted_append, missed_append, offered_append] at he he' ⊢
  omega

end Share

namespace Bus

variable {H : Type} {b : Bus H}

/-- Whether the subscription at a place wants events of a kind. -/
def wantedAt (b : Bus H) (i : Nat) (kind : EventKind) : Bool :=
  b.subscriptions[i]?.any (·.wants kind)

/-- What a publication that does not wait does for the subscription at a place. -/
def share (b : Bus H) (i : Nat) (e : Event) : Share :=
  if b.wantedAt i e.kind then
    if (b.queue i).length < b.capacity then { offered := [e], accepted := [e] }
    else { offered := [e], missed := [e] }
  else {}

def shareAll (b : Bus H) (i : Nat) : List Event → Share
  | [] => {}
  | e :: es => b.share i e ++ (b.post e).1.shareAll i es

/-- Every dispatcher runs, and no queue is longer than it may be. -/
structure InService (b : Bus H) : Prop where
  dispatching : ∀ s ∈ b.subscriptions, s.dispatching = true
  bounded : ∀ s ∈ b.subscriptions, s.queue.length ≤ b.capacity
  lasting : b.stopping = false

theorem shareAll_singleton (b : Bus H) (i : Nat) (e : Event) : b.shareAll i [e] = b.share i e :=
  Share.append_empty _

theorem inService_new (capacity : Nat) : (new capacity : Bus H).InService := ⟨nofun, nofun, rfl⟩

/-- One subscription may be replaced by another whose dispatcher runs and whose queue is not too
long. -/
theorem InService.set (h : b.InService) (i : Nat) {s : Subscription H} (hd : s.dispatching = true)
    (hq : s.queue.length ≤ b.capacity) :
    ({ b with subscriptions := b.subscriptions.set i s } : Bus H).InService := by
  refine ⟨?_, ?_, h.lasting⟩
  · intro s' hs'
    rcases List.mem_or_eq_of_mem_set hs' with hmem | rfl
    · exact h.dispatching s' hmem
    · exact hd
  · intro s' hs'
    rcases List.mem_or_eq_of_mem_set hs' with hmem | rfl
    · exact h.bounded s' hmem
    · exact hq

theorem offer_fst_eq (b : Bus H) (i : Nat) (e : Event) :
    (b.offer i e).1 = { b with subscriptions := (b.offer i e).1.subscriptions } := by
  unfold offer
  split <;> rfl

theorem offerAll_fst_eq (b : Bus H) (e : Event) (is : List Nat) :
    (b.offerAll e is).1 = { b with subscriptions := (b.offerAll e is).1.subscriptions } := by
  induction is generalizing b with
  | nil => rfl
  | cons i is ih =>
    have hrest : (b.offerAll e (i :: is)).1 = ((b.offer i e).1.offerAll e is).1 := by
      simp only [offerAll]
      split <;> rfl
    have hoffer := b.offer_fst_eq i e
    rw [hrest, ih]
    generalize (b.offer i e).1 = b' at hoffer
    rw [hoffer]

/-- A publication is received by every subscription on its own. -/
theorem post_fst_eq (b : Bus H) (e : Event) :
    (b.post e).1 =
      { b with subscriptions := b.subscriptions.map fun s => s.receive b.capacity e } := by
  have hsubs : (b.post e).1.subscriptions = b.subscriptions.map fun s =>
      s.receive b.capacity e := by
    refine List.ext_getElem? fun i => ?_
    rw [getElem?_post, List.getElem?_map]
  rw [← hsubs]
  exact b.offerAll_fst_eq e _

@[simp] theorem capacity_post (b : Bus H) (e : Event) :
    (b.post e).1.capacity = b.capacity := by rw [post_fst_eq]

@[simp] theorem length_subscriptions_post (b : Bus H) (e : Event) :
    (b.post e).1.subscriptions.length = b.subscriptions.length := by
      rw [post_fst_eq, List.length_map]

@[simp] theorem wantedAt_post (b : Bus H) (e : Event) (i : Nat) (kind : EventKind) :
    (b.post e).1.wantedAt i kind = b.wantedAt i kind := by
  rw [wantedAt, getElem?_post, wantedAt]
  cases b.subscriptions[i]? with
  | none => rfl
  | some s => simp [Subscription.wants]

theorem InService.post (h : b.InService) (e : Event) : (b.post e).1.InService := by
  rw [post_fst_eq]
  refine ⟨?_, ?_, h.lasting⟩
  · intro s hs
    obtain ⟨s, hmem, rfl⟩ := List.mem_map.mp hs
    rw [Subscription.dispatching_receive]
    exact h.dispatching s hmem
  · intro s hs
    obtain ⟨s, hmem, rfl⟩ := List.mem_map.mp hs
    have hbound := h.bounded s hmem
    rw [Subscription.queue_receive]
    split
    · next hroom => simpa using Nat.succ_le_of_lt hroom.2
    · simpa using hbound

theorem InService.postAll (h : b.InService) (es : List Event) : (b.postAll es).InService := by
  induction es generalizing b with
  | nil => exact h
  | cons e es ih => exact ih (h.post e)

@[simp] theorem capacity_postAll (b : Bus H) (es : List Event) :
    (b.postAll es).capacity = b.capacity := by
  induction es generalizing b with
  | nil => rfl
  | cons e es ih => rw [postAll_cons, ih, capacity_post]

@[simp] theorem length_subscriptions_postAll (b : Bus H) (es : List Event) :
    (b.postAll es).subscriptions.length = b.subscriptions.length := by
  induction es generalizing b with
  | nil => rfl
  | cons e es ih => rw [postAll_cons, ih, length_subscriptions_post]

@[simp] theorem wantedAt_postAll (b : Bus H) (es : List Event) (i : Nat) (kind : EventKind) :
    (b.postAll es).wantedAt i kind = b.wantedAt i kind := by
  induction es generalizing b with
  | nil => rfl
  | cons e es ih => rw [postAll_cons, ih, wantedAt_post]

/-- In service, a queue takes an event where its subscription wants it and there is room. -/
theorem InService.admits_iff (h : b.InService) {i : Nat} {e : Event} :
    b.admits i e ↔ b.wantedAt i e.kind = true ∧ (b.queue i).length < b.capacity := by
  rw [admits, wantedAt, queue]
  cases hs : b.subscriptions[i]? with
  | none => simp
  | some s => simp [Subscription.listens, h.dispatching s (List.mem_of_getElem? hs)]

theorem InService.queue_post (h : b.InService) (i : Nat) (e : Event) :
    (b.post e).1.queue i = b.queue i ++ (b.share i e).accepted := by
  by_cases ha : b.admits i e
  · obtain ⟨hw, hroom⟩ := h.admits_iff.mp ha
    rw [queue_post_of_admits ha, share, if_pos hw, if_pos hroom]
  · rw [queue_post_of_not_admits ha, share]
    have hnot := mt h.admits_iff.mpr ha
    split
    · next hw => simp [show ¬ (b.queue i).length < b.capacity from fun hroom => hnot ⟨hw, hroom⟩]
    · simp

theorem InService.queue_postAll (h : b.InService) (i : Nat) (es : List Event) :
    (b.postAll es).queue i = b.queue i ++ (b.shareAll i es).accepted := by
  induction es generalizing b with
  | nil => simp [shareAll]
  | cons e es ih =>
    rw [postAll_cons, ih (h.post e), h.queue_post, shareAll, Share.accepted_append,
    List.append_assoc]

theorem settled_share (b : Bus H) (i : Nat) (e : Event) : (b.share i e).Settled := by
  unfold share
  split
  · split <;> simp [Share.Settled]
  · simp [Share.Settled]

theorem settled_shareAll (b : Bus H) (i : Nat) (es : List Event) : (b.shareAll i es).Settled := by
  induction es generalizing b with
  | nil => exact .refl _
  | cons e es ih => exact (b.settled_share i e).append (ih _)

/-- Nothing is offered to a subscription that does not want it. -/
theorem offered_shareAll_of_unwanted {i : Nat} (h : ∀ kind, b.wantedAt i kind = false)
    (es : List Event) :
    (b.shareAll i es).offered = [] := by
  induction es generalizing b with
  | nil => rfl
  | cons e es ih =>
    have hrest := ih (b := (b.post e).1) fun kind => by rw [wantedAt_post, h]
    simp [shareAll, share, h, hrest]

/-- Where nobody was told to stop, no dispatcher does. -/
theorem InService.halt_eq (h : b.InService) (i : Nat) : b.halt i = b := by
  simp only [halt, h.lasting]
  split <;> rfl

theorem InService.length_queue_le (h : b.InService) (i : Nat) :
    (b.queue i).length ≤ b.capacity := by
  rw [queue]
  cases hs : b.subscriptions[i]? with
  | none => simp
  | some s => exact h.bounded s (List.mem_of_getElem? hs)

/-- In service, a dispatcher can take an event wherever one waits. -/
theorem InService.take?_isSome_iff (h : b.InService) {i : Nat} :
    (b.take? i).isSome = true ↔ b.queue i ≠ [] := by
  rw [take?, queue]
  cases hs : b.subscriptions[i]? with
  | none => simp
  | some s =>
    have hd := h.dispatching s (List.mem_of_getElem? hs)
    cases hq : s.queue <;> simp [hd, hq]

theorem InService.take? (h : b.InService) {i : Nat} {handler : H} {e : Event} {b' : Bus H}
    (ht : b.take? i = some (handler, e, b')) : b'.InService := by
  obtain ⟨s, rest, hs, -, hd, hq, rfl⟩ := take?_eq_some ht
  have hbound := h.bounded s (List.mem_of_getElem? hs)
  rw [hq, List.length_cons] at hbound
  exact h.set i hd (Nat.le_of_succ_le hbound)

theorem length_subscriptions_take? {i : Nat} {handler : H} {e : Event} {b' : Bus H}
    (ht : b.take? i = some (handler, e, b')) :
    b'.subscriptions.length = b.subscriptions.length := by
  obtain ⟨s, rest, -, -, -, -, rfl⟩ := take?_eq_some ht
  exact List.length_set

theorem wantedAt_take? {i j : Nat} {handler : H} {e : Event} {b' : Bus H}
    (ht : b.take? i = some (handler, e, b')) (kind : EventKind) :
    b'.wantedAt j kind = b.wantedAt j kind := by
  obtain ⟨s, rest, hs, -, -, -, rfl⟩ := take?_eq_some ht
  obtain ⟨hlt, rfl⟩ := List.getElem?_eq_some_iff.mp hs
  by_cases hij : i = j
  · subst hij
    simp [wantedAt, hlt, Subscription.wants]
  · simp [wantedAt, hij]

/-- An offer makes a queue longer just where the event is accepted. -/
theorem queue_offer (b : Bus H) (i j : Nat) (e : Event) :
    (b.offer j e).1.queue i = b.queue i ++ if i = j ∧ (b.offer j e).2 = .accepted then [e]
      else [] := by
  have hsnd := b.offer_snd j e
  rw [queue, getElem?_offer, queue]
  by_cases hij : i = j
  · subst hij
    cases hs : b.subscriptions[i]? with
    | none => simp [hsnd, hs]
    | some s =>
      by_cases hd : s.dispatching = true
      · by_cases hq : s.queue.length < b.capacity <;> simp [hsnd, hs, Subscription.offer, hd, hq]
      · simp [hsnd, hs, Subscription.offer, hd]
  · simp [hij, Ne.symm hij]

/-- In service, an offer to a subscription that exists is accepted where there is room. -/
theorem InService.offer_snd (h : b.InService) {j : Nat} (hj : j < b.subscriptions.length)
    (e : Event) :
    (b.offer j e).2 = if (b.queue j).length < b.capacity then .accepted else .full := by
  have hs : b.subscriptions[j]? = some b.subscriptions[j] := List.getElem?_eq_getElem hj
  have hd := h.dispatching _ (List.getElem_mem hj)
  rw [Bus.offer_snd, queue, hs]
  simp only [Option.map_some, Option.getD_some, Subscription.offer, hd, if_true]
  split <;> rfl

theorem InService.offer (h : b.InService) (j : Nat) (e : Event) : (b.offer j e).1.InService := by
  unfold Bus.offer
  split
  · next s hs =>
    have hmem := List.mem_of_getElem? hs
    have hd := h.dispatching s hmem
    have hbound := h.bounded s hmem
    simp only [Subscription.offer, hd, if_true]
    split
    · next hroom => exact h.set j rfl (by simpa using Nat.succ_le_of_lt hroom)
    · exact h.set j hd hbound
  · exact h

@[simp] theorem length_subscriptions_offer (b : Bus H) (j : Nat) (e : Event) :
    (b.offer j e).1.subscriptions.length = b.subscriptions.length := by
  unfold offer
  split
  · exact List.length_set
  · rfl

@[simp] theorem wantedAt_offer (b : Bus H) (i j : Nat) (e : Event) (kind : EventKind) :
    (b.offer j e).1.wantedAt i kind = b.wantedAt i kind := by
  rw [wantedAt, getElem?_offer, wantedAt]
  by_cases hij : j = i
  · subst hij
    cases hs : b.subscriptions[j]? with
    | none => simp
    | some s =>
      simp only [if_true, Option.map_some, Option.any_some, Subscription.wants, Subscription.offer]
      split
      · split <;> rfl
      · rfl
  · rw [if_neg hij]

theorem count_recipients (b : Bus H) (i : Nat) (kind : EventKind) :
    (b.recipients kind).count i = if b.wantedAt i kind then 1 else 0 := by
  have hmem : i ∈ b.recipients kind ↔ b.wantedAt i kind = true := by
    rw [mem_recipients, wantedAt, Option.any_eq_true]
  split
  · next hw => exact List.count_eq_one_of_mem (b.nodup_recipients kind) (hmem.mpr hw)
  · next hw => exact List.count_eq_zero.mpr (mt hmem.mp hw)

theorem InService.subscribe (h : b.InService) (kind : EventKind) (handler : H) :
    (b.subscribe kind handler).1.InService := by
  refine ⟨?_, ?_, h.lasting⟩
  · intro s hs
    rcases List.mem_append.mp hs with hmem | hmem
    · exact h.dispatching s hmem
    · rw [List.mem_singleton.mp hmem]
  · intro s hs
    rcases List.mem_append.mp hs with hmem | hmem
    · exact h.bounded s hmem
    · rw [List.mem_singleton.mp hmem]
      exact Nat.zero_le _

theorem queue_subscribe (b : Bus H) (kind : EventKind) (handler : H) (i : Nat) :
    (b.subscribe kind handler).1.queue i = b.queue i := by
  rw [queue, queue, Bus.subscribe]
  rcases Nat.lt_trichotomy i b.subscriptions.length with hlt | rfl | hgt
  · rw [List.getElem?_append_left hlt]
  · simp
  · rw [List.getElem?_eq_none (by simpa using Nat.succ_le_of_lt hgt),
      List.getElem?_eq_none (by omega)]

/-- A subscription ends without any change to its queue, to its dispatcher or to other
subscriptions. -/
theorem getElem?_unsubscribe (b : Bus H) (i j : Nat) :
    (b.unsubscribe i).1.subscriptions[j]? =
      (b.subscriptions[j]?).map fun s => if i = j then { s with subscribed := false } else s := by
  by_cases hij : i = j
  · subst hij
    unfold unsubscribe
    split
    · next s hs =>
      obtain ⟨hlt, rfl⟩ := List.getElem?_eq_some_iff.mp hs
      split
      · simp [hlt]
      · next hended =>
        simp only [Bool.not_eq_true] at hended
        simp [hs, ← hended]
    · next hs => simp [hs]
  · unfold unsubscribe
    split
    · split <;> simp [hij]
    · simp [hij]

theorem InService.unsubscribe (h : b.InService) (i : Nat) : (b.unsubscribe i).1.InService := by
  unfold Bus.unsubscribe
  split
  · next s hs =>
    have hmem := List.mem_of_getElem? hs
    split
    · exact h.set i (h.dispatching s hmem) (h.bounded s hmem)
    · exact h
  · exact h

theorem queue_unsubscribe (b : Bus H) (i j : Nat) : (b.unsubscribe i).1.queue j = b.queue j := by
  rw [queue, queue, getElem?_unsubscribe]
  cases b.subscriptions[j]? with
  | none => rfl
  | some s =>
    simp only [Option.map_some, Option.getD_some]
    split <;> rfl

theorem length_subscriptions_unsubscribe (b : Bus H) (i : Nat) :
    (b.unsubscribe i).1.subscriptions.length = b.subscriptions.length := by
  unfold unsubscribe
  split
  · split
    · exact List.length_set
    · rfl
  · rfl

theorem wantedAt_unsubscribe (b : Bus H) (i j : Nat) (kind : EventKind) :
    (b.unsubscribe i).1.wantedAt j kind = (b.wantedAt j kind && i != j) := by
  rw [wantedAt, wantedAt, getElem?_unsubscribe]
  cases b.subscriptions[j]? with
  | none => rfl
  | some s => by_cases hij : i = j <;> simp [hij, Subscription.wants]

/-- There is a subscription at a place, and it has ended. -/
def Ended (b : Bus H) (i : Nat) : Prop :=
  i < b.subscriptions.length ∧ ∀ kind, b.wantedAt i kind = false

theorem ended_unsubscribe {i : Nat} (h : i < b.subscriptions.length) :
    (b.unsubscribe i).1.Ended i :=
  ⟨by rwa [length_subscriptions_unsubscribe], fun kind => by simp [wantedAt_unsubscribe]⟩

/-- What has ended does not begin again when others subscribe. -/
theorem Ended.subscribe {i : Nat} (h : b.Ended i) (kind : EventKind) (handler : H) :
    (b.subscribe kind handler).1.Ended i := by
  refine ⟨?_, fun kind' => ?_⟩
  · simpa [Bus.subscribe] using Nat.lt_succ_of_lt h.1
  · have hold : (b.subscribe kind handler).1.subscriptions[i]? = b.subscriptions[i]? :=
      List.getElem?_append_left h.1
    rw [wantedAt, hold]
    exact h.2 kind'

theorem Ended.unsubscribe {i : Nat} (h : b.Ended i) (j : Nat) : (b.unsubscribe j).1.Ended i :=
  ⟨by rw [length_subscriptions_unsubscribe]; exact h.1,
    fun kind => by simp [wantedAt_unsubscribe, h.2]⟩

theorem Ended.postAll {i : Nat} (h : b.Ended i) (es : List Event) : (b.postAll es).Ended i :=
  ⟨by rw [length_subscriptions_postAll]; exact h.1, fun kind => by rw [wantedAt_postAll, h.2]⟩

theorem Ended.offer {i : Nat} (h : b.Ended i) (j : Nat) (e : Event) : (b.offer j e).1.Ended i :=
  ⟨by rw [length_subscriptions_offer]; exact h.1, fun kind => by rw [wantedAt_offer, h.2]⟩

theorem Ended.take? {i j : Nat} (h : b.Ended i) {handler : H} {e : Event} {b' : Bus H}
    (ht : b.take? j = some (handler, e, b')) : b'.Ended i :=
  ⟨by rw [length_subscriptions_take? ht]; exact h.1, fun kind => by rw [wantedAt_take? ht, h.2]⟩

/-- A dispatcher that stops ends no subscription. -/
theorem wantedAt_halt (b : Bus H) (i j : Nat) (kind : EventKind) :
    (b.halt j).wantedAt i kind = b.wantedAt i kind := by
  unfold halt
  split
  · next s hs =>
    obtain ⟨hlt, rfl⟩ := List.getElem?_eq_some_iff.mp hs
    split
    · by_cases hij : j = i
      · subst hij
        simp [wantedAt, hlt, Subscription.wants]
      · simp [wantedAt, hij]
    · rfl
  · rfl

theorem length_subscriptions_halt (b : Bus H) (j : Nat) :
    (b.halt j).subscriptions.length = b.subscriptions.length := by
  unfold halt
  split
  · split
    · exact List.length_set
    · rfl
  · rfl

theorem Ended.halt {i : Nat} (h : b.Ended i) (j : Nat) : (b.halt j).Ended i :=
  ⟨by rw [length_subscriptions_halt]; exact h.1, fun kind => by rw [wantedAt_halt, h.2]⟩

/-- A shutdown ends whatever has not ended before. -/
theorem ended_shutdown {i : Nat} (h : i < b.subscriptions.length) : b.shutdown.Ended i :=
  ⟨by simpa [shutdown] using h, fun kind => by simp [wantedAt, shutdown, h, Subscription.wants]⟩

end Bus

end VenueGateway
