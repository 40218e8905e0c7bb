import VenueGateway.Bus.Basic

/-!
What a publication does to each subscription on its own. Offering an event to several queues touches
each of them once, so a publication is the same as letting every subscription receive the event by
itself: one that wants it and has room for it puts it behind what waits already, and nothing else
about it changes.
-/

namespace VenueGateway

namespace Subscription

variable {H : Type}

/-- Whether a subscription wants an event and its dispatcher still takes events. -/
def listens (s : Subscription H) (e : Event) : Bool := s.wants e.kind && s.dispatching

def receive (capacity : Nat) (s : Subscription H) (e : Event) : Subscription H :=
  if s.listens e ∧ s.queue.length < capacity then { s with queue := s.queue ++ [e] } else s

theorem receive_eq_offer {capacity : Nat} {s : Subscription H} {e : Event}
    (h : s.wants e.kind = true) :
    s.receive capacity e = (s.offer capacity e).1 := by
  by_cases hd : s.dispatching = true
  · by_cases hq : s.queue.length < capacity <;> simp [receive, offer, listens, h, hd, hq]
  · simp [receive, offer, listens, hd]

theorem receive_eq_self {capacity : Nat} {s : Subscription H} {e : Event}
    (h : s.listens e = false) :
    s.receive capacity e = s := by
  simp [receive, h]

theorem queue_receive (capacity : Nat) (s : Subscription H) (e : Event) :
    (s.receive capacity e).queue =
      s.queue ++ if s.listens e ∧ s.queue.length < capacity then [e] else [] := by
  unfold receive
  split <;> simp

@[simp] theorem kind_receive (capacity : Nat) (s : Subscription H) (e : Event) :
    (s.receive capacity e).kind = s.kind := by
  unfold receive
  split <;> rfl

@[simp] theorem handler_receive (capacity : Nat) (s : Subscription H) (e : Event) :
    (s.receive capacity e).handler = s.handler := by
  unfold receive
  split <;> rfl

@[simp] theorem subscribed_receive (capacity : Nat) (s : Subscription H) (e : Event) :
    (s.receive capacity e).subscribed = s.subscribed := by
  unfold receive
  split <;> rfl

@[simp] theorem dispatching_receive (capacity : Nat) (s : Subscription H) (e : Event) :
    (s.receive capacity e).dispatching = s.dispatching := by
  unfold receive
  split <;> rfl

end Subscription

namespace Bus

variable {H : Type}

@[simp] theorem capacity_offer (b : Bus H) (i : Nat) (e : Event) :
    (b.offer i e).1.capacity = b.capacity := by
  unfold offer
  split <;> rfl

/-- An offer is a matter of one subscription. -/
theorem getElem?_offer (b : Bus H) (i j : Nat) (e : Event) :
    (b.offer i e).1.subscriptions[j]? =
      if i = j then (b.subscriptions[j]?).map fun s => (s.offer b.capacity e).1
        else b.subscriptions[j]? := by
  unfold offer
  split
  · next s hs =>
    obtain ⟨hlt, rfl⟩ := List.getElem?_eq_some_iff.mp hs
    by_cases hij : i = j
    · subst hij
      simp [hlt]
    · simp [hij]
  · next hs =>
    by_cases hij : i = j
    · subst hij
      simp [hs]
    · simp [hij]

/-- What became of an offer depends on the one queue alone. -/
theorem offer_snd (b : Bus H) (i : Nat) (e : Event) :
    (b.offer i e).2 =
      ((b.subscriptions[i]?).map fun s => (s.offer b.capacity e).2).getD .closed := by
  unfold offer
  split
  · next s hs => simp [hs]
  · next hs => simp [hs]

@[simp] theorem capacity_offerAll (b : Bus H) (e : Event) (is : List Nat) :
    (b.offerAll e is).1.capacity = b.capacity := by
  induction is generalizing b with
  | nil => rfl
  | cons i is ih =>
    simp only [offerAll]
    split <;> simp [ih]

/-- Offers to several subscriptions are a matter of each on its own. -/
theorem getElem?_offerAll (b : Bus H) (e : Event) (is : List Nat) (hn : is.Nodup) (j : Nat) :
    (b.offerAll e is).1.subscriptions[j]? =
      if j ∈ is then (b.subscriptions[j]?).map fun s => (s.offer b.capacity e).1
        else b.subscriptions[j]? := by
  induction is generalizing b with
  | nil => rfl
  | cons i is ih =>
    obtain ⟨hi, hn⟩ := List.nodup_cons.mp hn
    have hrest : (b.offerAll e (i :: is)).1 = ((b.offer i e).1.offerAll e is).1 := by
      simp only [offerAll]
      split <;> rfl
    rw [hrest, ih (b.offer i e).1 hn, getElem?_offer, capacity_offer]
    by_cases hij : i = j
    · subst hij
      simp [hi]
    · simp [hij, Ne.symm hij]

/-- The two counts of a series of offers, to queues of which none is met twice. -/
theorem offerAll_counts (b : Bus H) (e : Event) (is : List Nat) (hn : is.Nodup) :
    (b.offerAll e is).2 =
      (is.countP fun i => (b.offer i e).2 == .accepted,
        is.countP fun i => (b.offer i e).2 == .full) := by
  induction is generalizing b with
  | nil => rfl
  | cons i is ih =>
    obtain ⟨hi, hn⟩ := List.nodup_cons.mp hn
    have hsame : ∀ j ∈ is, ((b.offer i e).1.offer j e).2 = (b.offer j e).2 := by
      intro j hj
      have hij : i ≠ j := fun h => hi (h ▸ hj)
      rw [offer_snd, offer_snd, getElem?_offer, if_neg hij, capacity_offer]
    have ih := ih (b.offer i e).1 hn
    rw [List.countP_congr fun j hj => by rw [hsame j hj],
      List.countP_congr (p := fun j => ((b.offer i e).1.offer j e).2 == .full) fun j hj => by
        rw [hsame j hj]] at ih
    simp only [offerAll, List.countP_cons]
    cases hr : (b.offer i e).2 <;> simp [ih]

theorem nodup_recipients (b : Bus H) (kind : EventKind) : (b.recipients kind).Nodup :=
  List.nodup_range.filter _

theorem mem_recipients {b : Bus H} {kind : EventKind} {i : Nat} :
    i ∈ b.recipients kind ↔ ∃ s, b.subscriptions[i]? = some s ∧ s.wants kind = true := by
  simp only [recipients, List.mem_filter, List.mem_range, Option.any_eq_true]
  constructor
  · exact fun h => h.2
  · rintro ⟨s, hs, hw⟩
    exact ⟨(List.getElem?_eq_some_iff.mp hs).1, s, hs, hw⟩

/-- A publication lets every subscription receive the event on its own. -/
theorem getElem?_post (b : Bus H) (e : Event) (i : Nat) :
    (b.post e).1.subscriptions[i]? = (b.subscriptions[i]?).map fun s => s.receive b.capacity e := by
  rw [post, getElem?_offerAll b e _ (b.nodup_recipients e.kind)]
  cases hs : b.subscriptions[i]? with
  | none => simp
  | some s =>
    by_cases hw : s.wants e.kind = true
    · have hi : i ∈ b.recipients e.kind := mem_recipients.mpr ⟨s, hs, hw⟩
      simp [hi, Subscription.receive_eq_offer hw]
    · have hi : i ∉ b.recipients e.kind := by
        rw [mem_recipients]
        rintro ⟨s', hs', hw'⟩
        rw [hs] at hs'
        exact hw (Option.some.inj hs' ▸ hw')
      have hl : s.listens e = false := by simp [Subscription.listens, hw]
      simp [hi, Subscription.receive_eq_self hl]

def postAll (b : Bus H) (es : List Event) : Bus H := es.foldl (fun b e => (b.post e).1) b

@[simp] theorem postAll_nil (b : Bus H) : b.postAll [] = b := rfl
@[simp] theorem postAll_cons (b : Bus H) (e : Event) (es : List Event) :
    b.postAll (e :: es) = (b.post e).1.postAll es := rfl

def queue (b : Bus H) (i : Nat) : List Event := ((b.subscriptions[i]?).map (·.queue)).getD []

theorem queue_eq_nil_of_pending {b : Bus H} (h : b.pending = 0) (i : Nat) : b.queue i = [] := by
  have hall : ∀ l : List (Subscription H), l.foldr (fun s n => s.queue.length + n) 0 = 0 →
      ∀ s ∈ l, s.queue = [] := by
    intro l
    induction l with
    | nil => simp
    | cons s l ih =>
      intro hl
      simp only [List.foldr_cons, Nat.add_eq_zero_iff, List.length_eq_zero_iff] at hl
      simpa [hl.1] using ih hl.2
  cases hs : b.subscriptions[i]? with
  | none => simp [queue, hs]
  | some s => simpa [queue, hs] using hall _ h s (List.mem_of_getElem? hs)

/-- Whether an event would be put into a queue now. -/
def admits (b : Bus H) (i : Nat) (e : Event) : Prop :=
  ∃ s, b.subscriptions[i]? = some s ∧ s.listens e = true ∧ s.queue.length < b.capacity

theorem queue_post_of_admits {b : Bus H} {i : Nat} {e : Event} (h : b.admits i e) :
    (b.post e).1.queue i = b.queue i ++ [e] := by
  obtain ⟨s, hs, hl, hq⟩ := h
  simp [queue, getElem?_post, hs, Subscription.queue_receive, hl, hq]

theorem queue_post_of_not_admits {b : Bus H} {i : Nat} {e : Event} (h : ¬ b.admits i e) :
    (b.post e).1.queue i = b.queue i := by
  cases hs : b.subscriptions[i]? with
  | none => simp [queue, getElem?_post, hs]
  | some s =>
    have hq : ¬ (s.listens e = true ∧ s.queue.length < b.capacity) := fun hq => h ⟨s, hs, hq⟩
    simp [queue, getElem?_post, hs, Subscription.queue_receive, hq]

/-- A handler listens at a place to a kind of events, and its dispatcher runs. -/
def Seated (b : Bus H) (i : Nat) (handler : H) (kind : EventKind) : Prop :=
  ∃ s, b.subscriptions[i]? = some s ∧ s.handler = handler ∧ s.kind = kind ∧ s.subscribed = true ∧
    s.dispatching = true

theorem Seated.post {b : Bus H} {i : Nat} {handler : H} {kind : EventKind}
    (h : b.Seated i handler kind) (e : Event) : (b.post e).1.Seated i handler kind := by
  obtain ⟨s, hs, hh, hk, hsub, hd⟩ := h
  have hs' : (b.post e).1.subscriptions[i]? = some (s.receive b.capacity e) := by
    simp [getElem?_post, hs]
  exact ⟨s.receive b.capacity e, hs', by simp [hh], by simp [hk], by simp [hsub], by simp [hd]⟩

/-- Where a handler listens, room in the queue is all that an event needs. -/
theorem Seated.admits_iff {b : Bus H} {i : Nat} {handler : H} {e : Event}
    (h : b.Seated i handler e.kind) :
    b.admits i e ↔ (b.queue i).length < b.capacity := by
  obtain ⟨s, hs, -, hk, hsub, hd⟩ := h
  have hl : s.listens e = true := by simp [Subscription.listens, Subscription.wants, hk, hsub, hd]
  constructor
  · rintro ⟨s', hs', -, hq⟩
    rw [hs] at hs'
    obtain rfl := Option.some.inj hs'
    simpa [queue, hs] using hq
  · intro hq
    exact ⟨s, hs, hl, by simpa [queue, hs] using hq⟩

/-- Where a handler listens and the queue is full, a publication drops an event. -/
theorem Seated.dropped_pos {b : Bus H} {i : Nat} {handler : H} {e : Event}
    (h : b.Seated i handler e.kind) (hfull : ¬ (b.queue i).length < b.capacity) :
    0 < (b.post e).2.2 := by
  obtain ⟨s, hs, -, hk, hsub, hd⟩ := h
  have hw : s.wants e.kind = true := by simp [Subscription.wants, hk, hsub]
  have hq : ¬ s.queue.length < b.capacity := by simpa [queue, hs] using hfull
  rw [Bus.post, offerAll_counts b e _ (b.nodup_recipients e.kind)]
  refine List.countP_pos_iff.mpr ⟨i, mem_recipients.mpr ⟨s, hs, hw⟩, ?_⟩
  simp [offer_snd, hs, Subscription.offer, hd, hq]

/-- A dispatcher takes the event that has waited longest, and no other queue changes. -/
theorem take?_eq_some {b b' : Bus H} {i : Nat} {handler : H} {e : Event}
    (h : b.take? i = some (handler, e, b')) :
    ∃ s rest, b.subscriptions[i]? = some s ∧ s.handler = handler ∧ s.dispatching = true ∧
    s.queue = e :: rest ∧
      b' = { b with subscriptions := b.subscriptions.set i { s with queue := rest } } := by
  unfold take? at h
  split at h
  · next s hs =>
    split at h
    · next e' rest hd hq =>
      simp only [Option.some.injEq, Prod.mk.injEq] at h
      obtain ⟨rfl, rfl, rfl⟩ := h
      exact ⟨s, rest, hs, rfl, hd, hq, rfl⟩
    · cases h
  · cases h

theorem capacity_take? {b b' : Bus H} {i : Nat} {handler : H} {e : Event}
    (h : b.take? i = some (handler, e, b')) : b'.capacity = b.capacity := by
  obtain ⟨s, rest, -, -, -, -, rfl⟩ := take?_eq_some h
  rfl

theorem queue_take? {b b' : Bus H} {i : Nat} {handler : H} {e : Event}
    (h : b.take? i = some (handler, e, b')) : b.queue i = e :: b'.queue i := by
  obtain ⟨s, rest, hs, -, -, hq, rfl⟩ := take?_eq_some h
  obtain ⟨hlt, rfl⟩ := List.getElem?_eq_some_iff.mp hs
  simp [queue, hlt, hq]

theorem queue_take?_ne {b b' : Bus H} {i j : Nat} {handler : H} {e : Event}
    (h : b.take? i = some (handler, e, b')) (hij : i ≠ j) : b'.queue j = b.queue j := by
  obtain ⟨s, rest, -, -, -, -, rfl⟩ := take?_eq_some h
  simp [queue, hij]

/-- A handler keeps its seat while another dispatcher works. -/
theorem Seated.take? {b b' : Bus H} {i j : Nat} {handler other : H} {kind : EventKind} {e : Event}
    (hj : b.Seated j handler kind) (h : b.take? i = some (other, e, b')) :
    b'.Seated j handler kind := by
  obtain ⟨s, rest, hs, -, -, -, rfl⟩ := take?_eq_some h
  obtain ⟨s', hs', hh, hk, hsub, hd⟩ := hj
  by_cases hij : i = j
  · subst hij
    rw [hs] at hs'
    obtain rfl := Option.some.inj hs'
    obtain ⟨hlt, -⟩ := List.getElem?_eq_some_iff.mp hs
    exact ⟨{ s with queue := rest }, by simp [hlt], hh, hk, hsub, hd⟩
  · exact ⟨s', by simpa [hij] using hs', hh, hk, hsub, hd⟩

end Bus

end VenueGateway
