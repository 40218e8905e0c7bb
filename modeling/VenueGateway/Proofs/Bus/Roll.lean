import VenueGateway.Proofs.Bus.Totals

/-!
The subscriptions of a bus that have not ended. A bus keeps a seat for each subscription that was
ever made, and the seats that are still taken, with their places as names, are its roll. A new
subscription goes to the end of the roll, one that ends leaves it without moving another, and a
shutdown empties it; publications and dispatchers change nothing there. Whom an event goes to, how
many they are and how many there are in all is read off the roll.
-/

namespace VenueGateway

/-- A subscription that has not ended, under the name that its subscriber was told. -/
structure Standing (H : Type) where
  name : Nat
  kind : EventKind
  handler : H

/-- What a subscription is to, and who handles it, unless it has ended. -/
def Subscription.seat {H : Type} (s : Subscription H) : Option (EventKind × H) :=
  if s.subscribed then some (s.kind, s.handler) else none

namespace Standing

variable {H : Type}

/-- Those who sit in a row of seats, of which the first has the given name. -/
def inSeats (first : Nat) : List (Option (EventKind × H)) → List (Standing H)
  | [] => []
  | seat :: seats => (seat.map fun p => ⟨first, p.1, p.2⟩).toList ++ inSeats (first + 1) seats

/-- Who sits in a row of seats is found at the place of the name. -/
theorem mem_inSeats {first : Nat} {seats : List (Option (EventKind × H))} {s : Standing H} :
    s ∈ inSeats first seats ↔ ∃ i, s.name = first + i ∧ seats[i]? =
      some (some (s.kind, s.handler)) := by
  induction seats generalizing first with
  | nil => simp [inSeats]
  | cons seat seats ih =>
    have hhere : s ∈ (seat.map fun p => (⟨first, p.1, p.2⟩ : Standing H)).toList ↔
        s.name = first ∧ seat = some (s.kind, s.handler) := by
      cases s
      cases seat <;> simp [Prod.ext_iff]
      tauto
    rw [inSeats, List.mem_append, hhere, ih]
    constructor
    · rintro (⟨hname, rfl⟩ | ⟨i, hname, hseat⟩)
      · exact ⟨0, hname, rfl⟩
      · exact ⟨i + 1, by omega, hseat⟩
    · rintro ⟨i, hname, hseat⟩
      cases i with
      | zero => exact .inl ⟨hname, Option.some.inj hseat⟩
      | succ i => exact .inr ⟨i, by omega, hseat⟩

theorem le_name {first : Nat} {seats : List (Option (EventKind × H))} {s : Standing H}
    (h : s ∈ inSeats first seats) :
    first ≤ s.name := by
  obtain ⟨i, hname, -⟩ := mem_inSeats.mp h
  omega

/-- Later seats have higher names. -/
theorem pairwise_inSeats (first : Nat) (seats : List (Option (EventKind × H))) :
    (inSeats first seats).Pairwise fun s s' => s.name < s'.name := by
  induction seats generalizing first with
  | nil => exact List.Pairwise.nil
  | cons seat seats ih =>
    rw [inSeats, List.pairwise_append]
    refine ⟨by cases seat <;> simp, ih (first + 1), fun s hs s' hs' => ?_⟩
    obtain ⟨p, -, rfl⟩ := Option.map_eq_some_iff.mp (Option.mem_toList.mp hs)
    exact le_name hs'

/-- Who takes a new seat takes the last. -/
theorem inSeats_concat (first : Nat) (seats : List (Option (EventKind × H))) (kind : EventKind)
    (handler : H) :
    inSeats first (seats ++ [some (kind, handler)]) =
      inSeats first seats ++ [⟨first + seats.length, kind, handler⟩] := by
  induction seats generalizing first with
  | nil => rfl
  | cons seat seats ih =>
    rw [List.cons_append, inSeats, ih, inSeats, List.append_assoc, List.length_cons,
      Nat.add_right_comm, Nat.add_assoc first]

/-- Who gives up a seat leaves the others where they are. -/
theorem inSeats_set_none (first i : Nat) (seats : List (Option (EventKind × H))) :
    inSeats first (seats.set i none) = (inSeats first seats).filter fun s => s.name ≠
      first + i := by
  induction seats generalizing first i with
  | nil => rfl
  | cons seat seats ih =>
    cases i with
    | zero =>
      -- Those behind the first seat have other names.
      have hothers : (inSeats (first + 1) seats).filter (fun s => s.name ≠ first + 0) =
          inSeats (first + 1) seats := by
        refine List.filter_eq_self.mpr fun s hs => ?_
        have hle := le_name hs
        simp only [ne_eq, decide_eq_true_eq]
        omega
      rw [List.set_cons_zero, inSeats, inSeats, List.filter_append, hothers]
      cases seat <;> simp
    | succ i =>
      rw [List.set_cons_succ, inSeats, inSeats, List.filter_append, ih,
        Nat.add_right_comm, Nat.add_assoc]
      cases seat <;> simp

theorem inSeats_map_none {α : Type} (first : Nat) (seats : List α) :
    inSeats first (seats.map fun _ => (none : Option (EventKind × H))) = [] := by
  induction seats generalizing first with
  | nil => rfl
  | cons seat seats ih => exact ih (first + 1)

/-- The names of those who want a kind of events are the places of their seats. -/
theorem map_name_inSeats (first : Nat) (seats : List (Option (EventKind × H))) (kind : EventKind) :
    ((inSeats first seats).filter fun s => s.kind = kind).map (·.name) =
      ((List.range seats.length).filter fun i => seats[i]?.join.any (·.1 = kind)).map
        (first + ·) := by
  induction seats generalizing first with
  | nil => rfl
  | cons seat seats ih =>
    have hshift : ((List.range seats.length).map Nat.succ).filter (fun i =>
        (seat :: seats)[i]?.join.any (·.1 = kind)) =
        ((List.range seats.length).filter fun i =>
          seats[i]?.join.any (·.1 = kind)).map Nat.succ := by
      rw [List.filter_map]
      simp [Function.comp_def]
    have hnames : (first + 1 + ·) = (first + ·) ∘ Nat.succ := funext fun i => by
      simp only [Function.comp_apply]; omega
    rw [inSeats, List.filter_append, List.map_append, ih, List.length_cons, List.range_succ_eq_map,
      List.filter_cons, hshift, hnames, ← List.map_map]
    cases seat with
    | none => simp
    | some p => by_cases hk : p.1 = kind <;> simp [hk]

/-- Those who want a kind of events are the subscriptions that do. -/
theorem map_handler_inSeats (first : Nat) (subscriptions : List (Subscription H))
    (kind : EventKind) :
    ((inSeats first (subscriptions.map Subscription.seat)).filter fun s =>
      s.kind = kind).map (·.handler) =
      (subscriptions.filter (·.wants kind)).map (·.handler) := by
  induction subscriptions generalizing first with
  | nil => rfl
  | cons s subscriptions ih =>
    rw [List.map_cons, inSeats, List.filter_append, List.map_append, ih, List.filter_cons]
    by_cases hs : s.subscribed = true
    · by_cases hk : s.kind = kind <;> simp [Subscription.seat, Subscription.wants, hs, hk]
    · simp [Subscription.seat, Subscription.wants, hs]

end Standing

namespace Bus

variable {H : Type} {b : Bus H}

/-- What a bus has for each subscription that was ever made. -/
def seats (b : Bus H) : List (Option (EventKind × H)) := b.subscriptions.map Subscription.seat

/-- The subscriptions that have not ended, in the order in which they were made. -/
def roll (b : Bus H) : List (Standing H) := Standing.inSeats 0 b.seats

/-- The names and handlers of those to whom an event is given. -/
def subscribers (b : Bus H) (kind : EventKind) : List (Nat × H) :=
  (b.recipients kind).zip (b.handlers kind)

theorem length_seats (b : Bus H) : b.seats.length = b.subscriptions.length := List.length_map _

theorem wantedAt_eq (b : Bus H) (i : Nat) (kind : EventKind) :
    b.wantedAt i kind = b.seats[i]?.join.any (·.1 = kind) := by
  rw [wantedAt, seats, List.getElem?_map]
  cases b.subscriptions[i]? with
  | none => rfl
  | some s =>
    by_cases hs : s.subscribed = true
    <;> simp [Subscription.seat, Subscription.wants, hs, beq_eq_decide]

theorem recipients_eq (b : Bus H) (kind : EventKind) :
    b.recipients kind = (b.roll.filter fun s => s.kind = kind).map (·.name) := by
  have hzero : ((0 : Nat) + ·) = id := funext Nat.zero_add
  rw [roll, Standing.map_name_inSeats, hzero, List.map_id, length_seats]
  simp only [← wantedAt_eq]
  rfl

theorem handlers_eq (b : Bus H) (kind : EventKind) :
    b.handlers kind = (b.roll.filter fun s => s.kind = kind).map (·.handler) :=
  (Standing.map_handler_inSeats 0 b.subscriptions kind).symm

theorem subscribers_eq (b : Bus H) (kind : EventKind) :
    b.subscribers kind = (b.roll.filter fun s => s.kind = kind).map fun s =>
      (s.name, s.handler) := by
  rw [subscribers, recipients_eq, handlers_eq, List.zip_map']

theorem map_fst_subscribers (b : Bus H) (kind : EventKind) :
    (b.subscribers kind).map (·.1) = b.recipients kind := by
  rw [subscribers_eq, recipients_eq, List.map_map]
  rfl

theorem map_snd_subscribers (b : Bus H) (kind : EventKind) :
    (b.subscribers kind).map (·.2) = b.handlers kind := by
  rw [subscribers_eq, handlers_eq, List.map_map]
  rfl

theorem pairwise_subscribers (b : Bus H) (kind : EventKind) :
    (b.subscribers kind).Pairwise fun s s' => s.1 < s'.1 := by
  rw [subscribers_eq, List.pairwise_map]
  exact (Standing.pairwise_inSeats 0 b.seats).filter _

/-- Every subscription is to one kind. -/
theorem subscribedCount_eq (b : Bus H) :
    b.subscribedCount = (EventKind.all.map b.audience).sum := by
  unfold subscribedCount audience
  induction b.subscriptions with
  | nil => rfl
  | cons s subscriptions ih =>
    have hone : (if s.subscribed = true then 1 else 0) =
        (EventKind.all.map fun kind => if s.wants kind then 1 else 0).sum := by
      by_cases hs : s.subscribed = true
      · cases hk : s.kind <;> simp [EventKind.all, Subscription.wants, hs, hk]
      · simp [EventKind.all, Subscription.wants, hs]
    simp only [List.countP_cons, List.sum_map_add, ih, hone]

section Seats

theorem seats_subscribe (b : Bus H) (kind : EventKind) (handler : H) :
    (b.subscribe kind handler).1.seats = b.seats ++ [some (kind, handler)] := by
  simp [seats, subscribe, Subscription.seat]

/-- Whoever leaves leaves an empty seat, and the names of the others stay theirs. -/
theorem seats_unsubscribe (b : Bus H) (i : Nat) :
    (b.unsubscribe i).1.seats = b.seats.set i none := by
  refine List.ext_getElem? fun j => ?_
  rw [seats, List.getElem?_map, getElem?_unsubscribe, List.getElem?_set, seats, List.getElem?_map,
    List.length_map]
  by_cases hij : i = j
  · subst hij
    cases hs : b.subscriptions[i]? with
    | none => simpa using hs
    | some s => simp [(List.getElem?_eq_some_iff.mp hs).1, Subscription.seat]
  · simp [hij]

/-- An answer tells whether there was a subscription to end. -/
theorem unsubscribe_snd (b : Bus H) (i : Nat) : (b.unsubscribe i).2 = b.seats[i]?.join.isSome := by
  rw [seats, List.getElem?_map, unsubscribe]
  cases b.subscriptions[i]? with
  | none => rfl
  | some s => by_cases hs : s.subscribed = true <;> simp [Subscription.seat, hs]

theorem unsubscribe_fst_of_snd {i : Nat} (h : (b.unsubscribe i).2 = false) :
    (b.unsubscribe i).1 = b := by
  unfold unsubscribe at h ⊢
  split at h
  · split at h
    · cases h
    · next hended => simp [hended]
  · simp

theorem seats_shutdown (b : Bus H) : b.shutdown.seats = b.seats.map fun _ => none := by
  simp [seats, shutdown, Subscription.seat, Function.comp_def]

theorem seats_post (b : Bus H) (e : Event) : (b.post e).1.seats = b.seats := by
  rw [post_fst_eq, seats, seats, List.map_map]
  exact List.map_congr_left fun s _ => by simp [Subscription.seat]

theorem seats_postAll (b : Bus H) (es : List Event) : (b.postAll es).seats = b.seats := by
  induction es generalizing b with
  | nil => rfl
  | cons e es ih => rw [postAll_cons, ih, seats_post]

/-- A change of one subscription that does not end it. -/
theorem seats_set {i : Nat} {s : Subscription H} (hs : b.subscriptions[i]? = some s)
    {s' : Subscription H} (h : s'.seat = s.seat) :
    ({ b with subscriptions := b.subscriptions.set i s' } : Bus H).seats = b.seats := by
  obtain ⟨hlt, rfl⟩ := List.getElem?_eq_some_iff.mp hs
  refine List.ext_getElem? fun j => ?_
  rw [seats, List.map_set, h, List.getElem?_set]
  by_cases hij : i = j
  · subst hij
    simp [seats, hlt]
  · simp [seats, hij]

theorem seats_offer (b : Bus H) (i : Nat) (e : Event) : (b.offer i e).1.seats = b.seats := by
  unfold offer
  split
  · next s hs =>
    refine seats_set hs ?_
    unfold Subscription.offer
    split
    · split <;> rfl
    · rfl
  · rfl

theorem seats_take? {i : Nat} {handler : H} {e : Event} {b' : Bus H}
    (ht : b.take? i = some (handler, e, b')) :
    b'.seats = b.seats := by
  obtain ⟨s, rest, hs, -, -, -, rfl⟩ := take?_eq_some ht
  exact seats_set hs rfl

theorem seats_halt (b : Bus H) (i : Nat) : (b.halt i).seats = b.seats := by
  unfold halt
  split
  · next s hs =>
    split
    · exact seats_set hs rfl
    · rfl
  · rfl

end Seats

section Roll

theorem mem_roll_iff {s : Standing H} :
    s ∈ b.roll ↔ b.seats[s.name]? = some (some (s.kind, s.handler)) := by
  rw [roll, Standing.mem_inSeats]
  constructor
  · rintro ⟨i, hname, hseat⟩
    rwa [hname, Nat.zero_add]
  · exact fun hseat => ⟨s.name, (Nat.zero_add _).symm, hseat⟩

theorem roll_subscribe (b : Bus H) (kind : EventKind) (handler : H) :
    (b.subscribe kind handler).1.roll = b.roll ++
      [⟨(b.subscribe kind handler).2, kind, handler⟩] := by
  rw [roll, seats_subscribe, Standing.inSeats_concat, Nat.zero_add, length_seats]
  rfl

theorem roll_unsubscribe (b : Bus H) (i : Nat) :
    (b.unsubscribe i).1.roll = b.roll.filter fun s => s.name ≠ i := by
  rw [roll, seats_unsubscribe, Standing.inSeats_set_none, Nat.zero_add, roll]

theorem roll_shutdown (b : Bus H) : b.shutdown.roll = [] := by
  rw [roll, seats_shutdown, Standing.inSeats_map_none]

theorem unsubscribe_snd_iff {i : Nat} :
    (b.unsubscribe i).2 = true ↔ ∃ kind handler, ⟨i, kind, handler⟩ ∈ b.roll := by
  rw [unsubscribe_snd, Option.isSome_iff_exists]
  constructor
  · rintro ⟨p, hp⟩
    exact ⟨p.1, p.2, mem_roll_iff.mpr (Option.join_eq_some_iff.mp hp)⟩
  · rintro ⟨kind, handler, hmem⟩
    exact ⟨(kind, handler), Option.join_eq_some_iff.mpr (mem_roll_iff.mp hmem)⟩

/-- Whoever unsubscribes leaves the lists of all kinds, and nobody else loses a place there. -/
theorem subscribers_unsubscribe (b : Bus H) (i : Nat) (kind : EventKind) :
    (b.unsubscribe i).1.subscribers kind = (b.subscribers kind).filter fun s => s.1 ≠ i := by
  rw [subscribers_eq, roll_unsubscribe, subscribers_eq, List.filter_map, List.filter_comm]
  rfl

/-- What has ended is behind every way to publish. -/
theorem Ended.not_mem_recipients {i : Nat} (h : b.Ended i) (kind : EventKind) :
    i ∉ b.recipients kind := by
  rw [mem_recipients]
  rintro ⟨s, hs, hwants⟩
  have hunwanted := h.2 kind
  rw [wantedAt, hs, Option.any_some, hwants] at hunwanted
  cases hunwanted

/-- A subscription that has ended is given nothing more. -/
theorem Ended.getElem?_post {i : Nat} (h : b.Ended i) (e : Event) :
    (b.post e).1.subscriptions[i]? = b.subscriptions[i]? := by
  rw [Bus.getElem?_post]
  have hunwanted := h.2 e.kind
  rw [wantedAt] at hunwanted
  cases hs : b.subscriptions[i]? with
  | none => rfl
  | some s =>
    rw [hs, Option.any_some] at hunwanted
    rw [Option.map_some,
      Subscription.receive_eq_self (by rw [Subscription.listens, hunwanted, Bool.false_and])]

end Roll

end Bus

end VenueGateway
