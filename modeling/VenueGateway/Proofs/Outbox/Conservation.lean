import Mathlib.Data.List.Basic
import VenueGateway.Outbox

/-!
The books of the outbox. Handlers, the delivery task and the word to stop may come in any order.
What was offered to the sink and what is queued is what found room, in that order; and every message
that was to be sent is delivered, or has failed, or waits, or is in hand. Once the task was told to
stop it offers all that waits before it ends, and then nothing is left that could change but the
number of failures.
-/

namespace VenueGateway.Outbox

@[simp] theorem run_nil (o : Outbox) : o.run [] = o := rfl
@[simp] theorem run_cons (o : Outbox) (a : Action) (as : List Action) :
    o.run (a :: as) = (o.act a).run as := rfl
theorem run_append (o : Outbox) (as bs : List Action) :
    o.run (as ++ bs) = (o.run as).run bs := by simp [run]

def Action.message? : Action → Option PlatformMessage
  | .handle e => PlatformMessage.ofEvent? e
  | _ => none

def messages (as : List Action) : List PlatformMessage := as.filterMap Action.message?

/-- The message that finds room at an action, while messages are still taken in. -/
def admittedAt (o : Outbox) (a : Action) : List PlatformMessage :=
  if o.accepting ∧ o.queue.length < o.capacity then a.message?.toList else []

/-- The message that is offered to the sink at an action. -/
def offeredAt (o : Outbox) : Action → List PlatformMessage
  | .take => if o.delivering = none then o.take.delivering.toList else []
  | _ => []

theorem messages_cons (a : Action) (as : List Action) :
    messages (a :: as) = a.message?.toList ++ messages as :=
  List.filterMap_append (l := [a]) |>.trans
    (by simp [messages, List.filterMap_cons]; cases a.message? <;> rfl)

theorem admittedAt_of_none {a : Action} (h : a.message? = none) (o : Outbox) :
    o.admittedAt a = [] := by
  simp [admittedAt, h]

def admitted (o : Outbox) : List Action → List PlatformMessage
  | [] => []
  | a :: as => o.admittedAt a ++ admitted (o.act a) as

def offered (o : Outbox) : List Action → List PlatformMessage
  | [] => []
  | a :: as => o.offeredAt a ++ offered (o.act a) as

def unsettled (o : Outbox) : Nat := o.queue.length + o.delivering.toList.length

/-- The delivery task ends where the queue is closed, and nothing is left in it or in hand. -/
structure Ended (o : Outbox) : Prop where
  closed : o.accepting = false
  empty : o.queue = []
  idle : o.delivering = none

/-- How one state leads to another: what was offered and what is queued now is what was queued and
what found room, and of all that was to be sent each message is accounted for once. -/
structure Books (o o' : Outbox) (offered admitted : List PlatformMessage) (produced : Nat) :
    Prop where
  capacity : o'.capacity = o.capacity
  bounded : o.queue.length ≤ o.capacity → o'.queue.length ≤ o'.capacity
  queue : offered ++ o'.queue = o.queue ++ admitted
  counted : o'.delivered + o'.failed + o'.unsettled = o.delivered + o.failed +
    o.unsettled + produced

theorem Books.refl (o : Outbox) : Books o o [] [] 0 := ⟨rfl, id, by simp, rfl⟩

theorem Books.trans {o o' o'' : Outbox} {offered offered' admitted admitted' : List PlatformMessage}
    {m n : Nat} (h : Books o o' offered admitted m) (h' : Books o' o'' offered' admitted' n) :
    Books o o'' (offered ++ offered') (admitted ++ admitted') (m + n) where
  capacity := h'.capacity.trans h.capacity
  bounded := fun hb => h'.bounded (h.bounded hb)
  queue := by rw [List.append_assoc, h'.queue, ← List.append_assoc, h.queue, List.append_assoc]
  counted := by
    have hfirst := h.counted
    have hrest := h'.counted
    omega

/-- A message that is to be sent finds room, or has failed. -/
theorem books_handle (o : Outbox) (e : Event) :
    Books o (o.handle e) [] (o.admittedAt (.handle e))
      (PlatformMessage.ofEvent? e).toList.length := by
  cases hm : PlatformMessage.ofEvent? e with
  | none =>
    have hhandle : o.handle e = o := by simp [handle, hm]
    rw [hhandle, admittedAt_of_none (a := .handle e) hm]
    exact Books.refl o
  | some message =>
    have hhandle : o.handle e = o.enqueue message := by simp [handle, hm]
    rw [hhandle, enqueue]
    split
    · next hroom =>
      refine ⟨rfl, fun _ => ?_, by simp [admittedAt, Action.message?, hm, hroom], ?_⟩
      · rw [List.length_append]
        exact hroom.2
      · simp only [unsettled, List.length_append, Option.toList_some, List.length_cons,
          List.length_nil]
        omega
    · next hfull =>
      refine ⟨rfl, id, by simp [admittedAt, hfull], ?_⟩
      simp only [unsettled, Option.toList_some, List.length_cons, List.length_nil]
      omega

/-- The task takes a message from the head of the queue, where it has none in hand. -/
theorem books_take (o : Outbox) : Books o o.take (o.offeredAt .take) [] 0 := by
  cases hd : o.delivering with
  | some message =>
    have htake : o.take = o := by simp [take, hd]
    have hoffered : o.offeredAt .take = [] := by simp [offeredAt, hd]
    rw [htake, hoffered]
    exact Books.refl o
  | none =>
    cases hq : o.queue with
    | nil =>
      have htake : o.take = o := by simp [take, hd, hq]
      have hoffered : o.offeredAt .take = [] := by simp [offeredAt, htake, hd]
      rw [htake, hoffered]
      exact Books.refl o
    | cons message rest =>
      have htake : o.take = { o with queue := rest, delivering := some message } := by
        simp [take, hd, hq]
      have hoffered : o.offeredAt .take = [message] := by simp [offeredAt, htake, hd]
      rw [htake, hoffered]
      refine ⟨rfl, fun hb => ?_, by simp [hq], ?_⟩
      · rw [hq, List.length_cons] at hb
        exact Nat.le_of_succ_le hb
      · simp only [unsettled, hd, hq, List.length_cons, Option.toList_some, Option.toList_none,
          List.length_nil]
        omega

/-- An answer settles the message in hand, one way or the other. -/
theorem books_answer (o : Outbox) (accepted : Bool) : Books o (o.answer accepted) [] [] 0 := by
  cases hd : o.delivering with
  | none =>
    have hanswer : o.answer accepted = o := by simp [answer, hd]
    rw [hanswer]
    exact Books.refl o
  | some message =>
    rw [answer, hd]
    cases accepted with
    | true =>
      refine ⟨rfl, id, by simp, ?_⟩
      simp only [unsettled, hd, if_true, Option.toList_some, Option.toList_none, List.length_cons,
        List.length_nil]
      omega
    | false =>
      refine ⟨rfl, id, by simp, ?_⟩
      simp only [unsettled, hd, Bool.false_eq_true, if_false, Option.toList_some,
        Option.toList_none, List.length_cons, List.length_nil]
      omega

theorem books_cancel (o : Outbox) : Books o o.cancel [] [] 0 := ⟨rfl, id, by simp [cancel], rfl⟩

theorem books_close (o : Outbox) : Books o o.close [] [] 0 := by
  rw [close]
  split <;> exact ⟨rfl, id, by simp, rfl⟩

/-- The books are balanced at every action. -/
theorem books_act (o : Outbox) (a : Action) :
    Books o (o.act a) (o.offeredAt a) (o.admittedAt a) a.message?.toList.length := by
  cases a with
  | handle e => exact o.books_handle e
  | take =>
    rw [admittedAt_of_none rfl]
    exact o.books_take
  | answer accepted =>
    rw [admittedAt_of_none rfl]
    exact o.books_answer accepted
  | cancel =>
    rw [admittedAt_of_none rfl]
    exact o.books_cancel
  | close =>
    rw [admittedAt_of_none rfl]
    exact o.books_close

theorem books_run (o : Outbox) (as : List Action) :
    Books o (o.run as) (o.offered as) (o.admitted as) (messages as).length := by
  induction as generalizing o with
  | nil => exact Books.refl o
  | cons a as ih =>
    rw [messages_cons, List.length_append]
    exact (o.books_act a).trans (ih (o.act a))

theorem admitted_append (o : Outbox) (as bs : List Action) :
    o.admitted (as ++ bs) = o.admitted as ++ (o.run as).admitted bs := by
  induction as generalizing o with
  | nil => rfl
  | cons a as ih => rw [List.cons_append, admitted, ih, admitted, List.append_assoc, run_cons]

/-- Only the task closes the queue, and only when it was told to stop. -/
theorem accepting_act (o : Outbox) (a : Action) :
    (o.act a).accepting = (o.accepting && !(a = .close && o.cancelled)) := by
  cases a with
  | handle e =>
    simp only [act, handle]
    split
    · rw [enqueue]
      split <;> simp
    · simp
  | take =>
    simp only [act, take]
    split <;> simp
  | answer accepted =>
    simp only [act, answer]
    split
    · split <;> simp
    · simp
  | cancel => simp [act, cancel]
  | close =>
    simp only [act, close]
    split
    · next hc => simp [hc]
    · next hc => simp [hc]

/-- A delivery task that was told to stop is never told otherwise. -/
theorem cancelled_act (o : Outbox) (a : Action) :
    (o.act a).cancelled = (o.cancelled || a = .cancel) := by
  cases a with
  | handle e =>
    simp only [act, handle]
    split
    · rw [enqueue]
      split <;> simp
    · simp
  | take =>
    simp only [act, take]
    split <;> simp
  | answer accepted =>
    simp only [act, answer]
    split
    · split <;> simp
    · simp
  | cancel => simp [act, cancel]
  | close =>
    simp only [act, close]
    split <;> simp

theorem closed_run {o : Outbox} (h : o.accepting = false) (as : List Action) :
    (o.run as).accepting = false := by
  induction as generalizing o with
  | nil => exact h
  | cons a as ih => exact ih (by rw [accepting_act, h]; rfl)

/-- A queue that is closed was closed because the task was told to stop. -/
theorem cancelled_of_closed {o : Outbox} (h : o.accepting = false → o.cancelled = true)
    (as : List Action) (hc : (o.run as).accepting = false) : (o.run as).cancelled = true := by
  induction as generalizing o with
  | nil => exact h hc
  | cons a as ih =>
    refine ih (fun hclosed => ?_) hc
    rw [accepting_act] at hclosed
    rw [cancelled_act]
    cases ha : o.accepting with
    | false => simp [h ha]
    | true => simp_all

/-- Nothing finds room in a queue that is closed. -/
theorem admitted_of_closed {o : Outbox} (h : o.accepting = false) (as : List Action) :
    o.admitted as = [] := by
  induction as generalizing o with
  | nil => rfl
  | cons a as ih =>
    have hnext : (o.act a).accepting = false := by simp [accepting_act, h]
    simp [admitted, admittedAt, h, ih hnext]

/-- Where the task has ended, an action changes nothing but the number of failures. -/
theorem act_of_ended {o : Outbox} (h : o.Ended) (hc : o.cancelled = true) (a : Action) :
    o.act a = { o with failed := o.failed + a.message?.toList.length } := by
  obtain ⟨hclosed, hempty, hidle⟩ := h
  cases a with
  | handle e =>
    simp only [act, handle, Action.message?]
    cases PlatformMessage.ofEvent? e with
    | none => rfl
    | some message => simp [enqueue, hclosed]
  | take =>
    have htake : o.take = o := by simp [take, hidle, hempty]
    exact htake
  | answer accepted =>
    have hanswer : o.answer accepted = o := by simp [answer, hidle]
    exact hanswer
  | cancel => simp [act, cancel, Action.message?, ← hc]
  | close => simp [act, close, hc, Action.message?, ← hclosed]

/-- Once the task has ended, every message fails. -/
theorem run_of_ended {o : Outbox} (h : o.Ended) (hc : o.cancelled = true) (as : List Action) :
    o.run as = { o with failed := o.failed + (messages as).length } := by
  induction as generalizing o with
  | nil => rfl
  | cons a as ih =>
    have hact := act_of_ended h hc a
    have hended : (o.act a).Ended := by
      rw [hact]
      exact ⟨h.closed, h.empty, h.idle⟩
    have hcancelled : (o.act a).cancelled = true := by rw [hact]; exact hc
    rw [run_cons, ih hended hcancelled, hact, messages_cons, List.length_append, Nat.add_assoc]

/-- The task at work: it takes what is next and waits for the answer, as often as answers are
given. -/
def rounds (answers : List Bool) : List Action :=
  answers.flatMap fun accepted => [.take, .answer accepted]

/-- Where nothing else happens, the task gets to the end of its queue. -/
theorem rounds_empty (o : Outbox) {answers : List Bool} (h : o.unsettled ≤ answers.length) :
    (o.run (rounds answers)).queue = [] ∧ (o.run (rounds answers)).delivering = none := by
  induction answers generalizing o with
  | nil =>
    have hnone : o.queue.length = 0 ∧ o.delivering.toList.length = 0 := by
      simp only [unsettled, List.length_nil] at h
      omega
    refine ⟨List.eq_nil_of_length_eq_zero hnone.1, ?_⟩
    cases hd : o.delivering with
    | none => exact hd
    | some message => simp [hd] at hnone
  | cons accepted answers ih =>
    have hround : rounds (accepted :: answers) = [.take, .answer accepted] ++ rounds answers := rfl
    rw [hround, run_append]
    refine ih _ ?_
    simp only [run_cons, run_nil, act, unsettled, List.length_cons] at h ⊢
    cases hd : o.delivering with
    | some message =>
      simp only [hd, Option.toList_some, List.length_cons, List.length_nil] at h
      cases accepted <;> simp [take, answer, hd] <;> omega
    | none =>
      cases hq : o.queue with
      | nil => simp [take, answer, hd, hq]
      | cons message rest =>
        simp only [hd, hq, Option.toList_none, List.length_cons, List.length_nil] at h
        cases accepted <;> simp [take, answer, hd, hq] <;> omega

/-- A task that was told to stop closes the queue, offers all that is in it and ends. -/
theorem ended_rounds {o : Outbox} (hc : o.cancelled = true) {answers : List Bool}
    (h : o.unsettled ≤ answers.length) :
    (o.run (.close :: rounds answers)).Ended ∧ o.offered (.close :: rounds answers) = o.queue := by
  have hclose : o.act .close = { o with accepting := false } := by simp [act, close, hc]
  have hclosed : (o.act .close).accepting = false := by rw [hclose]
  have hnone : o.admitted (.close :: rounds answers) = [] := by
    rw [admitted, admittedAt_of_none rfl, admitted_of_closed hclosed]
    rfl
  have hfits : (o.act .close).unsettled ≤ answers.length := by rw [hclose]; exact h
  obtain ⟨hempty, hidle⟩ := rounds_empty (o.act .close) hfits
  have hqueue := (o.books_run (.close :: rounds answers)).queue
  rw [run_cons, hempty, hnone, List.append_nil, List.append_nil] at hqueue
  exact ⟨⟨closed_run hclosed _, hempty, hidle⟩, hqueue⟩

/-- What an outbox keeps to when it has done a run of actions. -/
structure Conserved (o : Outbox) (as : List Action) : Prop where
  /-- What was offered and what is queued is what found room, each message once and in that
  order. -/
  inOrder : o.offered as ++ (o.run as).queue = o.admitted as
  bounded : (o.run as).queue.length ≤ o.capacity
  balanced : (o.run as).delivered + (o.run as).failed + (o.run as).unsettled = (messages as).length
  /-- The task ends only when it was told to, and by then it has offered all that ever found
  room. -/
  emptied : (o.run as).Ended → (o.run as).cancelled = true ∧ o.offered as = o.admitted as
  /-- What was queued when the task was told to stop is offered next, before it ends. -/
  queued : ∀ before after, as = before ++ .cancel :: after → (o.run as).Ended →
    o.offered before ++ (o.run before).queue <+: o.offered as
  /-- A task that was told to stop ends once the sink has answered for all that is queued or in
  hand. -/
  ends : (o.run as).cancelled = true → ∀ answers : List Bool,
    (o.run as).unsettled ≤ answers.length →
    (o.run (as ++ .close :: rounds answers)).Ended ∧
      (o.run as).offered (.close :: rounds answers) = (o.run as).queue
  /-- Whatever is to be sent after that only adds to the failures. -/
  late : (o.run as).Ended → ∀ more,
    o.run (as ++ more) = { o.run as with failed := (o.run as).failed + (messages more).length }

/-- What the books of a run say of an outbox that began empty. -/
theorem conserved_run {o : Outbox} (hq : o.queue = []) (hd : o.delivering = none)
    (hn : o.delivered = 0 ∧ o.failed = 0) (ht : o.accepting = true) (as : List Action) :
    Conserved o as := by
  have hbooks := o.books_run as
  have hinOrder : o.offered as ++ (o.run as).queue = o.admitted as := by
    have hqueue := hbooks.queue
    rwa [hq, List.nil_append] at hqueue
  have htold : (o.run as).accepting = false → (o.run as).cancelled = true :=
    cancelled_of_closed (fun h => absurd h (by rw [ht]; decide)) as
  refine ⟨hinOrder, ?_, ?_, fun hend => ⟨htold hend.closed, ?_⟩, ?_, ?_, ?_⟩
  · rw [← hbooks.capacity]
    exact hbooks.bounded (by simp [hq])
  · have hcounted := hbooks.counted
    simp only [unsettled, hq, hd, hn.1, hn.2, List.length_nil, Option.toList_none] at hcounted ⊢
    omega
  · rw [← hinOrder, hend.empty, List.append_nil]
  · rintro before after rfl hend
    have hbefore := (o.books_run before).queue
    rw [hq, List.nil_append] at hbefore
    rw [hend.empty, List.append_nil] at hinOrder
    rw [hbefore, hinOrder, admitted_append]
    exact List.prefix_append _ _
  · intro hc answers hanswers
    rw [run_append]
    exact ended_rounds hc hanswers
  · intro hend more
    rw [run_append]
    exact run_of_ended hend (htold hend.closed) more

/-- From an empty outbox, whatever it is told and whatever the sink answers: no message is lost,
sent twice or overtaken, and none is counted twice. -/
theorem conserves_messages (capacity : Nat) (as : List Action) :
    (new capacity).capacity = max capacity 1 ∧ Conserved (new capacity) as :=
  ⟨rfl, conserved_run rfl rfl ⟨rfl, rfl⟩ rfl as⟩

/-- A message that comes before the queue is closed is still delivered, and one that comes later has
failed. -/
example :
    let as : List Action := [.handle (.orderCanceled "a"), .take, .cancel,
      .handle (.orderCanceled "b"), .close, .answer false, .handle (.orderCanceled "c"), .take,
      .answer true]
    let o := (new 0).run as
    o.Ended ∧ o.delivered = 1 ∧ o.failed = 2 := by
  refine ⟨⟨?_, ?_, ?_⟩, ?_, ?_⟩ <;> decide +kernel

end VenueGateway.Outbox
