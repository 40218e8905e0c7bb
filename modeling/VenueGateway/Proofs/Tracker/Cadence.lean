import VenueGateway.Tracker.Polling

/-!
When a polling loop polls. The loop is a task of its own: time passes, it may be told to stop, and
it takes a turn whenever it gets to, early or late. Between two polls there is at least one
interval, whether the loop is on time or has missed several; once it was told to stop and has had
its turns it never polls again; and where the interval is longer than the grace, one jump of the
clock makes for one poll at most. A jump together with all turns that follow is the advance of a
loop.
-/

namespace VenueGateway

namespace PollLoop

variable {l : PollLoop} {due now : Nat}

theorem add_interval_le_following (l : PollLoop) (due now : Nat) :
    due + l.interval ≤ l.following due now := by
  unfold following
  split <;> omega

theorem following_le (h : due ≤ now) : l.following due now ≤ now + l.interval := by
  unfold following
  split <;> omega

/-- A loop that keeps to its rhythm is late by less than its interval. -/
theorem lt_following (hg : grace < l.interval) : now < l.following due now := by
  unfold following
  split
  · have hpos := l.interval_pos
    omega
  · omega

theorem polls_of_lt (h : now < due) : l.polls due now = (0, due) := by
  rw [polls, if_neg (Nat.not_le.mpr h)]

theorem polls_of_le (h : due ≤ now) :
    l.polls due now =
      ((l.polls (l.following due now) now).1 + 1, (l.polls (l.following due now) now).2) := by
  rw [polls, if_pos h]

/-- Only the interval matters to when polls are due. -/
theorem polls_congr {l l' : PollLoop} (h : l.interval = l'.interval) : l.polls = l'.polls := by
  funext due now
  fun_induction l.polls due now with
  | case1 due hdue rest ih =>
    have hfollowing : l.following due now = l'.following due now := by rw [following, following, h]
    rw [polls_of_le hdue, ← hfollowing, ← ih]
  | case2 due hdue => rw [polls_of_lt (Nat.not_le.mp hdue)]

/-- Where the interval is longer than the grace, no more than one poll is due at a time. -/
theorem polls_eq_one (hg : grace < l.interval) (h : due ≤ now) :
    l.polls due now = (1, l.following due now) := by
  rw [polls_of_le h, polls_of_lt (lt_following hg)]

theorem polls_awaiting (l : PollLoop) (next : Nat) : (l.awaiting next).polls = l.polls := by
  have hinterval : (l.awaiting next).interval = l.interval := rfl
  exact polls_congr hinterval

theorem polls_later (l : PollLoop) (millis : Nat) : (l.later millis).polls = l.polls := by
  have hinterval : (l.later millis).interval = l.interval := rfl
  exact polls_congr hinterval

theorem advance_of_none {millis : Nat} (h : l.next = none) :
    l.advance millis = (l.later millis, 0) := by
  simp only [advance, h]
  rw [later, h]

theorem advance_of_some {millis : Nat} (h : l.next = some due) :
    l.advance millis =
      ((l.later millis).awaiting (l.polls due (l.now + millis)).2,
        (l.polls due (l.now + millis)).1) := by
  simp only [advance, h]
  rfl

end PollLoop

namespace Watch

def Tick.isInstant : Tick → Bool
  | .elapse _ => false
  | _ => true

/-- The task waits: no turn makes a difference. -/
def Settled (w : Watch) : Prop := ∀ heeds, w.turn heeds = (w, [])

variable {w : Watch}

/-- A turn does nothing, or ends the loop, or polls. -/
theorem turn_cases (w : Watch) (heeds : Bool) :
    (w.Settled ∧ (w.told = true → w.loop.next = none) ∧ ∀ due, w.loop.next = some due →
      w.loop.now < due) ∨
      (w.told = true ∧ w.loop.next.isSome = true ∧
        w.turn heeds = ({ w with loop := w.loop.stop }, [])) ∨
      ∃ due, w.loop.next = some due ∧ due ≤ w.loop.now ∧
        w.turn heeds = ({ w with loop := w.loop.awaiting (w.loop.following due w.loop.now) },
          [w.loop.now]) := by
  cases hn : w.loop.next with
  | none => exact .inl ⟨fun heeds => by simp only [turn, hn], fun _ => rfl, nofun⟩
  | some due =>
    by_cases hend : w.told = true ∧ (heeds = true ∨ w.loop.now < due)
    · exact .inr (.inl ⟨hend.1, rfl, by simp only [turn, hn, if_pos hend]⟩)
    · by_cases hdue : due ≤ w.loop.now
      · exact .inr (.inr ⟨due, rfl, hdue, by simp only [turn, hn, if_neg hend, if_pos hdue]⟩)
      · have hahead : w.loop.now < due := Nat.not_le.mp hdue
        have htold : ¬ w.told = true := fun h => hend ⟨h, .inr hahead⟩
        refine .inl ⟨fun heeds => by simp [turn, hn, htold, hdue], fun h => absurd h htold, ?_⟩
        rintro _ ⟨⟩
        exact hahead

theorem run_append (w : Watch) (as bs : List Tick) :
    w.run (as ++ bs) = (((w.run as).1.run bs).1, (w.run as).2 ++ ((w.run as).1.run bs).2) := by
  induction as generalizing w with
  | nil => rfl
  | cons a as ih => simp only [List.cons_append, run, ih, List.append_assoc]

/-- What a loop keeps to that has polled at the times given: each poll has come late enough, and the
next one does. -/
structure Kept (period : Nat) (w : Watch) (past : List Nat) : Prop where
  interval : w.loop.interval = period
  late : ∀ n time, past[n]? = some time → (n + 1) * period ≤ time
  next : ∀ due, w.loop.next = some due → (past.length + 1) * period ≤ due ∧
    due ≤ w.loop.now + period

/-- A poll comes late enough, and sets the next one late enough. -/
theorem Kept.turn {period : Nat} {past : List Nat} (h : Kept period w past) (heeds : Bool) :
    Kept period (w.turn heeds).1 (past ++ (w.turn heeds).2) := by
  rcases w.turn_cases heeds with ⟨hsettled, -⟩ | ⟨-, -, hend⟩ | ⟨due, hn, hdue, hpoll⟩
  · rw [hsettled heeds, List.append_nil]
    exact h
  · rw [hend, List.append_nil]
    exact ⟨h.interval, h.late, nofun⟩
  · obtain ⟨hlate, -⟩ := h.next due hn
    have hfollowing := w.loop.add_interval_le_following due w.loop.now
    have hahead := PollLoop.following_le (l := w.loop) hdue
    rw [hpoll]
    refine ⟨h.interval, ?_, ?_⟩
    · intro n time htime
      rcases Nat.lt_trichotomy n past.length with hlt | rfl | hgt
      · rw [List.getElem?_append_left hlt] at htime
        exact h.late n time htime
      · simp only [List.getElem?_append_right (Nat.le_refl _), Nat.sub_self,
          List.getElem?_cons_zero, Option.some.injEq] at htime
        omega
      · rw [List.getElem?_eq_none (by rw [List.length_append]; exact hgt)] at htime
        cases htime
    · rintro _ ⟨⟩
      rw [h.interval] at hfollowing hahead
      rw [List.length_append, List.length_singleton, Nat.succ_mul (past.length + 1)]
      exact ⟨by omega, hahead⟩

theorem Kept.tick {period : Nat} {past : List Nat} (h : Kept period w past) (a : Tick) :
    Kept period (w.tick a).1 (past ++ (w.tick a).2) := by
  cases a with
  | elapse millis =>
    simp only [Watch.tick, List.append_nil]
    refine ⟨h.interval, h.late, fun due hn => ?_⟩
    obtain ⟨hlate, hahead⟩ := h.next due hn
    exact ⟨hlate, by simp only [PollLoop.later]; omega⟩
  | stop =>
    simp only [Watch.tick, List.append_nil]
    exact ⟨h.interval, h.late, h.next⟩
  | turn heeds => exact h.turn heeds

theorem Kept.run {period : Nat} {past : List Nat} (h : Kept period w past) (as : List Tick) :
    Kept period (w.run as).1 (past ++ (w.run as).2) := by
  induction as generalizing w past with
  | nil => simpa [Watch.run] using h
  | cons a as ih =>
    have hrest := ih (h.tick a)
    rwa [List.append_assoc] at hrest

/-- A loop that has ended never polls. -/
theorem run_ended (hn : w.loop.next = none) (as : List Tick) : (w.run as).2 = [] := by
  induction as generalizing w with
  | nil => rfl
  | cons a as ih =>
    have hstep : (w.tick a).2 = [] ∧ (w.tick a).1.loop.next = none := by
      cases a with
      | elapse millis => exact ⟨rfl, hn⟩
      | stop => exact ⟨rfl, hn⟩
      | turn heeds => simp only [tick, turn, hn, and_self]
    rw [run, hstep.1, ih hstep.2, List.nil_append]

/-- How many turns the task can still make use of. -/
def left (w : Watch) : Nat :=
  match w.loop.next with
  | none => 0
  | some due => w.loop.now + 1 - due + if w.told then 1 else 0

/-- Every turn that makes a difference leaves one less that does. -/
theorem left_turn (w : Watch) (heeds : Bool) : w.Settled ∨ (w.turn heeds).1.left < w.left := by
  rcases w.turn_cases heeds with ⟨hsettled, -⟩ | ⟨htold, hsome, hend⟩ | ⟨due, hn, hdue, hpoll⟩
  · exact .inl hsettled
  · obtain ⟨due, hn⟩ := Option.isSome_iff_exists.mp hsome
    refine .inr ?_
    simp only [hend, left, PollLoop.stop, hn, htold, if_true]
    omega
  · have hfollowing := w.loop.add_interval_le_following due w.loop.now
    have hpos := w.loop.interval_pos
    refine .inr ?_
    simp only [hpoll, left, hn, PollLoop.awaiting]
    omega

theorem Settled.turns (h : w.Settled) (turns : List Bool) : w.run (turns.map .turn) = (w, []) := by
  induction turns with
  | nil => rfl
  | cons heeds turns ih =>
    have hturn : w.tick (.turn heeds) = (w, []) := h heeds
    rw [List.map_cons, run, hturn, ih]
    rfl

/-- Turns enough, and the task waits. -/
theorem settled_of_left_le {turns : List Bool} (hl : w.left ≤ turns.length) :
    (w.run (turns.map .turn)).1.Settled := by
  induction turns generalizing w with
  | nil =>
    have hturn := w.left_turn true
    exact hturn.resolve_right fun hlt => by rw [List.length_nil] at hl; omega
  | cons heeds turns ih =>
    rcases w.left_turn heeds with hsettled | hlt
    · rwa [hsettled.turns]
    · rw [List.length_cons] at hl
      exact ih (Nat.le_of_lt_succ (Nat.lt_of_lt_of_le hlt hl))

theorem next_of_settled (hs : w.Settled) (htold : w.told = true) : w.loop.next = none := by
  rcases w.turn_cases true with ⟨-, hnone, -⟩ | ⟨-, hsome, hend⟩ | ⟨due, hn, hdue, hpoll⟩
  · exact hnone htold
  · rw [hs true] at hend
    have hnext := congrArg (fun r => r.1.loop.next) hend
    exact hnext
  · rw [hs true] at hpoll
    have hpolls := congrArg Prod.snd hpoll
    cases hpolls

def Ahead (w : Watch) : Prop := ∀ due, w.loop.next = some due → w.loop.now < due

/-- Nothing is polled before its time has come. -/
theorem Ahead.tick (h : w.Ahead) {a : Tick} (ha : a.isInstant = true) :
    (w.tick a).2 = [] ∧ (w.tick a).1.Ahead := by
  cases a with
  | elapse millis => cases ha
  | stop => exact ⟨rfl, h⟩
  | turn heeds =>
    simp only [Watch.tick]
    rcases w.turn_cases heeds with ⟨hsettled, -⟩ | ⟨-, -, hend⟩ | ⟨due, hn, hdue, -⟩
    · rw [hsettled heeds]
      exact ⟨rfl, h⟩
    · rw [hend]
      exact ⟨rfl, nofun⟩
    · exact absurd hdue (Nat.not_le.mpr (h due hn))

/-- Where the next poll is ahead, there is none before time passes. -/
theorem Ahead.run (h : w.Ahead) {as : List Tick} (ha : ∀ a ∈ as, a.isInstant = true) :
    (w.run as).2 = [] := by
  induction as generalizing w with
  | nil => rfl
  | cons a as ih =>
    obtain ⟨hnone, hahead⟩ := h.tick (ha a List.mem_cons_self)
    rw [Watch.run, hnone, ih hahead fun a' ha' => ha a' (List.mem_cons_of_mem _ ha')]
    rfl

/-- Where the interval is longer than the grace, there is one poll at most before time passes. -/
theorem length_run_le_one (hg : PollLoop.grace < w.loop.interval) {as : List Tick}
    (ha : ∀ a ∈ as, a.isInstant = true) :
    (w.run as).2.length ≤ 1 := by
  induction as generalizing w with
  | nil => exact Nat.zero_le 1
  | cons a as ih =>
    have has := fun a' ha' => ha a' (List.mem_cons_of_mem a ha')
    cases a with
    | elapse millis => cases ha _ List.mem_cons_self
    | stop => exact ih (w := { w with told := true }) hg has
    | turn heeds =>
      rw [Watch.run]
      simp only [Watch.tick]
      rcases w.turn_cases heeds with ⟨hsettled, -⟩ | ⟨-, -, hend⟩ | ⟨due, hn, hdue, hpoll⟩
      · rw [hsettled heeds]
        exact ih hg has
      · rw [hend]
        exact ih (w := { w with loop := w.loop.stop }) hg has
      · have hahead : (w.turn heeds).1.Ahead := by
          rw [hpoll]
          rintro _ ⟨⟩
          exact PollLoop.lt_following hg
        rw [hahead.run has, hpoll]
        exact Nat.le_refl 1

/-- A loop that is left to wait for the time at which it polls next. -/
theorem waiting_eq {due : Nat} (hn : w.loop.next = some due) (hahead : w.loop.now < due) :
    (({ w with loop := w.loop.awaiting (w.loop.polls due w.loop.now).2 } : Watch),
      List.replicate (w.loop.polls due w.loop.now).1 w.loop.now) = (w, []) := by
  rw [PollLoop.polls_of_lt hahead, PollLoop.awaiting, ← hn]
  rfl

/-- Turns enough, of a task that was not told to stop, make for those polls that are due, all at
this moment. -/
theorem run_turns_of_untold (htold : w.told = false) {turns : List Bool}
    (hs : (w.run (turns.map .turn)).1.Settled) {due : Nat} (hn : w.loop.next = some due) :
    w.run (turns.map .turn) =
      ({ w with loop := w.loop.awaiting (w.loop.polls due w.loop.now).2 },
        List.replicate (w.loop.polls due w.loop.now).1 w.loop.now) := by
  induction turns generalizing w due with
  | nil =>
    rcases w.turn_cases true with ⟨-, -, hahead⟩ | ⟨htold', -⟩ | ⟨_, -, -, hpoll⟩
    · exact (waiting_eq hn (hahead due hn)).symm
    · rw [htold] at htold'
      cases htold'
    · have hwaits : w.turn true = (w, []) := hs true
      rw [hwaits] at hpoll
      cases congrArg Prod.snd hpoll
  | cons heeds turns ih =>
    rcases w.turn_cases heeds with ⟨hsettled, -, hahead⟩ | ⟨htold', -⟩ | ⟨due', hn', hdue, hpoll⟩
    · rw [hsettled.turns, waiting_eq hn (hahead due hn)]
    · rw [htold] at htold'
      cases htold'
    · obtain rfl : due' = due := Option.some.inj (hn'.symm.trans hn)
      have hrun : w.run ((heeds :: turns).map .turn) =
          (((w.turn heeds).1.run (turns.map .turn)).1,
            (w.turn heeds).2 ++ ((w.turn heeds).1.run (turns.map .turn)).2) := rfl
      rw [hrun, hpoll] at hs ⊢
      have hrest :=
        ih (w := { w with loop := w.loop.awaiting (w.loop.following due' w.loop.now) }) htold hs rfl
      rw [hrest, PollLoop.polls_of_le hdue, PollLoop.polls_awaiting]
      rfl

/-- A jump of the clock with the turns that follow it is an advance of the loop. -/
theorem run_advance (htold : w.told = false) {millis : Nat} {turns : List Bool}
    (hs : (w.run (.elapse millis :: turns.map .turn)).1.Settled) :
    w.run (.elapse millis :: turns.map .turn) =
      ({ w with loop := (w.loop.advance millis).1 },
        List.replicate (w.loop.advance millis).2 (w.loop.now + millis)) := by
  have hrun : w.run (.elapse millis :: turns.map .turn) =
      ({ w with loop := w.loop.later millis } : Watch).run (turns.map .turn) := rfl
  rw [hrun] at hs ⊢
  cases hn : w.loop.next with
  | none =>
    have hsettled : ({ w with loop := w.loop.later millis } : Watch).Settled := by
      intro heeds
      simp only [turn, PollLoop.later, hn]
    rw [hsettled.turns, PollLoop.advance_of_none hn]
    rfl
  | some due =>
    rw [run_turns_of_untold (w := { w with loop := w.loop.later millis }) htold hs hn,
      PollLoop.advance_of_some hn, PollLoop.polls_later]
    rfl

/-- How a polling loop with some time between its polls behaves when it has done a run, and from
then on. -/
structure Cadence (period : Nat) (w : Watch) (as : List Tick) : Prop where
  /-- The polls come one interval after the start at the earliest, two after it, and so on. -/
  late : ∀ n time, (w.run as).2[n]? = some time → (n + 1) * period ≤ time
  /-- Turns enough, and it waits. -/
  settles : ∃ enough, ∀ turns : List Bool, enough ≤ turns.length →
    ((w.run as).1.run (turns.map .turn)).1.Settled
  /-- When it was told to stop and has had its turns, it never polls again. -/
  silent : (w.run as).1.told = true → (w.run as).1.Settled → ∀ more, ((w.run as).1.run more).2 = []
  /-- A jump of the clock makes for one poll at most, until time passes again. -/
  once : PollLoop.grace < period → ∀ millis more, (∀ a ∈ more, a.isInstant = true) →
    ((w.run as).1.run (.elapse millis :: more)).2.length ≤ 1
  /-- A jump over an interval makes for one poll of a loop that runs, when it has had its turns. -/
  exactlyOnce : PollLoop.grace < period → (w.run as).1.loop.running = true →
    (w.run as).1.told = false →
    ∀ millis (turns : List Bool), period ≤ millis →
      ((w.run as).1.run (.elapse millis :: turns.map .turn)).1.Settled →
      ((w.run as).1.run (.elapse millis :: turns.map .turn)).2 = [(w.run as).1.loop.now + millis]
  /-- All of this holds of the advances of a loop, which are jumps with all their turns. -/
  advances : (w.run as).1.told = false → ∀ millis (turns : List Bool),
    ((w.run as).1.run (.elapse millis :: turns.map .turn)).1.Settled →
      ((w.run as).1.run (.elapse millis :: turns.map .turn)).1.loop =
        ((w.run as).1.loop.advance millis).1 ∧
        ((w.run as).1.run (.elapse millis :: turns.map .turn)).2.length =
          ((w.run as).1.loop.advance millis).2

theorem Kept.cadence {period : Nat} (h : Kept period w []) (as : List Tick) :
    Cadence period w as where
  late := (h.run as).late
  settles := ⟨(w.run as).1.left, fun _ => settled_of_left_le⟩
  silent := fun htold hs => run_ended (next_of_settled hs htold)
  once := by
    intro hg millis more hmore
    have hinterval := (h.run as).interval
    rw [← hinterval] at hg
    exact length_run_le_one
      (w := { (w.run as).1 with loop := (w.run as).1.loop.later millis }) hg hmore
  exactlyOnce := by
    intro hg hrunning htold millis turns hlong hs
    have hkept := h.run as
    obtain ⟨due, hn⟩ := Option.isSome_iff_exists.mp hrunning
    have hdue : due ≤ (w.run as).1.loop.now + millis := by
      obtain ⟨-, hahead⟩ := hkept.next due hn
      omega
    have hone :=
      PollLoop.polls_eq_one (l := (w.run as).1.loop) (by rw [hkept.interval]; exact hg) hdue
    rw [run_advance htold hs]
    rw [PollLoop.advance_of_some hn, hone]
    rfl
  advances := by
    intro htold millis turns hs
    rw [run_advance htold hs]
    exact ⟨rfl, List.length_replicate⟩

/-- The first poll comes one interval after the start. -/
theorem kept_new (t : Tracker) (hp : 0 < t.pollInterval.millis) :
    Kept t.pollInterval.millis (new t) [] := by
  have hinterval : (PollLoop.new t.pollInterval).interval = t.pollInterval.millis :=
    Nat.max_eq_left hp
  refine ⟨?_, nofun, ?_⟩
  · rw [new]
    split <;> exact hinterval
  · rw [new]
    split
    · exact nofun
    · rintro _ ⟨⟩
      have hfirst : (PollLoop.new t.pollInterval).now + (PollLoop.new t.pollInterval).interval =
          t.pollInterval.millis :=
        (Nat.zero_add _).trans hinterval
      rw [hfirst, List.length_nil, Nat.zero_add, Nat.one_mul]
      exact ⟨Nat.le_refl _, Nat.le_add_left _ _⟩

/-- The loop of a tracker keeps to the interval that was set, or to five minutes where none was. A
loop that begins after polling was stopped never polls. -/
theorem poll_cadence (interval : Duration) (as : List Tick) :
    Cadence (if interval.millis = 0 then 300000 else interval.millis) (new (.new interval)) as ∧
      ∀ t : Tracker, ((new t.stop).run as).2 = [] := by
  have hmillis : (Tracker.new interval).pollInterval.millis = if interval.millis = 0 then 300000
      else interval.millis :=
    apply_ite Duration.millis _ _ _
  have hpos : 0 < (Tracker.new interval).pollInterval.millis := by
    rw [hmillis]
    split <;> omega
  exact ⟨hmillis ▸ (kept_new (.new interval) hpos).cadence as, fun t => run_ended rfl as⟩

/-- Polls every twenty milliseconds: on time, late beyond the grace, which moves all that follow,
late within it, and once more before the loop heeds that it was told to stop. -/
def jumps : List Tick :=
  [.elapse 20, .turn false, .elapse 26, .turn false, .elapse 24, .turn false, .elapse 15,
    .turn false, .elapse 1, .stop, .turn false, .turn false, .elapse 100, .turn false]

theorem jumps_cadence :
    Cadence 20 (new (.new ⟨20⟩)) jumps ∧ ((new (.new ⟨20⟩)).run jumps).2 = [20, 46, 70, 86] ∧
      ((new (.new ⟨20⟩)).run jumps).1.loop.running = false :=
  ⟨(poll_cadence ⟨20⟩ jumps).1, by decide⟩

end Watch

end VenueGateway
