import Mathlib.Algebra.Group.Nat.Defs
import Mathlib.Data.List.Nodup
import VenueGateway.Proofs.Client.Closing

/-!
The numbers of requests. On its way to the wire a request leaves marks: its sender finds the client
connected, it takes a number, it is written. What a run has marked of one sender is told by the
phase the sender is in; what it has marked of all of them tells the number that was taken last, and
the wire. Main statement: numbers are never used twice nor set back, whatever connections come and
go.
-/

namespace VenueGateway.Client

/-- What becomes of a request on its way to the wire. -/
inductive Mark where
  /-- Its sender finds the client connected. -/
  | passed
  /-- It takes a number. -/
  | took (number : Int64)
  /-- It is written. -/
  | wrote (f : Frame)
  deriving DecidableEq, Repr

namespace Mark

def number? : Mark → Option Int64
  | took n => some n
  | _ => none

def frame? : Mark → Option Frame
  | wrote f => some f
  | _ => none

end Mark

def SendPhase.mark? : SendPhase → SendPhase → Option Mark
  | start, numbering => some .passed
  | numbering, waiting f => some (.took f.sequence)
  | writing _ f, done (.ok _) => some (.wrote f)
  | _, _ => none

def Task.mark? : Task → Task → Option Mark
  | send _ _ p, send _ _ p' => p.mark? p'
  | _, _ => none

/-- The mark that an action leaves, and the place of the sender. -/
def markAt (c : Client) : Action → Option (Nat × Mark)
  | .step i o => c.tasks[i]?.bind fun t => (c.advance? i o).bind fun b =>
    (t.mark? b.phase).map (i, ·)
  | _ => none

def marks (c : Client) : List Action → List (Nat × Mark)
  | [] => []
  | a :: as => (c.markAt a).toList ++ marks (c.act a) as

theorem marks_concat (c : Client) (as : List Action) (a : Action) :
    c.marks (as ++ [a]) = c.marks as ++ ((c.run as).markAt a).toList := by
  induction as generalizing c with
  | nil => simp [marks]
  | cons b as ih => simp [marks, ih]

def marksOf (i : Nat) (ms : List (Nat × Mark)) : List Mark :=
  ms.filterMap fun m => if m.1 = i then some m.2 else none

def numbers (ms : List (Nat × Mark)) : List Int64 := ms.filterMap fun m => m.2.number?

def frames (ms : List (Nat × Mark)) : List Frame := ms.filterMap fun m => m.2.frame?

def passes (ms : List (Nat × Mark)) : Nat := ms.countP fun m => m.2 = .passed

section Marks

variable (ms : List (Nat × Mark)) (i : Nat) (m : Option Mark)

theorem marksOf_eq_nil {ms : List (Nat × Mark)} {i : Nat} (h : ∀ m ∈ ms, m.1 ≠ i) :
    marksOf i ms = [] :=
  List.filterMap_eq_nil_iff.mpr fun m hm => if_neg (h m hm)

theorem marksOf_concat (j : Nat) :
    marksOf j (ms ++ (m.map (i, ·)).toList) = marksOf j ms ++ if i = j then m.toList else [] := by
  cases m with
  | none => simp [marksOf]
  | some m => by_cases hij : i = j <;> simp [marksOf, List.filterMap_append, hij]

theorem marksOf_split {a : Nat} {ms : List (Nat × Mark)} {i : Nat} {m : Mark}
    (h : ms[a]? = some (i, m)) :
    marksOf i ms = marksOf i (ms.take a) ++ m :: marksOf i (ms.drop (a + 1)) := by
  obtain ⟨ha, hm⟩ := List.getElem?_eq_some_iff.mp h
  have hsplit : ms = ms.take a ++ (i, m) :: ms.drop (a + 1) := by
    rw [← hm, List.getElem_cons_drop, List.take_append_drop]
  conv_lhs => rw [hsplit]
  simp [marksOf]

theorem mem_marksOf {ms : List (Nat × Mark)} {i : Nat} {m : Mark} :
    m ∈ marksOf i ms ↔ (i, m) ∈ ms := by
  simp [marksOf]

theorem numbers_concat :
    numbers (ms ++ (m.map (i, ·)).toList) = numbers ms ++ (m.bind Mark.number?).toList := by
  cases m with
  | none => simp [numbers]
  | some m => cases hm : m.number? <;> simp [numbers, List.filterMap_append, hm]

theorem frames_concat :
    frames (ms ++ (m.map (i, ·)).toList) = frames ms ++ (m.bind Mark.frame?).toList := by
  cases m with
  | none => simp [frames]
  | some m => cases hm : m.frame? <;> simp [frames, List.filterMap_append, hm]

theorem passes_concat :
    passes (ms ++ (m.map (i, ·)).toList) = passes ms + if m = some .passed then 1 else 0 := by
  cases m with
  | none => simp [passes]
  | some m => by_cases hm : m = .passed <;> simp [passes, List.countP_append, hm]

end Marks

/-- What is marked of a sender, told by its phase. -/
inductive SendPhase.Story (operation payload : String) : SendPhase → List Mark → Prop where
  | start : Story operation payload .start []
  | numbering : Story operation payload .numbering [.passed]
  | waiting (n : Int64) :
    Story operation payload (.waiting (.request n operation payload)) [.passed, .took n]
  | writing (k : Nat) (n : Int64) :
      Story operation payload (.writing k (.request n operation payload)) [.passed, .took n]
  | written (n : Int64) :
      Story operation payload (.done (.ok n)) [.passed, .took n,
        .wrote (.request n operation payload)]
  | refused : Story operation payload (.done (.error .notConnected)) []
  -- Whatever keeps a request from being written, its number is gone.
  | failed (n : Int64) (e : LinkError) :
    Story operation payload (.done (.error e)) [.passed, .took n]

/-- A sender that goes on adds its mark to its story. -/
theorem SendPhase.Story.move {operation payload : String} {s : Shared} {p : SendPhase}
    {a : Advance SendPhase} {ms : List Mark} (h : p.Story operation payload ms)
    (hm : p.Move operation payload s a) :
    a.phase.Story operation payload (ms ++ (p.mark? a.phase).toList) := by
  cases hm with
  | passes => cases h; exact .numbering
  | refused => cases h; exact .refused
  | numbers => cases h; exact .waiting _
  | misses => cases h; exact .failed _ _
  | takes => cases h; exact .writing _ _
  | writes => cases h; exact .written _
  | fails => cases h; exact .failed _ _

/-- What is written has got its number from the sender. -/
theorem SendPhase.Story.before {operation payload : String} {p : SendPhase} {ms l r : List Mark}
    {f : Frame} (h : p.Story operation payload ms) (heq : ms = l ++ .wrote f :: r) :
    l = [.passed, .took f.sequence] := by
  cases h with
  | written n =>
    obtain ⟨hl, rfl, -⟩ : l = [.passed, .took n] ∧ f = .request n operation payload ∧ r = [] := by
      simpa [List.cons_eq_append_iff] using heq
    exact hl
  | _ => simp [List.cons_eq_append_iff] at heq

/-- A sender writes one frame, and that it did so shows in what it is told. -/
theorem SendPhase.Story.wrote_iff {operation payload : String} {p : SendPhase} {ms : List Mark}
    {f : Frame} (h : p.Story operation payload ms) :
    .wrote f ∈ ms ↔ f = .request f.sequence operation payload ∧ p = .done (.ok f.sequence) := by
  cases h with
  | written n =>
    constructor
    · intro hf
      obtain rfl : f = .request n operation payload := by simpa using hf
      exact ⟨rfl, rfl⟩
    · rintro ⟨hf, hp⟩
      have hn : n = f.sequence := by simpa using hp
      simp [hn, ← hf]
  | _ => simp

/-- What is marked of a task. Only senders leave marks. -/
inductive Task.Story : Task → List Mark → Prop where
  | send {operation payload : String} {p : SendPhase} {ms : List Mark}
      (h : p.Story operation payload ms) :
      Story (.send operation payload p) ms
  | other {t : Task} (h : ∀ operation payload p, t ≠ .send operation payload p) : Story t []

theorem Task.Story.before {t : Task} {ms l r : List Mark} {f : Frame} (h : t.Story ms)
    (heq : ms = l ++ .wrote f :: r) : l = [.passed, .took f.sequence] := by
  cases h with
  | send h => exact h.before heq
  | other => simp at heq

theorem Task.Story.of_send {operation payload : String} {p : SendPhase} {ms : List Mark}
    (h : (Task.send operation payload p).Story ms) : p.Story operation payload ms := by
  cases h with
  | send h => exact h
  | other h => exact absurd rfl (h _ _ _)

namespace Task

/-- Whether the task sends a request that has not got a number yet, though its sender has found the
client connected. -/
def unnumbered : Task → Bool
  | send _ _ .numbering => true
  | _ => false

def mayNumber : Task → Bool
  | send _ _ .start => true
  | send _ _ .numbering => true
  | _ => false

theorem not_send_of_idle {t : Task} (h : t.idle = true) (operation payload : String)
    (p : SendPhase) :
    t ≠ .send operation payload p := by
  rintro rfl
  cases h

theorem unnumbered_of_idle {t : Task} (h : t.idle = true) : t.unnumbered = false := by
  cases t with
  | send => cases h
  | _ => rfl

theorem mayNumber_of_idle {t : Task} (h : t.idle = true) : t.mayNumber = false := by
  cases t with
  | send => cases h
  | _ => rfl

theorem mark?_of_idle {t : Task} (h : t.idle = true) (t' : Task) : t.mark? t' = none := by
  cases t with
  | send => cases h
  | _ => rfl

/-- A task that sends nothing never will. -/
theorem Story.writes {s : Shared} {t : Task} {a : Advance Task} {ms : List Mark} (h : t.Story ms)
    (hw : t.Writes s a) : a.phase.Story (ms ++ (t.mark? a.phase).toList) := by
  cases hw with
  | rests hs ht ht' | installs hs _ ht ht' =>
    cases h with
    | send => cases ht
    | other =>
      rw [mark?_of_idle ht]
      exact .other (not_send_of_idle ht')
  | answers | answered =>
    cases h
    exact .other nofun
  | sends hm =>
    cases h with
    | send h => exact .send (h.move hm)
    | other h => exact absurd rfl (h _ _ _)

end Task

def numberAt (k : Nat) : Int64 := .ofNat (2 * k)

theorem numberAt_add_step (k : Nat) : numberAt k + sequenceStep = numberAt (k + 1) := by
  rw [numberAt, numberAt, Nat.mul_add, Int64.ofNat_add]
  rfl

theorem toInt_numberAt {k : Nat} (h : k < 2 ^ 62) : (numberAt k).toInt = 2 * k := by
  rw [numberAt, Int64.toInt_ofNat_of_lt (by omega)]
  omega

namespace Task.Writes

variable {s : Shared} {t : Task} {a : Advance Task}

/-- What is written on the wire is marked. -/
theorem requests (h : t.Writes s a) :
    a.shared.requests = s.requests ++ ((t.mark? a.phase).bind Mark.frame?).toList := by
  cases h with
  | rests hs ht => simp [mark?_of_idle ht, hs.requests]
  | installs hs _ ht => simp [mark?_of_idle ht, hs, (keepsRequests_install s _).requests]
  | answers => simp [Task.mark?, Shared.requests]
  | answered hr => simp [Task.mark?, hr]
  | sends hm =>
    cases hm with
    | writes => exact Shared.requests_write _ _ _
    | fails => simp [Advance.map, Task.mark?, SendPhase.mark?, Shared.requests]
    | _ => simp [Advance.map, Task.mark?, SendPhase.mark?, Shared.requests, Mark.frame?]

/-- The number that is taken is the next one, and nothing else moves it. -/
theorem lastSequence (h : t.Writes s a) :
    ((t.mark? a.phase).bind Mark.number? = none ∧ a.shared.lastSequence = s.lastSequence) ∨
    ((t.mark? a.phase).bind Mark.number? = some (s.lastSequence + sequenceStep) ∧
      a.shared.lastSequence = s.lastSequence + sequenceStep) := by
  cases h with
  | rests hs ht => exact .inl ⟨by simp [mark?_of_idle ht], hs.lastSequence⟩
  | installs hs _ ht =>
    exact .inl ⟨by simp [mark?_of_idle ht], hs ▸ (keepsRequests_install s _).lastSequence⟩
  | answers => exact .inl ⟨rfl, rfl⟩
  | answered _ hl => exact .inl ⟨rfl, hl⟩
  | sends hm =>
    cases hm with
    | numbers => exact .inr ⟨rfl, rfl⟩
    | _ => exact .inl ⟨rfl, rfl⟩

/-- Who has found the client connected takes a number next. -/
theorem unnumbered (h : t.Writes s a) :
    a.phase.unnumbered.toNat + ((t.mark? a.phase).bind Mark.number?).toList.length =
      t.unnumbered.toNat + if t.mark? a.phase = some .passed then 1 else 0 := by
  cases h with
  | rests _ ht ht' | installs _ _ ht ht' =>
    simp [mark?_of_idle ht, unnumbered_of_idle ht, unnumbered_of_idle ht']
  | answers | answered => rfl
  | sends hm => cases hm <;> rfl

/-- A number is taken once for a call. -/
theorem mayNumber (h : t.Writes s a) :
    a.phase.mayNumber.toNat + ((t.mark? a.phase).bind Mark.number?).toList.length ≤
      t.mayNumber.toNat := by
  cases h with
  | rests _ ht ht' | installs _ _ ht ht' =>
    simp [mark?_of_idle ht, mayNumber_of_idle ht, mayNumber_of_idle ht']
  | answers | answered => exact Nat.le_refl 0
  | sends hm =>
    cases hm with
    | refused => exact Nat.zero_le 1
    | passes | numbers => exact Nat.le_refl 1
    | _ => exact Nat.le_refl 0

end Task.Writes

def calls (as : List Action) : Nat :=
  as.countP fun
    | .send .. => true
    | _ => false

/-- What the marks of a run tell of the client, when so many requests have been called for. -/
structure Ledger (c : Client) (ms : List (Nat × Mark)) (calls : Nat) : Prop where
  /-- Each task has come as far as it is marked. -/
  stories : ∀ (i : Nat) (t : Task), c.tasks[i]? = some t → t.Story (marksOf i ms)
  placed : ∀ m ∈ ms, m.1 < c.tasks.length
  allocated : numbers ms = (List.range (numbers ms).length).map fun k => numberAt (k + 1)
  last : c.shared.lastSequence = numberAt (numbers ms).length
  requests : c.shared.requests = frames ms
  passed : passes ms = (numbers ms).length + c.tasks.countP Task.unnumbered
  called : (numbers ms).length + c.tasks.countP Task.mayNumber ≤ calls

namespace Ledger

variable {c : Client} {ms : List (Nat × Mark)} {k : Nat}

theorem marksOf_of_le (h : Ledger c ms k) {i : Nat} (hi : c.tasks.length ≤ i) : marksOf i ms = [] :=
  marksOf_eq_nil fun m hm heq => Nat.not_lt_of_le hi (heq ▸ h.placed m hm)

theorem start (h : Ledger c ms k) {t : Task} {n : Nat} (ht : t.Story [])
    (hpassed : t.unnumbered = false) (hn : t.mayNumber.toNat ≤ n) :
    Ledger (c.start t) ms (k + n) where
  stories i t' ht' := by
    rw [Client.start, List.getElem?_append] at ht'
    split at ht'
    · exact h.stories i t' ht'
    · next hi =>
      obtain rfl := List.mem_singleton.mp (List.mem_of_getElem? ht')
      rwa [h.marksOf_of_le (Nat.le_of_not_lt hi)]
  placed m hm := Nat.lt_of_lt_of_le (h.placed m hm) (by simp [Client.start])
  allocated := h.allocated
  last := h.last
  requests := h.requests
  passed := by simpa [Client.start, List.countP_append, hpassed] using h.passed
  called := by
    have hc := h.called
    rw [Client.start, List.countP_append, countP_cons_toNat, List.countP_nil]
    omega

section Step

variable {i : Nat} {o : Outcome} {t : Task} {b : Advance Task} (h : Ledger c ms k)
  (ht : c.tasks[i]? = some t)
  (hs : t.step? c.shared o = some b)

include h ht hs

/-- The task that takes a step goes on with its story; the others rest, or have just been
started. -/
theorem story_step {j : Nat} {t' : Task} (ht' : (c.act (.step i o)).tasks[j]? = some t') :
    t'.Story (marksOf j (ms ++ ((t.mark? b.phase).map (i, ·)).toList)) := by
  have hlt : i < c.tasks.length := (List.getElem?_eq_some_iff.mp ht).1
  rw [marksOf_concat]
  rw [Client.act, step_of_task ht hs, List.getElem?_append, List.length_set] at ht'
  split at ht'
  · by_cases hij : i = j
    · obtain rfl := hij
      rw [List.getElem?_set_self hlt] at ht'
      obtain rfl := Option.some.inj ht'
      rw [if_pos rfl]
      exact (h.stories i t ht).writes (Task.writes_of_step hs)
    · rw [List.getElem?_set_ne hij] at ht'
      rw [if_neg hij, List.append_nil]
      exact h.stories j t' ht'
  · next hj =>
    have hij : i ≠ j := fun heq => hj (heq ▸ hlt)
    rw [if_neg hij, List.append_nil, h.marksOf_of_le (Nat.le_of_not_lt hj)]
    obtain ⟨k, rfl⟩ | rfl := (Task.move_of_step hs).started t' (List.mem_of_getElem? ht')
      <;> exact .other (by rintro _ _ _ ⟨⟩)

/-- The case of a step: only one task moves, and only its mark is new. -/
theorem step : Ledger (c.act (.step i o)) (ms ++ ((t.mark? b.phase).map (i, ·)).toList) k := by
  have hw := Task.writes_of_step hs
  have hshared := (act_step ht hs).1
  constructor
  case stories => exact fun j t' ht' => h.story_step ht hs ht'
  case placed =>
    have hlen : c.tasks.length ≤ (c.act (.step i o)).tasks.length := by
      simp [Client.act, step_of_task ht hs]
    intro m hm
    obtain hm | hm := List.mem_append.mp hm
    · exact Nat.lt_of_lt_of_le (h.placed m hm) hlen
    · obtain ⟨m', -, rfl⟩ := Option.map_eq_some_iff.mp (Option.mem_toList.mp hm)
      exact Nat.lt_of_lt_of_le (List.getElem?_eq_some_iff.mp ht).1 hlen
  case allocated =>
    rw [numbers_concat]
    obtain ⟨hnum, -⟩ | ⟨hnum, -⟩ := hw.lastSequence
    · simpa [hnum] using h.allocated
    · rw [hnum, h.last, numberAt_add_step]
      simp [List.range_succ, ← h.allocated]
  case last =>
    rw [numbers_concat, hshared]
    obtain ⟨hnum, hl⟩ | ⟨hnum, hl⟩ := hw.lastSequence
    · simp [hnum, hl, h.last]
    · simp [hnum, hl, h.last, numberAt_add_step]
  case requests => rw [frames_concat, hshared, hw.requests, h.requests]
  case passed =>
    have hpassed := h.passed
    have hbalance := hw.unnumbered
    obtain ⟨n, hbefore, hafter⟩ := countP_act_step ht hs Task.unnumbered (fun _ => rfl) fun _ => rfl
    rw [passes_concat, numbers_concat, List.length_append, hafter]
    omega
  case called =>
    have hcalled := h.called
    have hbound := hw.mayNumber
    obtain ⟨n, hbefore, hafter⟩ := countP_act_step ht hs Task.mayNumber (fun _ => rfl) fun _ => rfl
    rw [numbers_concat, List.length_append, hafter]
    omega

end Step

/-- The ledger is kept at every action. -/
theorem act (h : Ledger c ms k) (a : Action) :
    Ledger (c.act a) (ms ++ (c.markAt a).toList) (k + calls [a]) := by
  cases a with
  | step i o =>
    obtain ⟨hnone, hsame⟩ | ⟨t, b, ht, hs⟩ := step_cases c i o
    · have hmark : c.markAt (.step i o) = none := by simp [markAt, hnone]
      rw [Client.act, hsame, hmark]
      simpa [calls] using h
    · have hmark : c.markAt (.step i o) = (t.mark? b.phase).map (i, ·) := by
        simp [markAt, advance?, ht, hs]
      rw [hmark]
      exact h.step ht hs
  | connect =>
    simp only [markAt, Option.toList_none, List.append_nil]
    exact h.start (.other (by rintro _ _ _ ⟨⟩)) rfl (Nat.le_refl 0)
  | send operation payload =>
    simp only [markAt, Option.toList_none, List.append_nil]
    exact h.start (.send .start) rfl (Nat.le_refl 1)
  | close =>
    simp only [markAt, Option.toList_none, List.append_nil]
    exact h.start (.other (by rintro _ _ _ ⟨⟩)) rfl (Nat.le_refl 0)
  | listen listener =>
    simp only [markAt, Option.toList_none, List.append_nil]
    exact ⟨h.stories, h.placed, h.allocated, h.last, h.requests, h.passed, h.called⟩
  | elapse millis =>
    simp only [markAt, Option.toList_none, List.append_nil]
    exact ⟨h.stories, h.placed, h.allocated, h.last, h.requests, h.passed, h.called⟩

end Ledger

theorem ledger_run (settings : ConnectionSettings) (as : List Action) :
    Ledger ((new settings).run as) ((new settings).marks as) (calls as) := by
  induction as using List.reverseRecOn with
  | nil => exact ⟨nofun, nofun, rfl, rfl, rfl, rfl, Nat.le_refl 0⟩
  | append_singleton as a ih =>
    rw [run_append, marks_concat, calls, List.countP_append]
    exact ih.act a

section Order

variable {c : Client} {ms : List (Nat × Mark)} {k : Nat}

/-- What a sender has written. -/
theorem Ledger.wrote_iff (h : Ledger c ms k) {i : Nat} {operation payload : String} {p : SendPhase}
    (ht : c.tasks[i]? = some (.send operation payload p)) {f : Frame} :
    (i, .wrote f) ∈ ms ↔ f = .request f.sequence operation payload ∧
    p = .done (.ok f.sequence) := by
  rw [← mem_marksOf, (h.stories i _ ht).of_send.wrote_iff]

theorem Ledger.mem_requests (h : Ledger c ms k) {i : Nat} {f : Frame} (hm : (i, .wrote f) ∈ ms) :
    f ∈ c.shared.requests := by
  rw [h.requests]
  exact List.mem_filterMap.mpr ⟨_, hm, rfl⟩

/-- What one sender marked before it wrote. -/
theorem Ledger.before (h : Ledger c ms k) {a i : Nat} {f : Frame}
    (ha : ms[a]? = some (i, .wrote f)) :
    marksOf i (ms.take a) = [.passed, .took f.sequence] := by
  have hi : i < c.tasks.length := h.placed _ (List.mem_of_getElem? ha)
  exact (h.stories i _ (List.getElem?_eq_getElem hi)).before (marksOf_split ha)

/-- A request is written under a number that its sender took before. -/
theorem Ledger.taken (h : Ledger c ms k) {a i : Nat} {f : Frame}
    (ha : ms[a]? = some (i, .wrote f)) :
    ∃ p < a, ms[p]? = some (i, .took f.sequence) := by
  have hmem : (i, .took f.sequence) ∈ ms.take a := mem_marksOf.mp (by simp [h.before ha])
  obtain ⟨p, hp⟩ := List.mem_iff_getElem?.mp hmem
  rw [List.getElem?_take] at hp
  split at hp
  · next hlt => exact ⟨p, hlt, hp⟩
  · cases hp

/-- A sender writes once. -/
theorem Ledger.sender_ne (h : Ledger c ms k) {a b i j : Nat} {f g : Frame} (hab : a < b)
    (ha : ms[a]? = some (i, .wrote f)) (hb : ms[b]? = some (j, .wrote g)) : i ≠ j := by
  rintro rfl
  have hmem : (i, .wrote f) ∈ ms.take b := List.mem_of_getElem? (List.getElem?_take_of_lt hab ▸ ha)
  have := mem_marksOf.mpr hmem
  simp [h.before hb] at this

/-- While they do not run out, each number is larger than those before it. -/
theorem Ledger.number_lt (h : Ledger c ms k) (hk : k < 2 ^ 62) {p q i j : Nat} {m n : Int64}
    (hpq : p < q) (hp : ms[p]? = some (i, .took m)) (hq : ms[q]? = some (j, .took n)) : m < n := by
  have hincreasing : (numbers ms).Pairwise (· < ·) := by
    rw [h.allocated, List.pairwise_map]
    refine List.pairwise_lt_range.imp_of_mem fun {x y} hx hy hxy => ?_
    have hy' := List.mem_range.mp hy
    have hcalls := h.called
    rw [Int64.lt_iff_toInt_lt, toInt_numberAt (by omega), toInt_numberAt (by omega)]
    omega
  rw [numbers, List.pairwise_filterMap, List.pairwise_iff_getElem] at hincreasing
  obtain ⟨hp', hp⟩ := List.getElem?_eq_some_iff.mp hp
  obtain ⟨hq', hq⟩ := List.getElem?_eq_some_iff.mp hq
  exact hincreasing p q hp' hq' hpq m (by rw [hp]; rfl) n (by rw [hq]; rfl)

/-- The numbers of two requests on the wire were taken by two senders, one after the other. -/
theorem Ledger.taken_apart (h : Ledger c ms k) {a b i j : Nat} {f g : Frame} (hab : a < b)
    (ha : ms[a]? = some (i, .wrote f)) (hb : ms[b]? = some (j, .wrote g)) :
    ∃ p < a, ∃ q < b, ms[p]? = some (i, .took f.sequence) ∧ ms[q]? = some (j, .took g.sequence) ∧
    p ≠ q := by
  obtain ⟨p, hpa, hp⟩ := h.taken ha
  obtain ⟨q, hqb, hq⟩ := h.taken hb
  refine ⟨p, hpa, q, hqb, hp, hq, ?_⟩
  rintro rfl
  rw [hp] at hq
  exact h.sender_ne hab ha hb (Prod.mk.inj (Option.some.inj hq)).1

/-- So no two requests on the wire have the same number. -/
theorem Ledger.sequence_ne (h : Ledger c ms k) (hk : k < 2 ^ 62) {a b i j : Nat} {f g : Frame}
    (hab : a < b) (ha : ms[a]? = some (i, .wrote f)) (hb : ms[b]? = some (j, .wrote g)) :
    f.sequence ≠ g.sequence := by
  obtain ⟨p, -, q, -, hp, hq, hpq⟩ := h.taken_apart hab ha hb
  obtain hlt | hgt := Nat.lt_or_gt_of_ne hpq
  · exact Int64.ne_of_lt (h.number_lt hk hlt hp hq)
  · exact (Int64.ne_of_lt (h.number_lt hk hgt hq hp)).symm

/-- What is said of the requests on the wire, one after another, is said of the marks of their
writing. -/
theorem frames_pairwise {r : Frame → Frame → Prop}
    (h : ∀ (a b i j : Nat) (f g : Frame), a < b → ms[a]? = some (i, .wrote f) →
      ms[b]? = some (j, .wrote g) → r f g) :
    (frames ms).Pairwise r := by
  rw [frames, List.pairwise_filterMap, List.pairwise_iff_getElem]
  intro a b ha hb hab f hf g hg
  have hwrote : ∀ {m : Mark} {f : Frame}, m.frame? = some f → m = .wrote f := by
    intro m f hm
    cases m with
    | wrote f' => rw [Option.some.inj hm]
    | _ => cases hm
  refine h a b ms[a].1 ms[b].1 f g hab ?_ ?_
  · rw [List.getElem?_eq_getElem ha, ← hwrote hf]
  · rw [List.getElem?_eq_getElem hb, ← hwrote hg]

end Order

/-- How the requests of a run that has left these marks are numbered. -/
structure Numbered (c : Client) (ms : List (Nat × Mark)) : Prop where
  /-- The `k`-th number is `2 * k`. -/
  allocated : ∀ (k : Nat) (n : Int64), (numbers ms)[k]? = some n → n.toInt = 2 * (k + 1)
  /-- A request that is to be sent while the client is not connected is refused by the first step,
  which takes no number. -/
  refused : c.shared.state ≠ .connected → ∀ i operation payload, c.tasks[i]? =
    some (.send operation payload .start) →
    c.Settles i (.send operation payload (.done (.error .notConnected)))
  /-- A sender that returns a number has written one request, and under that number. -/
  returned : ∀ i operation payload n, c.tasks[i]? = some (.send operation payload (.done (.ok n))) →
    (marksOf i ms).filterMap Mark.frame? = [.request n operation payload]
  /-- A sender that returns an error has written none. -/
  failed : ∀ i operation payload e, c.tasks[i]? =
    some (.send operation payload (.done (.error e))) →
    (marksOf i ms).filterMap Mark.frame? = []
  /-- Nothing else puts a request on the wire, -/
  wire : c.shared.requests = frames ms
  /-- and no number is on the wire twice. -/
  distinct : (c.shared.requests.map Frame.sequence).Nodup
  /-- The number taken last counts who has found the client connected, but for those who take theirs
  next. -/
  last : c.shared.lastSequence.toInt + 2 * c.tasks.countP Task.unnumbered = 2 * passes ms
  /-- When nobody has to, it counts them all. -/
  rested : (∀ t ∈ c.tasks, t.unnumbered = false) → c.shared.lastSequence.toInt = 2 * passes ms

/-- Numbers are neither used twice nor set back. -/
theorem numbers_never_reused (settings : ConnectionSettings) (as : List Action)
    (h : calls as < 2 ^ 62) :
    Numbered ((new settings).run as) ((new settings).marks as) := by
  have hledger := ledger_run settings as
  have hcalled := hledger.called
  have hlast : ((new settings).run as).shared.lastSequence.toInt +
      2 * ((new settings).run as).tasks.countP Task.unnumbered =
        2 * passes ((new settings).marks as) := by
    rw [hledger.last, toInt_numberAt (by omega), hledger.passed]
    push_cast
    omega
  constructor
  case allocated =>
    intro k n hn
    have hk := (List.getElem?_eq_some_iff.mp hn).1
    rw [hledger.allocated, List.getElem?_map, List.getElem?_range hk] at hn
    obtain rfl := Option.some.inj hn
    rw [toInt_numberAt (by omega)]
    push_cast
    rfl
  case refused =>
    intro hstate i operation payload ht o
    simp [advance?, ht, Task.step?, SendPhase.step?, hstate, Advance.map]
  case returned =>
    intro i operation payload n ht
    generalize hms : marksOf i ((new settings).marks as) = ms
    cases hms ▸ hledger.stories i _ ht with
    | send hstory =>
      cases hstory
      rfl
    | other hother => exact absurd rfl (hother _ _ _)
  case failed =>
    intro i operation payload e ht
    generalize hms : marksOf i ((new settings).marks as) = ms
    cases hms ▸ hledger.stories i _ ht with
    | send hstory => cases hstory <;> rfl
    | other hother => exact absurd rfl (hother _ _ _)
  case wire => exact hledger.requests
  case distinct =>
    rw [hledger.requests, List.Nodup, List.pairwise_map]
    exact frames_pairwise fun a b i j f g hab ha hb => hledger.sequence_ne h hab ha hb
  case last => exact hlast
  case rested =>
    intro hnone
    rw [List.countP_eq_zero.mpr fun t ht => Bool.eq_false_iff.mp (hnone t ht)] at hlast
    simpa using hlast

/-- Of four requests one times out, one is refused after the connection is lost, and two are
written, the last one on a second connection. -/
theorem mixed_numbers_never_reused :
    let as : List Action := [[.connect], List.replicate 5 (.step 0 .fine), [.send "GetOrders" "{}"],
      List.replicate 4 (.step 2 .fine), [.send "SendOrder" "{}"], List.replicate 3 (.step 3 .fine),
      [.step 3 .timesOut, .step 1 (.meets .failure), .step 1 .fine, .send "LogOut" "{}",
        .step 4 .fine, .connect],
      List.replicate 5 (.step 5 .fine), [.send "GetOrders" "{}"],
      List.replicate 4 (.step 7 .fine)].flatten
    calls as < 2 ^ 62 ∧ Numbered ((new {}).run as) ((new {}).marks as) ∧
      ((new {}).run as).shared.requests.map Frame.sequence = [2, 6] := by
  intro as
  have h : calls as < 2 ^ 62 := by decide
  exact ⟨h, numbers_never_reused {} as h, rfl⟩

end VenueGateway.Client
