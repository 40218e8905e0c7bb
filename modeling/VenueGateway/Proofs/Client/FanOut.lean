import VenueGateway.Proofs.Client.Reconnect
import VenueGateway.Proofs.Venue.Frame

/-!
What listeners hear. Whatever else the tasks of a client do, listeners hear of nothing but the data
that readers meet, and of that they all hear, in the order in which it is met, each once of every
frame that can be read, whoever of them breaks off. What was met is counted, as a frame or as a
failure. A connection that stands goes on standing while its reader meets only data and pings.
-/

namespace VenueGateway

namespace Client

namespace Inbound

def frame? : Inbound → Option Frame
  | text s => (Frame.decode s).toOption
  | binary data => (Text.ofBytes? data).bind fun s => (Frame.decode s).toOption
  | _ => none

end Inbound

/-- From one state to another readers have met the data given, and listeners have heard of it. -/
structure Hears (s s' : Shared) (met : List Inbound) : Prop where
  listeners : s'.listeners = s.listeners
  heard : s'.heard = s.heard ++ (met.filterMap (·.frame?)).flatMap s.hearings
  tally : s'.tally = s.tally + met.length

theorem Hears.of_deaf {s s' : Shared} (hl : s'.listeners = s.listeners) (hh : s'.heard = s.heard)
    (ht : s'.tally = s.tally) : Hears s s' [] :=
  ⟨hl, by simp [hh], ht⟩

theorem Hears.refl (s : Shared) : Hears s s [] := .of_deaf rfl rfl rfl

theorem Hears.trans {s s' s'' : Shared} {met met' : List Inbound} (h : Hears s s' met)
    (h' : Hears s' s'' met') :
    Hears s s'' (met ++ met') where
  listeners := h'.listeners.trans h.listeners
  heard := by
    have hsame : s'.hearings = s.hearings := by
      funext f
      rw [Shared.hearings, h.listeners, Shared.hearings]
    rw [h'.heard, h.heard, hsame, List.filterMap_append, List.flatMap_append, List.append_assoc]
  tally := by rw [h'.tally, h.tally, List.length_append, Nat.add_assoc]

/-- A text is heard of if it spells a frame, and counted in any case. -/
theorem hears_dispatch (s : Shared) (text : String) : Hears s (s.dispatch text) [.text text] := by
  cases hd : Frame.decode text with
  | ok f =>
    have hframe : (Inbound.text text).frame? = some f := by
      simp [Inbound.frame?, hd, Except.toOption]
    simp only [Shared.dispatch, hd]
    exact ⟨rfl, by simp [hframe], Shared.tally_frame rfl⟩
  | error e =>
    have hframe : (Inbound.text text).frame? = none := by simp [Inbound.frame?, hd, Except.toOption]
    simp only [Shared.dispatch, hd]
    exact ⟨rfl, by simp [hframe], Shared.tally_failure rfl⟩

theorem hears_dispatchBytes (s : Shared) (data : List UInt8) :
    Hears s (s.dispatchBytes data) [.binary data] := by
  cases htext : Text.ofBytes? data with
  | some text =>
    have hframe : (Inbound.binary data).frame? = (Inbound.text text).frame? := by
      simp only [Inbound.frame?, htext, Option.bind_some]
    have hsame : [Inbound.binary data].filterMap (·.frame?) =
        [Inbound.text text].filterMap (·.frame?) := by
      simp only [List.filterMap_cons, hframe]
    have hdispatch := hears_dispatch s text
    simp only [Shared.dispatchBytes, htext]
    exact ⟨hdispatch.listeners, hsame ▸ hdispatch.heard, hdispatch.tally⟩
  | none =>
    have hframe : (Inbound.binary data).frame? = none := by simp [Inbound.frame?, htext]
    simp only [Shared.dispatchBytes, htext]
    exact ⟨rfl, by simp [hframe], Shared.tally_failure rfl⟩

theorem hears_meet (s : Shared) {what : Inbound} (hdata : what.isData = true) :
    Hears s (s.meet what) [what] := by
  cases what with
  | text text => exact hears_dispatch s text
  | binary data => exact hears_dispatchBytes s data
  | _ => cases hdata

theorem hears_install (s : Shared) (k : Nat) : Hears s (s.install k) [] := by
  unfold Shared.install
  split <;> exact .of_deaf rfl rfl rfl

theorem Mute.hears {s s' : Shared} (h : Mute s s') : Hears s s' [] :=
  .of_deaf h.listeners h.heard h.tally

section Steps

variable {s : Shared} {o : Outcome}

theorem hears_of_mute_or {s' : Shared} (h : Mute s s' ∨ ∃ k, s' = s.install k ∧ s.closed = false) :
    Hears s s' [] := by
  obtain hs | ⟨k, rfl, -⟩ := h
  · exact hs.hears
  · exact hears_install s k

theorem SendPhase.Move.hears {operation payload : String} {p : SendPhase} {a : Advance SendPhase}
    (h : p.Move operation payload s a) : Hears s a.shared [] := by
  cases h with
  | writes => exact .of_deaf rfl rfl (Shared.tally_increment rfl rfl Counter.noConfusion)
  | _ => exact .of_deaf rfl rfl rfl

theorem ReadPhase.Move.hears {connection : Nat} {p : ReadPhase} {a : Advance ReadPhase}
    (h : p.Move connection s o a) : Hears s a.shared (p.meets o) := by
  cases h with
  | reads h =>
    cases h with
    | hears hdata =>
      rw [meets, if_pos hdata]
      exact hears_meet s hdata
    | answered hs => exact .of_deaf hs.mute.listeners hs.mute.heard hs.mute.tally
    | _ => exact .of_deaf rfl rfl rfl
  | drops clean => exact .of_deaf rfl rfl rfl
  | releases hs => exact hs.mute.hears
  | schedules h => exact h.mute.hears

theorem Task.Move.hears {t : Task} {a : Advance Task} (h : t.Move s o a) :
    Hears s a.shared (t.meets o) := by
  cases h with
  | connect h => exact hears_of_mute_or h.mute_or
  | send h => exact h.hears
  | close h => exact h.mute.hears
  | read h => exact h.hears
  | retry h => exact hears_of_mute_or h.mute_or

/-- A task that has no step meets nothing. -/
theorem Task.meets_eq_nil {t : Task} (h : t.step? s o = none) : t.meets o = [] := by
  cases t with
  | read connection p =>
    cases p with
    | waiting =>
      cases o with
      | meets what =>
        cases what with
        | text text => cases h
        | binary data => cases h
        | _ => rfl
      | _ => rfl
    | _ => rfl
  | _ => rfl

end Steps

variable {c : Client}

def metAt (c : Client) : Action → List Inbound
  | .step i o => (c.tasks[i]?.map fun t => t.meets o).getD []
  | _ => []

def met (c : Client) : List Action → List Inbound
  | [] => []
  | a :: as => c.metAt a ++ met (c.act a) as

def Action.leavesListeners : Action → Bool
  | .listen _ => false
  | _ => true

/-- Whatever happens, listeners hear of the data that is met, and of nothing else. -/
theorem hears_act {a : Action} (ha : a.leavesListeners = true) :
    Hears c.shared (c.act a).shared (c.metAt a) := by
  cases a with
  | listen listener => cases ha
  | elapse millis => exact .of_deaf rfl rfl rfl
  | step i o =>
    change Hears c.shared (c.step i o).shared _
    cases hb : c.advance? i o with
    | none =>
      have hnone : c.metAt (.step i o) = [] := by
        cases ht : c.tasks[i]? with
        | none => rw [metAt, ht]; rfl
        | some t =>
          rw [Client.advance?, ht, Option.bind_some] at hb
          rw [metAt, ht]
          exact Task.meets_eq_nil hb
      rw [Client.step, hb, hnone]
      exact .refl c.shared
    | some b =>
      rw [step_of_advance hb]
      obtain ⟨t, ht, hstep⟩ := Option.bind_eq_some_iff.mp hb
      have hmet : c.metAt (.step i o) = t.meets o := by rw [metAt, ht]; rfl
      rw [hmet]
      exact (Task.move_of_step hstep).hears
  | _ => exact .refl c.shared

theorem hears_run {as : List Action} (ha : ∀ a ∈ as, a.leavesListeners = true) :
    Hears c.shared (c.run as).shared (c.met as) := by
  induction as generalizing c with
  | nil => exact .refl c.shared
  | cons a as ih =>
    exact (hears_act (ha a List.mem_cons_self)).trans (ih fun a' ha' =>
      ha a' (List.mem_cons_of_mem _ ha'))

def Shared.heardBy (s : Shared) (l : Nat) : List Hearing := s.heard.filter fun h => h.listener = l

/-- Each place of a list is met once. -/
theorem filter_zipIdx {α : Type} (as : List α) (first i : Nat) :
    ((as.zipIdx first).filter fun p => p.2 = first + i) = (as[i]?.map (·, first + i)).toList := by
  induction as generalizing first i with
  | nil => rfl
  | cons a as ih =>
    rw [List.zipIdx_cons, List.filter_cons]
    cases i with
    | zero =>
      have hrest : ((as.zipIdx (first + 1)).filter fun p => p.2 = first) = [] := by
        refine List.filter_eq_nil_iff.mpr fun p hp => ?_
        have hle := List.le_snd_of_mem_zipIdx hp
        simp only [decide_eq_true_eq]
        omega
      simp [hrest]
    | succ i =>
      have hplace : first + (i + 1) = first + 1 + i := by omega
      have hne : first ≠ first + 1 + i := by omega
      rw [hplace, ih]
      simp [hne]

/-- Of one frame, each listener hears once. -/
theorem Shared.filter_hearings {s : Shared} {l : Nat} {hearer : Hearer}
    (hl : s.listeners[l]? = some hearer) (f : Frame) :
    ((s.hearings f).filter fun h => h.listener = l) = [⟨l, f, hearer f⟩] := by
  have hplace := filter_zipIdx s.listeners 0 l
  rw [Nat.zero_add, hl] at hplace
  rw [Shared.hearings, List.filter_map]
  change List.map _ ((s.listeners.zipIdx 0).filter fun p => p.2 = l) = _
  rw [hplace]
  rfl

/-- Each listener hears of all frames that can be read, each once and in order. -/
theorem Hears.heardBy {s s' : Shared} {met : List Inbound} (h : Hears s s' met) {l : Nat}
    {hearer : Hearer} (hl : s.listeners[l]? = some hearer) :
    s'.heardBy l = s.heardBy l ++ (met.filterMap (·.frame?)).map fun f => ⟨l, f, hearer f⟩ := by
  have hframes : ∀ fs : List Frame,
      (fs.flatMap s.hearings).filter (fun h => h.listener = l) =
        fs.map fun f => ⟨l, f, hearer f⟩ := by
    intro fs
    induction fs with
    | nil => rfl
    | cons f fs ih => rw [List.flatMap_cons, List.filter_append, Shared.filter_hearings hl, ih]; rfl
  rw [Shared.heardBy, h.heard, List.filter_append, hframes, Shared.heardBy]

def ReadPhase.isOpen : ReadPhase → Bool
  | waiting => true
  | answering _ => true
  | ponging .. => true
  | _ => false

/-- A connection stands: its reader reads and was not told to stop, and the state shows that it is
there. -/
structure Stands (c : Client) (i k : Nat) : Prop where
  reader : ∃ p, c.tasks[i]? = some (.read k p) ∧ p.isOpen = true
  state : c.shared.state = .connected
  lasting : c.shared.isCancelled k = false

def Outcome.sparesReader : Outcome → Bool
  | .meets (.close _) => false
  | .meets .failure => false
  | _ => true

/-- A reader that was not told to stop reads on, unless it meets the end. -/
theorem ReadPhase.Move.stands {k : Nat} {s : Shared} {o : Outcome} {p : ReadPhase}
    {a : Advance ReadPhase} (h : p.Move k s o a) (hp : p.isOpen = true) (ho : o.sparesReader = true)
    (hk : s.isCancelled k = false) :
    KeepsLine s a.shared ∧ a.phase.isOpen = true := by
  cases h with
  | reads h =>
    refine ⟨h.line, ?_⟩
    cases h with
    | stops hcancelled => cases hk.symm.trans hcancelled
    | closes | breaks => cases ho
    | leaves => cases hp
    | _ => rfl
  | _ => cases hp

def Task.sends : Task → Bool
  | send .. => true
  | _ => false

/-- Whether an action leaves a connection standing: requests are sent, time passes, and its reader
does not meet the end. -/
def gentle (c : Client) (i : Nat) : Action → Bool
  | .send _ _ => true
  | .elapse _ => true
  | .step j o => if j = i then o.sparesReader else c.tasks[j]?.all (·.sends)
  | _ => false

/-- A connection stands on while requests are sent, time passes, and its reader does not meet the
end. -/
theorem Stands.act {i k : Nat} (h : c.Stands i k) {a : Action} (hg : c.gentle i a = true) :
    (c.act a).Stands i k := by
  obtain ⟨⟨p, hreader, hopen⟩, hstate, hlasting⟩ := h
  have hlt := (List.getElem?_eq_some_iff.mp hreader).1
  cases a with
  | send operation payload =>
    refine ⟨⟨p, ?_, hopen⟩, hstate, hlasting⟩
    rw [Client.act, Client.start, List.getElem?_append_left hlt, hreader]
  | elapse millis => exact ⟨⟨p, hreader, hopen⟩, hstate, hlasting⟩
  | step j o =>
    change (c.step j o).Stands i k
    cases hb : c.advance? j o with
    | none =>
      rw [Client.step, hb]
      exact ⟨⟨p, hreader, hopen⟩, hstate, hlasting⟩
    | some b =>
      obtain ⟨t, ht, hstep⟩ := Option.bind_eq_some_iff.mp hb
      rw [step_of_advance hb]
      by_cases hji : j = i
      · subst hji
        obtain rfl : t = .read k p := Option.some.inj (ht.symm.trans hreader)
        obtain ⟨a, ha, rfl⟩ := Option.map_eq_some_iff.mp hstep
        have hspares : o.sparesReader = true := by simpa [gentle] using hg
        obtain ⟨hline, hopen'⟩ := (ReadPhase.move_of_step ha).stands hopen hspares hlasting
        refine ⟨⟨a.phase, ?_, hopen'⟩, hline.state.trans hstate, ?_⟩
        · simp [Advance.map, List.getElem?_append_left, hlt]
        · change a.shared.isCancelled k = false
          rw [hline.cancelled, hlasting]
      · have hsends : t.sends = true := by simpa [gentle, hji, ht] using hg
        cases t with
        | send operation payload phase =>
          obtain ⟨a, ha, rfl⟩ := Option.map_eq_some_iff.mp hstep
          have hline := (SendPhase.move_of_step ha).line
          refine ⟨⟨p, ?_, hopen⟩, hline.state.trans hstate, ?_⟩
          · rw [List.getElem?_append_left (by rw [List.length_set]; exact hlt),
              List.getElem?_set_ne hji, hreader]
          · change a.shared.isCancelled k = false
            rw [hline.cancelled, hlasting]
        | _ => cases hsends
  | _ => cases hg

def Gently (c : Client) (i : Nat) : List Action → Prop
  | [] => True
  | a :: as => c.gentle i a = true ∧ (c.act a).Gently i as

theorem Stands.run {i k : Nat} (h : c.Stands i k) {as : List Action} (hg : c.Gently i as) :
    (c.run as).Stands i k := by
  induction as generalizing c with
  | nil => exact h
  | cons a as ih => exact ih (h.act hg.1) hg.2

theorem leavesListeners_of_gently {i : Nat} {as : List Action} (hg : c.Gently i as) :
    ∀ a ∈ as, a.leavesListeners = true := by
  induction as generalizing c with
  | nil => exact List.forall_mem_nil _
  | cons a as ih =>
    refine List.forall_mem_cons.mpr ⟨?_, ih hg.2⟩
    cases a with
    | listen listener => cases hg.1
    | _ => rfl

/-- A reader that meets nothing but data. -/
theorem met_data {i k : Nat} (hr : c.tasks[i]? = some (.read k .waiting)) {data : List Inbound}
    (hd : ∀ what ∈ data, what.isData = true) :
    c.Gently i (data.map fun what => .step i (.meets what)) ∧
      c.met (data.map fun what => .step i (.meets what)) = data := by
  induction data generalizing c with
  | nil => exact ⟨trivial, rfl⟩
  | cons what data ih =>
    have hwhat := hd what List.mem_cons_self
    have hspares : (Outcome.meets what).sparesReader = true := by
      cases what with
      | text text => rfl
      | binary data => rfl
      | _ => cases hwhat
    have hmet : c.metAt (.step i (.meets what)) = [what] := by
      simp [metAt, hr, Task.meets, ReadPhase.meets, hwhat]
    have hnext : (c.act (.step i (.meets what))).tasks[i]? = some (.read k .waiting) := by
      obtain ⟨s, hstep⟩ : ∃ s, c.advance? i (.meets what) = some ⟨s, .read k .waiting, []⟩ := by
        rw [Client.advance?, hr, Option.bind_some]
        cases what with
        | text text => exact ⟨_, rfl⟩
        | binary data => exact ⟨_, rfl⟩
        | _ => cases hwhat
      have hlt := (List.getElem?_eq_some_iff.mp hr).1
      change (c.step i (.meets what)).tasks[i]? = _
      rw [step_of_advance hstep]
      simp [hlt]
    obtain ⟨hgently, hrest⟩ := ih hnext fun what' hwhat' => hd what' (List.mem_cons_of_mem _ hwhat')
    refine ⟨⟨by simpa [gentle] using hspares, hgently⟩, ?_⟩
    rw [List.map_cons, met, hmet, hrest]
    rfl

/-- What a run has listeners hear of the data that is met in it. -/
structure FansOut (c : Client) (as : List Action) (data : List Inbound) : Prop where
  /-- Each listener hears of every frame that can be read, once, in the order of arrival, and of
  nothing else. -/
  heardBy : ∀ l hearer, c.shared.listeners[l]? = some hearer →
    (c.run as).shared.heardBy l =
      c.shared.heardBy l ++ (data.filterMap (·.frame?)).map fun f => ⟨l, f, hearer f⟩
  /-- Nobody else hears, and of each frame all hear before anybody hears of the next. -/
  heard : (c.run as).shared.heard = c.shared.heard ++
    (data.filterMap (·.frame?)).flatMap c.shared.hearings
  /-- Everything is counted once, under its operation or as a failure. -/
  counted : (c.run as).shared.metrics.total Counter.countsReceived +
    (c.run as).shared.metrics.count .parseFailures =
    c.shared.metrics.total Counter.countsReceived +
      c.shared.metrics.count .parseFailures + data.length

theorem Hears.fansOut {as : List Action} {data : List Inbound}
    (h : Hears c.shared (c.run as).shared data) :
    FansOut c as data :=
  ⟨fun _ _ => h.heardBy, h.heard, h.tally⟩

/-- Whatever a client does, all its listeners hear of all the data that its readers meet, whoever of
them breaks off. A connection that stands stands on while its reader does not meet the end of it,
and while nothing comes but data all of it is heard. -/
theorem inbound_fan_out (c : Client) :
    (∀ as, (∀ a ∈ as, a.leavesListeners = true) → FansOut c as (c.met as)) ∧
      (∀ i k, c.Stands i k → ∀ as, c.Gently i as → (c.run as).Stands i k) ∧
      ∀ i k, c.Stands i k → c.tasks[i]? = some (.read k .waiting) →
      ∀ data, (∀ what ∈ data, what.isData = true) →
        FansOut c (data.map fun what => .step i (.meets what)) data ∧
          (c.run (data.map fun what => .step i (.meets what))).shared.state = .connected := by
  refine ⟨fun as ha => (hears_run ha).fansOut, fun i k hs as hg => hs.run hg, ?_⟩
  intro i k hs hr data hd
  obtain ⟨hgently, hmet⟩ := met_data hr hd
  have hheard := hears_run (c := c) (leavesListeners_of_gently hgently)
  rw [hmet] at hheard
  exact ⟨hheard.fansOut, (hs.run hgently).state⟩

/-- A client with a connection, one listener that always breaks off, one that breaks off on pings,
and one that never does. -/
def stage : Client :=
  (((Client.new {}).listen fun _ => true).listen fun f => f.operation = "Ping").listen
    (fun _ => false)
    |>.connect .fine |>.1

theorem stage_fans_out :
    let ping : Frame := ⟨.event, 2, "Ping", "{}"⟩
    let logout : Frame := ⟨.response, 4, "LogOut", ""⟩
    let data : List Inbound := [.text ping.encode, .text "", .binary [255], .text logout.encode]
    let after := (stage.run (data.map fun what => .step 1 (.meets what))).shared
    let busy : List Action := [.send "Ping" "{}", .step 1 (.meets (.ping [7])), .step 2 .fine,
      .step 1 .fine, .elapse 5, .step 1 .fine, .step 2 .fine, .step 1 (.meets (.text ping.encode))]
    stage.Stands 1 0 ∧ after.heardBy 0 = [⟨0, ping, true⟩, ⟨0, logout, true⟩] ∧
      after.heardBy 1 = [⟨1, ping, true⟩, ⟨1, logout, false⟩] ∧
      after.heardBy 2 = [⟨2, ping, false⟩, ⟨2, logout, false⟩] ∧ after.state = .connected ∧
        after.tally = 4 ∧
      stage.Gently 1 busy ∧ (stage.run busy).Stands 1 0 ∧ (stage.run busy).shared.heardBy 1 =
        [⟨1, ping, true⟩] := by
  intro ping logout data after busy
  have hstands : stage.Stands 1 0 := ⟨⟨.waiting, rfl, rfl⟩, rfl, rfl⟩
  have hdata : ∀ what ∈ data, what.isData = true := by simp [data, Inbound.isData]
  have hframes : data.filterMap (·.frame?) = [ping, logout] := by
    have hempty : Frame.decode "" = .error (.notAnObject "") := by decide +kernel
    have hbytes : Text.ofBytes? [255] = none := by decide +kernel
    simp [data, Inbound.frame?, Frame.decode_unpadded, hempty, hbytes, Except.toOption]
  obtain ⟨hany, hlasts, honly⟩ := inbound_fan_out stage
  obtain ⟨hfans, hstate⟩ := honly 1 0 hstands rfl data hdata
  have hheard := hfans.heardBy
  rw [hframes] at hheard
  have hgently : stage.Gently 1 busy := ⟨rfl, rfl, rfl, rfl, rfl, rfl, rfl, rfl, trivial⟩
  have hbusy := (hany busy (leavesListeners_of_gently hgently)).heardBy 1 _ rfl
  have hone : (stage.met busy).filterMap (·.frame?) = [ping] := by
    change [Inbound.text ping.encode].filterMap (·.frame?) = [ping]
    simp [Inbound.frame?, Frame.decode_unpadded, Except.toOption]
  rw [hone] at hbusy
  exact ⟨hstands, hheard 0 _ rfl, hheard 1 _ rfl, hheard 2 _ rfl, hstate, hfans.counted, hgently,
    hlasts 1 0 hstands busy hgently, hbusy⟩

end Client

end VenueGateway
