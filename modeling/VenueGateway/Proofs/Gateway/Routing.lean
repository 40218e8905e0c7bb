import Mathlib.Data.List.Induction
import VenueGateway.Gateway.Replies
import VenueGateway.Proofs.Gateway.Statuses

/-!
Which handler runs on a frame. Handlers are registered one after another under any names, and of
those whose name is the operation of the frame, but for the case of ASCII letters, the last one
runs, once, and none of the others. So the replies to the desk's own requests reach the desk unless
somebody registers for them behind it.
-/

namespace VenueGateway

theorem Text.lower_eq_iff {s t : String} : lower s = lower t ↔ SameLetters s t := by
  rw [← sameIgnoringCase_iff, sameIgnoringCase, beq_iff_eq]

namespace Session

variable {H : Type}

/-- A handler is registered under a name, but for the case of ASCII letters. -/
def Registered (rs : List (String × H)) (name : String) : Prop :=
  ∃ r ∈ rs, Text.SameLetters r.1 name

/-- Of the handlers that are registered under a name, but for the case of ASCII letters, this is the
last. -/
def Latest (rs : List (String × H)) (name : String) (handler : H) : Prop :=
  ∃ before registered after, rs = before ++ (registered, handler) :: after ∧
    Text.SameLetters registered name ∧
    ¬ Registered after name

/-- A session hands frames to the handlers of some registrations. Nothing is said of what handlers
do to which world, so one that runs does so once, and no other leaves a trace. -/
structure Routes (rs : List (String × H)) (s : Session H) : Prop where
  handles_iff : ∀ name, s.handles name = true ↔ Registered rs name
  exists_latest : ∀ name, Registered rs name → ∃ handler, Latest rs name handler
  handled : ∀ f handler, Latest rs f.operation handler →
    ∀ {W : Type} (run : H → Frame → W → W) w, s.handle run f w = run handler f w
  passed_over : ∀ f, ¬ Registered rs f.operation → ∀ {W : Type} (run : H → Frame → W → W) w,
    s.handle run f w = w

section Registering

variable {s : Session H} {rs : List (String × H)} {name : String} {handler : H}

theorem registered_concat_iff {r : String × H} :
    Registered (rs ++ [r]) name ↔ Registered rs name ∨ Text.SameLetters r.1 name := by
  simp only [Registered, List.mem_append, List.mem_singleton, or_and_right, exists_or,
    exists_eq_left]

/-- A registration takes the place of those before it under the same letters. -/
theorem latest_concat_iff {r : String × H} : Latest (rs ++ [r]) name handler ↔
    Text.SameLetters r.1 name ∧ r.2 = handler ∨ ¬ Text.SameLetters r.1 name ∧
    Latest rs name handler := by
  constructor
  · rintro ⟨before, registered, after, hsplit, hsame, hlast⟩
    cases after using List.reverseRecOn with
    | nil =>
      obtain ⟨-, rfl⟩ := List.append_singleton_inj.mp hsplit
      exact .inl ⟨hsame, rfl⟩
    | append_singleton after r' =>
      rw [registered_concat_iff, not_or] at hlast
      rw [← List.cons_append, ← List.append_assoc] at hsplit
      obtain ⟨rfl, rfl⟩ := List.append_singleton_inj.mp hsplit
      exact .inr ⟨hlast.2, before, registered, after, rfl, hsame, hlast.1⟩
  · rintro (⟨hsame, rfl⟩ | ⟨hother, before, registered, after, rfl, hsame, hlast⟩)
    · exact ⟨rs, r.1, [], rfl, hsame, fun ⟨_, hr, _⟩ => List.not_mem_nil hr⟩
    · refine ⟨before, registered, after ++ [r], by simp, hsame, ?_⟩
      rw [registered_concat_iff, not_or]
      exact ⟨hlast, hother⟩

theorem handler?_register_of_same {other : String} (hsame : Text.SameLetters name other) :
    (s.register name handler).handler? other = some handler := by
  rw [handler?_register, if_pos (Text.lower_eq_iff.mpr hsame)]

theorem handler?_register_of_other {other : String} (hother : ¬ Text.SameLetters name other) :
    (s.register name handler).handler? other = s.handler? other := by
  rw [handler?_register, if_neg fun h => hother (Text.lower_eq_iff.mp h)]

theorem registerAll_append (s : Session H) (rs rs' : List (String × H)) :
    s.registerAll (rs ++ rs') = (s.registerAll rs).registerAll rs' := List.foldl_append

theorem registerAll_concat (s : Session H) (rs : List (String × H)) (r : String × H) :
    s.registerAll (rs ++ [r]) = (s.registerAll rs).register r.1 r.2 := s.registerAll_append rs [r]

/-- Registrations under other names make no difference. -/
theorem handler?_registerAll_of_not_registered (h : ¬ Registered rs name) :
    (s.registerAll rs).handler? name = s.handler? name := by
  induction rs using List.reverseRecOn with
  | nil => rfl
  | append_singleton rs r ih =>
    rw [registered_concat_iff, not_or] at h
    rw [registerAll_concat, handler?_register_of_other h.2, ih h.1]

/-- By induction on the registrations: what is found is the latest. -/
theorem handler?_registerAll_of_latest (h : Latest rs name handler) :
    (s.registerAll rs).handler? name = some handler := by
  induction rs using List.reverseRecOn with
  | nil =>
    obtain ⟨before, registered, after, hsplit, -⟩ := h
    simp at hsplit
  | append_singleton rs r ih =>
    rw [registerAll_concat]
    rcases latest_concat_iff.mp h with ⟨hsame, rfl⟩ | ⟨hother, hlatest⟩
    · exact handler?_register_of_same hsame
    · rw [handler?_register_of_other hother, ih hlatest]

theorem Registered.exists_latest (h : Registered rs name) : ∃ handler, Latest rs name handler := by
  induction rs using List.reverseRecOn with
  | nil =>
    obtain ⟨r, hr, -⟩ := h
    cases hr
  | append_singleton rs r ih =>
    by_cases hsame : Text.SameLetters r.1 name
    · exact ⟨r.2, latest_concat_iff.mpr (.inl ⟨hsame, rfl⟩)⟩
    · obtain ⟨handler, hlatest⟩ := ih ((registered_concat_iff.mp h).resolve_right hsame)
      exact ⟨handler, latest_concat_iff.mpr (.inr ⟨hsame, hlatest⟩)⟩

theorem handles_eq_isSome (s : Session H) (name : String) :
    s.handles name = (s.handler? name).isSome :=
  Assoc.contains_eq_isSome _ _

/-- Registrations are all that routing depends on. -/
theorem routes_registerAll (credentials : Option Credentials) (rs : List (String × H)) :
    Routes rs (({ credentials } : Session H).registerAll rs) where
  handles_iff name := by
    rw [handles_eq_isSome]
    by_cases h : Registered rs name
    · obtain ⟨handler, hlatest⟩ := h.exists_latest
      rw [handler?_registerAll_of_latest hlatest]
      exact iff_of_true rfl h
    · rw [handler?_registerAll_of_not_registered h]
      exact iff_of_false nofun h
  exists_latest name h := h.exists_latest
  handled f handler h W run w := by rw [handle, handler?_registerAll_of_latest h]
  passed_over f h W run w := by
    rw [handle, handler?_registerAll_of_not_registered h]
    rfl

end Registering

end Session

def ReplyKind.operation : ReplyKind → String
  | order => Operation.sendOrder
  | cancel => Operation.cancelOrder
  | status => Operation.orderStatus
  | instruments => Operation.instruments

namespace Gateway

/-- The handlers of the desk, which stand behind the one of the session itself. -/
def deskHandlers : List (String × ReplyHandler) := replyHandlers.tail

/-- The handlers of a session that others register for, before the desk is there and after it. -/
def handlersAround (before after : List (String × ReplyHandler)) : List (String × ReplyHandler) :=
  (Operation.authenticate, .login) :: (before ++ deskHandlers ++ after)

theorem deliver_eq_handle (g : Gateway) (f : Frame) :
    g.deliver f = g.session.handle (fun handler f g => g.runHandler f handler) f g := by
  rw [deliver, Session.handle]
  cases g.session.handler? f.operation <;> rfl

/-- The desk registers for each kind of reply, and the names of their operations are all
different. -/
theorem handler?_deskHandlers (s : Session ReplyHandler) {kind : ReplyKind} {name : String}
    (h : Text.SameLetters name kind.operation) :
    (s.registerAll deskHandlers).handler? name = some (.reply kind) := by
  simp only [deskHandlers, replyHandlers, List.tail_cons, Session.registerAll, List.foldl_cons,
    List.foldl_nil, Session.handler?_register, Text.lower_eq_iff.mpr h]
  cases kind with
  | order => rw [if_neg (by decide), if_neg (by decide), if_neg (by decide), if_pos (by decide)]
  | cancel => rw [if_neg (by decide), if_neg (by decide), if_pos (by decide)]
  | status => rw [if_neg (by decide), if_pos (by decide)]
  | instruments => rw [if_pos (by decide)]

theorem handler?_handlersAround (credentials : Option Credentials)
    (before : List (String × ReplyHandler)) {after : List (String × ReplyHandler)}
    {kind : ReplyKind} {name : String} (h : Text.SameLetters name kind.operation)
    (hafter : ¬ Session.Registered after name) :
    (({ credentials } : Session ReplyHandler).registerAll
      (handlersAround before after)).handler? name =
      some (.reply kind) := by
  have hsplit : handlersAround before after =
    ((Operation.authenticate, .login) :: before ++ deskHandlers) ++ after := rfl
  rw [hsplit, Session.registerAll_append, Session.handler?_registerAll_of_not_registered hafter,
    Session.registerAll_append, handler?_deskHandlers _ h]

/-- Of all handlers that are registered under the operation of a frame, but for the case of ASCII
letters, the last one runs, once, and nobody else does. The desk's own handlers are among them, so
it hears of what it asked for, in whatever case the venue writes it, unless somebody registers for
the same behind it. -/
theorem routed_to_latest :
    (∀ {H : Type} (credentials : Option Credentials) (rs : List (String × H)),
      Session.Routes rs (({ credentials } : Session H).registerAll rs)) ∧
    (∀ (g : Gateway) (f : Frame),
      g.deliver f = g.session.handle (fun handler f g => g.runHandler f handler) f g) ∧
    ∀ (g : Gateway) (credentials : Option Credentials) (before after : List
      (String × ReplyHandler)),
      let g :=
        { g with
        session :=
          ({ credentials } : Session ReplyHandler).registerAll (handlersAround before after) }
      ∀ (kind : ReplyKind) (f : Frame), Text.SameLetters f.operation kind.operation →
        ¬ Session.Registered after f.operation → g.deliver f = g.runHandler f (.reply kind) := by
  refine ⟨fun credentials rs => Session.routes_registerAll credentials rs, deliver_eq_handle, ?_⟩
  intro g credentials before after g kind f hkind hafter
  have hhandler : g.session.handler? f.operation = some (.reply kind) :=
    handler?_handlersAround credentials before hkind hafter
  rw [deliver, hhandler]

/-- Somebody registers for the answers to orders behind the desk, and for operations of which it
knows nothing. -/
def outbidden : List (String × ReplyHandler) :=
  [("sendORDER", .note "late"), ("\u212Aill", .note "strange")]

/-- The answer to a cancellation still reaches the desk, in whatever case it comes, and the one to
an order does not. A letter that only Unicode would fold is a letter of its own. -/
theorem outbidden_routed :
    let g := { new ⟨1, 9⟩ "kiiex" none .empty 4 ⟨0⟩ [] with
      session :=
        ({} : Session ReplyHandler).registerAll
        (handlersAround [("CANCELORDER", .note "early")] outbidden) }
    let answer (operation : String) : Frame := ⟨.response, 2, operation, "\x7b\x7d"⟩
    Text.SameLetters "CancelORDER" (ReplyKind.cancel.operation) ∧
      ¬ Session.Registered outbidden "CancelORDER" ∧
      g.deliver (answer "CancelORDER") = g.runHandler (answer "CancelORDER") (.reply .cancel) ∧
      g.deliver (answer "SENDorder") = g.runHandler (answer "SENDorder") (.note "late") ∧
      g.deliver (answer "kill") = g := by
  intro g answer
  have hcancel : Text.SameLetters "CancelORDER" ReplyKind.cancel.operation :=
    Text.lower_eq_iff.mp (by decide)
  have hafter : ¬ Session.Registered outbidden "CancelORDER" := by
    simp only [Session.Registered, outbidden, ← Text.lower_eq_iff]
    decide
  have hdesk :=
    routed_to_latest.2.2 (new ⟨1, 9⟩ "kiiex" none .empty 4 ⟨0⟩ []) none
    [("CANCELORDER", .note "early")]
    outbidden .cancel (answer "CancelORDER") hcancel hafter
  have hlate : g.session.handler? "SENDorder" = some (.note "late") := by decide
  have hnobody : g.session.handler? "kill" = none := by decide
  refine ⟨hcancel, hafter, hdesk, ?_, ?_⟩
  · simp only [deliver, answer, hlate]
  · simp only [deliver, answer, hnobody]

end Gateway

end VenueGateway
