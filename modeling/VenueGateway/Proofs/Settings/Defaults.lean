import VenueGateway.Proofs.Text.Spelling
import VenueGateway.Settings

/-!
Settings that can be worked with, whatever is set. Every setting has a variable of its own and a
default. The variable counts where its text can be read, and the default stands in for every other
text; neither is ever blank, nor nought where nought would stop the polling or let reconnections
spin.
-/

namespace VenueGateway

/-- How the text of a variable is read: what it gives, and what holds of all that is given. -/
structure Reading (α : Type) where
  Gives : String → α → Prop
  Sound : α → Prop
  sound : ∀ {text a}, Gives text a → Sound a

namespace Reading

variable {α : Type}

def wording : Reading String where
  Gives text a := a = text ∧ ¬ Text.Blank text
  Sound a := ¬ Text.Blank a
  sound h := h.1 ▸ h.2

def number (Allowed : Nat → Prop) : Reading Nat where
  Gives text n := Text.SpellsNat text n ∧ Allowed n
  Sound := Allowed
  sound h := h.2

def seconds (Allowed : Nat → Prop) : Reading Duration where
  Gives text d := ∃ n, Text.SpellsNat text n ∧ Allowed n ∧ d = .ofSeconds n
  Sound d := ∃ n, Allowed n ∧ d = .ofSeconds n
  sound := fun ⟨n, _, hn, hd⟩ => ⟨n, hn, hd⟩

/-- What a variable gives, or the default where it is absent or cannot be read. -/
structure Settles (r : Reading α) (default : α) (value : Option String) (a : α) : Prop where
  given : ∀ text b, value = some text → r.Gives text b → a = b
  fallback : (∀ text b, value = some text → ¬ r.Gives text b) → a = default

variable {r : Reading α} {default a b : α} {value : Option String}

theorem settles_none : r.Settles default none default := ⟨nofun, fun _ => rfl⟩

theorem settles_some {text : String} {o : Option α} (h : ∀ b, o = some b ↔ r.Gives text b) :
    r.Settles default (some text) (o.getD default) := by
  constructor
  · rintro _ b ⟨⟩ hb
    rw [(h b).mpr hb, Option.getD_some]
  · intro hnone
    have ho : o = none :=
      Option.eq_none_iff_forall_ne_some.mpr fun b hb => hnone text b rfl ((h b).mp hb)
    rw [ho, Option.getD_none]

theorem Settles.eq_default_or (h : r.Settles default value a) :
    a = default ∨ ∃ text, value = some text ∧ r.Gives text a := by
  by_cases hgiven : ∃ text b, value = some text ∧ r.Gives text b
  · obtain ⟨text, b, hvalue, hb⟩ := hgiven
    obtain rfl := h.given text b hvalue hb
    exact .inr ⟨text, hvalue, hb⟩
  · exact .inl (h.fallback fun text b hvalue hb => hgiven ⟨text, b, hvalue, hb⟩)

/-- A setting is sound where its default is. -/
theorem Settles.sound (h : r.Settles default value a) (hdefault : r.Sound default) : r.Sound a := by
  rcases h.eq_default_or with rfl | ⟨text, -, ha⟩
  · exact hdefault
  · exact r.sound ha

/-- The variable decides, together with the default. -/
theorem Settles.unique (h : r.Settles default value a) (h' : r.Settles default value b) :
    a = b := by
  rcases h'.eq_default_or with rfl | ⟨text, hvalue, hb⟩
  · rcases h.eq_default_or with rfl | ⟨text, hvalue, ha⟩
    · rfl
    · exact (h'.given text a hvalue ha).symm
  · exact h.given text b hvalue hb

end Reading

namespace Settings

open Reading

/-- A number that is not nought and fits into sixty-four bits. -/
def Positive (n : Nat) : Prop := 0 < n ∧ n < 2 ^ 64

instance : DecidablePred Positive := fun n => inferInstanceAs (Decidable (0 < n ∧ n < 2 ^ 64))

section Readers

variable {value : Option String}

/-- A text settles where it is not blank. -/
theorem settles_textOr (default : String) :
    wording.Settles default value (textOr default value) := by
  cases value with
  | none => exact settles_none
  | some text =>
    refine settles_some fun b => ?_
    rw [Option.filter_eq_some_iff, Option.some.injEq, Bool.not_eq_true', ← Bool.not_eq_true,
      Text.allBlank_eq_true_iff]
    constructor
    · rintro ⟨rfl, hblank⟩
      exact ⟨rfl, hblank⟩
    · rintro ⟨rfl, hblank⟩
      exact ⟨rfl, hblank⟩

theorem settles_numberOr (bound default : Nat) :
    (number (· < bound)).Settles default value (numberOr bound default value) := by
  cases value with
  | none => exact settles_none
  | some text =>
    refine settles_some fun n => ?_
    rw [Option.bind_some]
    exact Text.naturalBelow?_trim_eq_some_iff

theorem settles_positiveOr (default : Nat) :
    (number Positive).Settles default value (positiveOr bound64 default value) := by
  cases value with
  | none => exact settles_none
  | some text =>
    refine settles_some fun n => ?_
    rw [Option.bind_some, Option.filter_eq_some_iff, Text.naturalBelow?_trim_eq_some_iff,
      decide_eq_true_eq]
    exact and_assoc.trans (and_congr_right fun _ => and_comm)

/-- A span settles where its seconds are a positive number. -/
theorem settles_secondsOr (default : Duration) :
    (seconds Positive).Settles default value (secondsOr default value) := by
  cases value with
  | none => exact settles_none
  | some text =>
    refine settles_some fun d => ?_
    simp only [Option.bind_some, Option.map_eq_some_iff, Option.filter_eq_some_iff,
      Text.naturalBelow?_trim_eq_some_iff, decide_eq_true_eq]
    constructor
    · rintro ⟨n, ⟨⟨hn, hbound⟩, hpos⟩, rfl⟩
      exact ⟨n, hn, ⟨hpos, hbound⟩, rfl⟩
    · rintro ⟨n, hn, ⟨hpos, hbound⟩, rfl⟩
      exact ⟨n, ⟨⟨hn, hbound⟩, hpos⟩, rfl⟩

end Readers

/-- A setting: its variable and how that is read, what stands in for it, and where it is kept. -/
structure Entry where
  {α : Type}
  variableName : String
  reading : Reading α
  default : α
  default_sound : reading.Sound default
  kept : Settings → α

namespace Entry

def Settled (e : Entry) (vars : Variables) (s : Settings) : Prop :=
  e.reading.Settles e.default (vars e.variableName) (e.kept s)

def words (variableName default : String) (h : ¬ Text.Blank default) (kept : Settings → String) :
    Entry :=
  ⟨variableName, wording, default, h, kept⟩

def span (variableName : String) (default : Nat) (h : Positive default)
    (kept : Settings → Duration) : Entry :=
  ⟨variableName, seconds Positive, .ofSeconds default, ⟨default, h, rfl⟩, kept⟩

def count (variableName : String) (Allowed : Nat → Prop) (default : Nat) (h : Allowed default)
    (kept : Settings → Nat) : Entry :=
  ⟨variableName, number Allowed, default, h, kept⟩

end Entry

/-- All settings but the credentials, with the defaults that are documented. -/
def documented : List Entry := [
  .words "KIIEX_WEBSOCKET_URL" "wss://api.kiire.alphaprod.net/WSGateway" (by decide)
    (·.connection.url),
  .span "KIIEX_HANDSHAKE_TIMEOUT_SECS" 10 (by decide) (·.connection.handshakeTimeout),
  .span "KIIEX_WRITE_TIMEOUT_SECS" 10 (by decide) (·.connection.writeTimeout),
  .span "KIIEX_RECONNECT_DELAY_SECS" 5 (by decide) (·.connection.reconnectDelay),
  .span "KIIEX_POLL_INTERVAL_SECS" 300 (by decide) (·.pollInterval),
  .count "KIIEX_EVENT_QUEUE_CAPACITY" Positive 1024 (by decide) (·.eventQueueCapacity),
  .words "SYMBOL_MAPPING_PATH" "configs/symbol_mapping.json" (by decide) (·.symbolMappingPath),
  .words "CHECKER_OTC_ADAPTER_PROVIDER" "kiiex" (by decide) (·.provider),
  .count "SERVER_PORT" (· < 2 ^ 16) 8082 (by decide) (·.listenOn)]

/-- Each setting has a variable to itself. -/
example : (documented.map (·.variableName)).Nodup := by decide

section Loaded

variable {vars : Variables} {s : Settings}

theorem exists_credentials (h : ofVariables vars = .ok s) :
    ∃ credentials, Credentials.ofVariables vars = .ok credentials ∧
    s = { withoutCredentials vars with credentials } := by
  rw [ofVariables] at h
  cases hcredentials : Credentials.ofVariables vars with
  | error cause =>
    rw [hcredentials] at h
    cases h
  | ok credentials =>
    rw [hcredentials] at h
    exact ⟨credentials, rfl, (Except.ok.inj h).symm⟩

theorem settled_of_loaded (h : ofVariables vars = .ok s) : ∀ e ∈ documented, e.Settled vars s := by
  obtain ⟨credentials, -, rfl⟩ := exists_credentials h
  simp only [documented, List.forall_mem_cons]
  exact ⟨settles_textOr _, settles_secondsOr _, settles_secondsOr _, settles_secondsOr _,
    settles_secondsOr _, settles_positiveOr _, settles_textOr _, settles_textOr _,
    settles_numberOr _ _, nofun⟩

theorem sound_of_loaded (h : ofVariables vars = .ok s) :
    ∀ e ∈ documented, e.reading.Sound (e.kept s) :=
  fun e he => (settled_of_loaded h e he).sound e.default_sound

theorem millis_of_sound {d : Duration} (h : (seconds Positive).Sound d) : 1000 ≤ d.millis := by
  obtain ⟨n, hn, rfl⟩ := h
  exact Nat.le_mul_of_pos_right 1000 hn.1

end Loaded

/-- Nothing lasts for less than a second, the queues have room, and no text is blank. -/
structure Usable (s : Settings) : Prop where
  handshakeTimeout : 1000 ≤ s.connection.handshakeTimeout.millis
  writeTimeout : 1000 ≤ s.connection.writeTimeout.millis
  reconnectDelay : 1000 ≤ s.connection.reconnectDelay.millis
  pollInterval : 1000 ≤ s.pollInterval.millis
  eventQueueCapacity : 1 ≤ s.eventQueueCapacity
  url : ¬ Text.Blank s.connection.url
  symbolMappingPath : ¬ Text.Blank s.symbolMappingPath
  provider : ¬ Text.Blank s.provider

theorem usable_of_loaded {vars : Variables} {s : Settings} (h : ofVariables vars = .ok s) :
    s.Usable := by
  have hsound := sound_of_loaded h
  simp only [documented, List.forall_mem_cons] at hsound
  obtain ⟨hurl, hhandshake, hwrite, hreconnect, hpoll, hcapacity, hpath, hprovider, -⟩ := hsound
  exact ⟨millis_of_sound hhandshake, millis_of_sound hwrite, millis_of_sound hreconnect,
    millis_of_sound hpoll, hcapacity.1, hurl, hpath, hprovider⟩

/-- Whatever is set, the settings that come of it can be worked with; each of them is what its
variable gives or else its default, and no other variable makes a difference to it. -/
theorem settled_one_by_one {vars : Variables} {s : Settings} (h : ofVariables vars = .ok s) :
    s.Usable ∧ (∀ e ∈ documented, e.Settled vars s) ∧
      ∀ vars' s', ofVariables vars' = .ok s' →
        ∀ e ∈ documented, vars e.variableName = vars' e.variableName → e.kept s = e.kept s' := by
  refine ⟨usable_of_loaded h, settled_of_loaded h, ?_⟩
  intro vars' s' h' e he hvalue
  have hsettled := settled_of_loaded h e he
  have hsettled' := settled_of_loaded h' e he
  rw [Entry.Settled, hvalue] at hsettled
  exact hsettled.unique hsettled'

def oddVariables : Variables
  | "KIIEX_WEBSOCKET_URL" => some "\u2003\t"
  | "KIIEX_HANDSHAKE_TIMEOUT_SECS" => some "\u00a0+007\n"
  | "KIIEX_WRITE_TIMEOUT_SECS" => some "-1"
  | "KIIEX_RECONNECT_DELAY_SECS" => some "00"
  | "KIIEX_POLL_INTERVAL_SECS" => some "18446744073709551616"
  | "KIIEX_EVENT_QUEUE_CAPACITY" => some "18446744073709551615"
  | "CHECKER_OTC_ADAPTER_PROVIDER" => some " otc "
  | "SERVER_PORT" => some "+0"
  | _ => none

/-- Only the port may be nought, and only blanks and a plus sign may stand before digits. -/
theorem oddVariables_settled :
    ∃ s, ofVariables oddVariables = .ok s ∧
      s = { connection := { handshakeTimeout := .ofSeconds 7 }, provider := " otc ",
            eventQueueCapacity := 2 ^ 64 - 1, listenOn := 0 } ∧
      s.Usable ∧ (∀ e ∈ documented, e.Settled oddVariables s) ∧
      ∀ vars' s', ofVariables vars' = .ok s' →
        ∀ e ∈ documented, oddVariables e.variableName = vars' e.variableName →
          e.kept s = e.kept s' := by
  have hloaded : ofVariables oddVariables =
    .ok { withoutCredentials oddVariables with credentials := none } := rfl
  exact ⟨_, hloaded, by rfl, settled_one_by_one hloaded⟩

end Settings

end VenueGateway
