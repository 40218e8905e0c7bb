import VenueGateway.Proofs.Text.Spelling
import VenueGateway.Proofs.Venue.Signing
import VenueGateway.Settings

/-!
Which variables make credentials. A key that is absent or empty means none, whatever else is set;
with a key, the first number that is neither blank nor spelled out is named, in the order in which
the numbers are asked for; and otherwise the texts are taken as they are, the blank numbers as
nought, and a secret comes before a signature made in advance.
-/

namespace VenueGateway

namespace Credentials

def Unset (value : Option String) : Prop := value = none ∨ value = some ""

def Keyed (vars : Variables) : Prop := ¬ Unset (vars "KIIEX_API_KEY")

/-- What a variable counts as where a number is wanted. -/
inductive CountsAs : Option String → Int64 → Prop
  | absent : CountsAs none 0
  | blank {text : String} (h : Text.Blank text) : CountsAs (some text) 0
  | spelled {text : String} {n : Int64} (h : Text.SpellsInt text n.toInt) : CountsAs (some text) n

/-- A variable is not blank, and no number either. -/
structure Malformed (vars : Variables) (variableName text : String) : Prop where
  value : vars variableName = some text
  not_blank : ¬ Text.Blank text
  not_number : ∀ n : Int64, ¬ Text.SpellsInt text n.toInt

/-- The first malformed variable of several, with its text as it was given. -/
inductive FirstMalformed (vars : Variables) : List String → String → String → Prop
  | here {variableName text : String} {more : List String} (h : Malformed vars variableName text) :
      FirstMalformed vars (variableName :: more) variableName text
  | later {other variableName text : String} {more : List String} (hother : ∀ t,
      ¬ Malformed vars other t)
      (h : FirstMalformed vars more variableName text) :
        FirstMalformed vars (other :: more) variableName text

/-- The variables that hold numbers, in the order in which they are asked for. -/
def numberVariables : List String := ["KIIEX_API_USER_ID", "KIIEX_OMS_ID", "KIIEX_ACCOUNT_ID"]

def secretVariables : List String := ["KIIEX_API_KEY", "KIIEX_API_SIGNATURE", "KIIEX_API_SECRET"]

/-- Credentials that are alike but for key and signature. -/
def SameIdentity (c d : Credentials) : Prop :=
  c = { d with apiKey := c.apiKey, signature := c.signature }

/-- The signature of credentials is the one that signing with a secret leaves, whatever stood there
before. -/
structure SignedWith (c : Credentials) (secret : String) : Prop where
  signs : ∀ before, { c with signature := before }.sign secret = .ok c
  standard : c.signature = c.standardSignature secret

structure LoadedFrom (vars : Variables) (c : Credentials) : Prop where
  apiKey : c.apiKey = text vars "KIIEX_API_KEY"
  nonce : c.nonce = text vars "KIIEX_API_NONCE"
  username : c.username = text vars "KIIEX_USERNAME"
  userId : CountsAs (vars "KIIEX_API_USER_ID") c.userId
  omsId : CountsAs (vars "KIIEX_OMS_ID") c.omsId
  accountId : CountsAs (vars "KIIEX_ACCOUNT_ID") c.accountId
  unsigned : Unset (vars "KIIEX_API_SECRET") → c.signature = text vars "KIIEX_API_SIGNATURE"
  signed : ∀ secret, vars "KIIEX_API_SECRET" = some secret → secret ≠ "" → c.SignedWith secret

section Numbers

variable {vars : Variables} {variableName text : String} {n : Int64}

theorem text_eq_empty_iff :
    Credentials.text vars variableName = "" ↔ Unset (vars variableName) := by
  rw [Credentials.text, Unset]
  cases vars variableName <;> simp

theorem number_of_countsAs (h : CountsAs (vars variableName) n) :
    number vars variableName = .ok n := by
  rw [number]
  generalize vars variableName = value at h
  cases h with
  | absent => rfl
  | blank h => exact if_pos (Text.allBlank_eq_true_iff.mpr h)
  | spelled h =>
    have hblank := mt Text.allBlank_eq_true_iff.mp h.not_blank
    simp only [hblank, Text.int64?_trim_eq_some_iff.mpr h]
    rfl

theorem number_of_malformed (h : Malformed vars variableName text) :
    number vars variableName = .error (.invalidNumber variableName text) := by
  have hblank := mt Text.allBlank_eq_true_iff.mp h.not_blank
  have hread : Text.int64? (Text.trim text) = none := by
    rw [Option.eq_none_iff_forall_ne_some]
    intro n hn
    exact h.not_number n (Text.int64?_trim_eq_some_iff.mp hn)
  rw [number, h.value]
  simp only [hblank, hread]
  rfl

/-- A variable counts as some number, or is malformed. -/
theorem countsAs_or_malformed (vars : Variables) (variableName : String) :
    (∃ n, CountsAs (vars variableName) n) ∨ ∃ text, Malformed vars variableName text := by
  cases hvalue : vars variableName with
  | none => exact .inl ⟨0, .absent⟩
  | some text =>
    by_cases hblank : Text.Blank text
    · exact .inl ⟨0, .blank hblank⟩
    · by_cases hspelled : ∃ n : Int64, Text.SpellsInt text n.toInt
      · obtain ⟨n, hn⟩ := hspelled
        exact .inl ⟨n, .spelled hn⟩
      · exact .inr ⟨text, hvalue, hblank, not_exists.mp hspelled⟩

theorem CountsAs.unique {m : Int64} (h : CountsAs (vars variableName) n)
    (h' : CountsAs (vars variableName) m) : n = m :=
  Except.ok.inj ((number_of_countsAs h).symm.trans (number_of_countsAs h'))

theorem CountsAs.not_malformed (h : CountsAs (vars variableName) n) (text : String) :
    ¬ Malformed vars variableName text := by
  intro h'
  have hboth := (number_of_countsAs h).symm.trans (number_of_malformed h')
  cases hboth

end Numbers

namespace FirstMalformed

variable {vars : Variables} {names : List String} {variableName text : String}

/-- There is but one first malformed variable. -/
theorem unique {variableName' text' : String} (h : FirstMalformed vars names variableName text)
    (h' : FirstMalformed vars names variableName' text') :
    variableName = variableName' ∧ text = text' := by
  induction h with
  | here h =>
    cases h' with
    | here h' => exact ⟨rfl, Option.some.inj (h.value.symm.trans h'.value)⟩
    | later hother => exact absurd h (hother _)
  | later hother _ ih =>
    cases h' with
    | here h' => exact absurd h' (hother _)
    | later _ h' => exact ih h'

theorem mem (h : FirstMalformed vars names variableName text) :
    variableName ∈ names ∧ Malformed vars variableName text := by
  induction h with
  | here h => exact ⟨List.mem_cons_self, h⟩
  | later _ _ ih => exact ⟨List.mem_cons_of_mem _ ih.1, ih.2⟩

end FirstMalformed

/-- Where one of several variables is malformed, there is a first. -/
theorem exists_firstMalformed_iff {vars : Variables} {names : List String} :
    (∃ variableName text, FirstMalformed vars names variableName text) ↔
      ∃ variableName ∈ names, ∃ text, Malformed vars variableName text := by
  constructor
  · rintro ⟨variableName, text, h⟩
    exact ⟨variableName, h.mem.1, text, h.mem.2⟩
  · rintro ⟨variableName, hmem, text, h⟩
    induction names with
    | nil => cases hmem
    | cons other names ih =>
      by_cases hother : ∃ t, Malformed vars other t
      · obtain ⟨t, ht⟩ := hother
        exact ⟨other, t, .here ht⟩
      · rcases List.mem_cons.mp hmem with rfl | hmem
        · exact absurd ⟨text, h⟩ hother
        · obtain ⟨name, t, hfirst⟩ := ih hmem
          exact ⟨name, t, .later (not_exists.mp hother) hfirst⟩

theorem SignedWith.of_sign {c d : Credentials} {secret : String} (hsecret : secret ≠ "")
    (h : c.sign secret = .ok d) : d.SignedWith secret := by
  rw [sign_of_ne hsecret, Except.ok.injEq] at h
  subst h
  constructor
  · intro before
    exact sign_of_ne hsecret _
  · exact signatureUnder_eq c secret

namespace LoadedFrom

variable {vars vars' : Variables} {c d : Credentials}

/-- The secrets decide nothing but key and signature. -/
theorem sameIdentity (hc : LoadedFrom vars c) (hd : LoadedFrom vars' d)
    (halike : ∀ name, name ∉ secretVariables → vars name = vars' name) : SameIdentity c d := by
  have htext : ∀ name, name ∉ secretVariables → text vars name = text vars' name :=
      fun name hname =>
    congrArg (·.getD "") (halike name hname)
  have huser := hc.userId
  have homs := hc.omsId
  have haccount := hc.accountId
  rw [halike _ (by decide)] at huser homs haccount
  have hnonce := hc.nonce.trans ((htext _ (by decide)).trans hd.nonce.symm)
  have husername := hc.username.trans ((htext _ (by decide)).trans hd.username.symm)
  cases c
  cases d
  simp only [SameIdentity, mk.injEq]
  exact ⟨trivial, trivial, huser.unique hd.userId, hnonce, homs.unique hd.omsId,
    haccount.unique hd.accountId, husername⟩

theorem unique (hc : LoadedFrom vars c) (hd : LoadedFrom vars d) : c = d := by
  have hidentity := hc.sameIdentity hd fun _ _ => rfl
  have hkey : c.apiKey = d.apiKey := hc.apiKey.trans hd.apiKey.symm
  rw [SameIdentity, hkey] at hidentity
  have hsignature : c.signature = d.signature := by
    by_cases hsecret : Unset (vars "KIIEX_API_SECRET")
    · rw [hc.unsigned hsecret, hd.unsigned hsecret]
    · obtain ⟨secret, hvalue⟩ := Option.ne_none_iff_exists'.mp fun h => hsecret (.inl h)
      have hne : secret ≠ "" := by
        rintro rfl
        exact hsecret (.inr hvalue)
      rw [(hc.signed secret hvalue hne).standard, (hd.signed secret hvalue hne).standard, hidentity]
      rfl
  rw [hidentity, hsignature]

theorem not_malformed (h : LoadedFrom vars c) :
    ∀ name ∈ numberVariables, ∀ text, ¬ Malformed vars name text := by
  simp only [numberVariables, List.forall_mem_cons]
  exact ⟨h.userId.not_malformed, h.omsId.not_malformed, h.accountId.not_malformed, nofun⟩

end LoadedFrom

/-- What is taken from the variables before anything is signed. -/
def unsignedFrom (vars : Variables) (userId omsId accountId : Int64) : Credentials where
  apiKey := text vars "KIIEX_API_KEY"
  signature := text vars "KIIEX_API_SIGNATURE"
  userId := userId
  nonce := text vars "KIIEX_API_NONCE"
  omsId := omsId
  accountId := accountId
  username := text vars "KIIEX_USERNAME"

section Loading

variable {vars : Variables} {userId omsId accountId : Int64}
  (huser : CountsAs (vars "KIIEX_API_USER_ID") userId)
  (homs : CountsAs (vars "KIIEX_OMS_ID") omsId)
    (haccount : CountsAs (vars "KIIEX_ACCOUNT_ID") accountId)

include huser homs haccount

theorem ofVariables_of_countsAs (hkey : Keyed vars) :
    ofVariables vars = if text vars "KIIEX_API_SECRET" =
      "" then .ok (some (unsignedFrom vars userId omsId accountId))
      else ((unsignedFrom vars userId omsId accountId).sign
        (text vars "KIIEX_API_SECRET")).map some := by
  rw [ofVariables, if_neg (mt text_eq_empty_iff.mp hkey), number_of_countsAs huser,
    number_of_countsAs homs, number_of_countsAs haccount]
  rfl

theorem loadedFrom_unsignedFrom (hsecret : Unset (vars "KIIEX_API_SECRET")) :
    LoadedFrom vars (unsignedFrom vars userId omsId accountId) where
  apiKey := rfl
  nonce := rfl
  username := rfl
  userId := huser
  omsId := homs
  accountId := haccount
  unsigned _ := rfl
  signed secret hvalue hne := by
    rcases hsecret with hnone | hempty
    · rw [hnone] at hvalue
      cases hvalue
    · rw [hempty] at hvalue
      exact absurd (Option.some.inj hvalue).symm hne

/-- With a secret, the signature is made and not taken from its variable. -/
theorem loadedFrom_of_sign {c : Credentials} (hsecret : ¬ Unset (vars "KIIEX_API_SECRET"))
    (hc : (unsignedFrom vars userId omsId accountId).sign (text vars "KIIEX_API_SECRET") = .ok c) :
    LoadedFrom vars c := by
  have hne := mt text_eq_empty_iff.mp hsecret
  have hsigned := SignedWith.of_sign hne hc
  rw [sign_of_ne hne, Except.ok.injEq] at hc
  subst hc
  refine ⟨rfl, rfl, rfl, huser, homs, haccount, fun h => absurd h hsecret, ?_⟩
  intro secret hvalue _
  have htext : text vars "KIIEX_API_SECRET" = secret := by rw [text, hvalue]; rfl
  rwa [htext] at hsigned ⊢

/-- Where all numbers can be read, nothing can fail. -/
theorem exists_loadedFrom (hkey : Keyed vars) :
    ∃ c, LoadedFrom vars c ∧ ofVariables vars = .ok (some c) := by
  rw [ofVariables_of_countsAs huser homs haccount hkey]
  by_cases hsecret : Unset (vars "KIIEX_API_SECRET")
  · rw [if_pos (text_eq_empty_iff.mpr hsecret)]
    exact ⟨_, loadedFrom_unsignedFrom huser homs haccount hsecret, rfl⟩
  · have hne := mt text_eq_empty_iff.mp hsecret
    have hsign := sign_of_ne hne (unsignedFrom vars userId omsId accountId)
    rw [if_neg hne, hsign]
    exact ⟨_, loadedFrom_of_sign huser homs haccount hsecret hsign, rfl⟩

end Loading

section Outcomes

variable {vars : Variables}

/-- With a key, the first malformed number is named, or everything is loaded. -/
theorem load_cases (hkey : Keyed vars) :
    (∃ variableName text, FirstMalformed vars numberVariables variableName text ∧
      ofVariables vars = .error (.invalidNumber variableName text)) ∨
    ∃ c, LoadedFrom vars c ∧ ofVariables vars = .ok (some c) := by
  have hopen := mt text_eq_empty_iff.mp hkey
  rcases countsAs_or_malformed vars "KIIEX_API_USER_ID" with ⟨userId, huser⟩ | ⟨text, htext⟩
  case inr =>
    refine .inl ⟨_, text, .here htext, ?_⟩
    rw [ofVariables, if_neg hopen, number_of_malformed htext]
    rfl
  rcases countsAs_or_malformed vars "KIIEX_OMS_ID" with ⟨omsId, homs⟩ | ⟨text, htext⟩
  case inr =>
    refine .inl ⟨_, text, .later huser.not_malformed (.here htext), ?_⟩
    rw [ofVariables, if_neg hopen, number_of_countsAs huser, number_of_malformed htext]
    rfl
  rcases countsAs_or_malformed vars "KIIEX_ACCOUNT_ID" with ⟨accountId, haccount⟩ | ⟨text, htext⟩
  case inr =>
    refine .inl ⟨_, text, .later huser.not_malformed (.later homs.not_malformed (.here htext)), ?_⟩
    rw [ofVariables, if_neg hopen, number_of_countsAs huser, number_of_countsAs homs,
      number_of_malformed htext]
    rfl
  exact .inr (exists_loadedFrom huser homs haccount hkey)

theorem ofVariables_of_unset (hkey : Unset (vars "KIIEX_API_KEY")) : ofVariables vars = .ok none :=
  if_pos (text_eq_empty_iff.mpr hkey)

theorem ofVariables_eq_none_iff : ofVariables vars = .ok none ↔ Unset (vars "KIIEX_API_KEY") := by
  refine ⟨fun h => ?_, ofVariables_of_unset⟩
  by_contra hkey
  rcases load_cases hkey with ⟨_, _, -, hload⟩ | ⟨_, -, hload⟩ <;> rw [hload] at h <;> cases h

/-- Loading fails on the first malformed variable, and on nothing else. -/
theorem ofVariables_eq_error_iff {cause : CredentialError} :
    ofVariables vars = .error cause ↔ Keyed vars ∧
      ∃ variableName text, FirstMalformed vars numberVariables variableName text ∧
        cause = .invalidNumber variableName text := by
  by_cases hkey : Keyed vars
  case neg =>
    rw [ofVariables_of_unset (not_not.mp hkey)]
    exact ⟨nofun, fun h => absurd h.1 hkey⟩
  rcases load_cases hkey with ⟨name, text, hfirst, hload⟩ | ⟨c, hc, hload⟩
  · rw [hload, Except.error.injEq]
    constructor
    · rintro rfl
      exact ⟨hkey, name, text, hfirst, rfl⟩
    · rintro ⟨-, name', text', hfirst', rfl⟩
      obtain ⟨rfl, rfl⟩ := hfirst.unique hfirst'
      rfl
  · rw [hload]
    refine ⟨nofun, ?_⟩
    rintro ⟨-, name, text, hfirst, -⟩
    exact absurd hfirst.mem.2 (hc.not_malformed name hfirst.mem.1 text)

/-- What is loaded is what the variables hold. -/
theorem ofVariables_eq_some_iff {c : Credentials} :
    ofVariables vars = .ok (some c) ↔ Keyed vars ∧ LoadedFrom vars c := by
  by_cases hkey : Keyed vars
  case neg =>
    rw [ofVariables_of_unset (not_not.mp hkey)]
    exact ⟨nofun, fun h => absurd h.1 hkey⟩
  rcases load_cases hkey with ⟨name, text, hfirst, hload⟩ | ⟨d, hd, hload⟩
  · rw [hload]
    exact ⟨nofun, fun h => absurd hfirst.mem.2 (h.2.not_malformed name hfirst.mem.1 text)⟩
  · rw [hload, Except.ok.injEq, Option.some.injEq]
    constructor
    · rintro rfl
      exact ⟨hkey, hd⟩
    · rintro ⟨-, hc⟩
      exact hd.unique hc

theorem settings_eq_error_iff {e : SettingsError} :
    Settings.ofVariables vars = .error e ↔ ∃ cause, ofVariables vars = .error cause ∧
    e = .credentials cause := by
  rw [Settings.ofVariables]
  cases ofVariables vars with
  | error cause =>
    simp only [Except.error.injEq, exists_eq_left']
    exact eq_comm
  | ok c => exact ⟨nofun, nofun⟩

end Outcomes

structure LoadsExactly (vars : Variables) : Prop where
  absent : ofVariables vars = .ok none ↔ Unset (vars "KIIEX_API_KEY")
  refused : (∃ cause, ofVariables vars = .error cause) ↔
    Keyed vars ∧ ∃ variableName ∈ numberVariables, ∃ text, Malformed vars variableName text
  /-- The first malformed number is the one named, and its text is kept as it is. -/
  named : ∀ cause, ofVariables vars = .error cause ↔ Keyed vars ∧
    ∃ variableName text, FirstMalformed vars numberVariables variableName text ∧
      cause = .invalidNumber variableName text
  accepted : (∃ c, ofVariables vars = .ok (some c)) ↔
    Keyed vars ∧ ∀ variableName ∈ numberVariables, ∀ text, ¬ Malformed vars variableName text
  loaded : ∀ c, ofVariables vars = .ok (some c) ↔ Keyed vars ∧ LoadedFrom vars c
  /-- The settings fail for malformed credentials, and for nothing else. -/
  settings : ∀ e, Settings.ofVariables vars = .error e ↔
    ∃ cause, ofVariables vars = .error cause ∧ e = .credentials cause

/-- For all variables it is decided whether there are credentials, whether they are refused, and
which they are. -/
theorem loads_exactly (vars : Variables) : LoadsExactly vars where
  absent := ofVariables_eq_none_iff
  refused := by
    rw [← exists_firstMalformed_iff]
    constructor
    · rintro ⟨cause, h⟩
      obtain ⟨hkey, name, text, hfirst, -⟩ := ofVariables_eq_error_iff.mp h
      exact ⟨hkey, name, text, hfirst⟩
    · rintro ⟨hkey, name, text, hfirst⟩
      exact ⟨_, ofVariables_eq_error_iff.mpr ⟨hkey, name, text, hfirst, rfl⟩⟩
  named _ := ofVariables_eq_error_iff
  accepted := by
    constructor
    · rintro ⟨c, h⟩
      obtain ⟨hkey, hc⟩ := ofVariables_eq_some_iff.mp h
      exact ⟨hkey, hc.not_malformed⟩
    · rintro ⟨hkey, hnone⟩
      rcases load_cases hkey with ⟨name, text, hfirst, -⟩ | ⟨c, -, hload⟩
      · exact absurd hfirst.mem.2 (hnone name hfirst.mem.1 text)
      · exact ⟨c, hload⟩
  loaded _ := ofVariables_eq_some_iff
  settings _ := settings_eq_error_iff

/-- A blank number is passed over, and of two malformed ones the first is named, blanks and all. -/
example : ofVariables (fun
    | "KIIEX_API_KEY" => some "key"
    | "KIIEX_API_USER_ID" => some "\t"
    | "KIIEX_OMS_ID" => some " one "
    | "KIIEX_ACCOUNT_ID" => some "9223372036854775808"
    | _ => none) = .error (.invalidNumber "KIIEX_OMS_ID" " one ") := rfl

end Credentials

end VenueGateway
