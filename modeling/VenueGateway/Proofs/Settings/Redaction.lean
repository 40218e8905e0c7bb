import VenueGateway.Proofs.Settings.Credentials
import VenueGateway.Proofs.Settings.Defaults

/-!
Secrets stay out of diagnostics. Variables that differ in nothing but key, signature and secret
cannot be told apart by anything that is shown of them: not by the words in which they are refused,
nor by how credentials and the request to log in are described, nor by what is found missing.
-/

namespace VenueGateway

namespace Credentials

/-- Variables are alike but for the secrets, and there is a key in both. -/
structure AlikeButSecrets (vars vars' : Variables) : Prop where
  alike : ∀ variableName, variableName ∉ secretVariables → vars variableName = vars' variableName
  keyed : Keyed vars ∧ Keyed vars'

/-- Both are refused, in the same words. -/
structure RefusedAlike (vars vars' : Variables) : Prop where
  credentials : ∃ cause cause', ofVariables vars = .error cause ∧ ofVariables vars' =
    .error cause' ∧
    cause.message = cause'.message
  settings : ∃ e e', Settings.ofVariables vars = .error e ∧ Settings.ofVariables vars' = .error e' ∧
    e.message = e'.message

/-- Two loaded settings show the same of their credentials, and in all else they are the same. -/
structure ShownAlike (s s' : Settings) (c c' : Credentials) : Prop where
  credentials : s.credentials = some c ∧ s'.credentials = some c'
  others : { s with credentials := none } = { s' with credentials := none }
  described : c.describe = c'.describe
  login : c.loginRequest.describe = c'.loginRequest.describe
  validated : c.validate = c'.validate

section Alike

variable {vars vars' : Variables} {c c' : Credentials}

theorem AlikeButSecrets.symm (h : AlikeButSecrets vars vars') : AlikeButSecrets vars' vars :=
  ⟨fun variableName hname => (h.alike variableName hname).symm, h.keyed.symm⟩

theorem Malformed.congr {variableName text : String} (h : Malformed vars variableName text)
    (hvalue : vars variableName = vars' variableName) : Malformed vars' variableName text :=
  ⟨hvalue ▸ h.value, h.not_blank, h.not_number⟩

theorem FirstMalformed.congr {names : List String} {variableName text : String}
    (h : FirstMalformed vars names variableName text)
    (halike : ∀ name ∈ names, vars name = vars' name) :
    FirstMalformed vars' names variableName text := by
  induction h with
  | here h => exact .here (h.congr (halike _ List.mem_cons_self))
  | later hother _ ih =>
    rw [List.forall_mem_cons] at halike
    exact .later (fun text htext => hother text (htext.congr halike.1.symm)) (ih halike.2)

theorem AlikeButSecrets.firstMalformed {variableName text : String} (h : AlikeButSecrets vars vars')
    (hfirst : FirstMalformed vars numberVariables variableName text) :
    FirstMalformed vars' numberVariables variableName text := by
  have hpublic : ∀ name ∈ numberVariables, name ∉ secretVariables := by decide
  exact hfirst.congr fun name hname => h.alike name (hpublic name hname)

theorem AlikeButSecrets.withoutCredentials (h : AlikeButSecrets vars vars') :
    Settings.withoutCredentials vars = Settings.withoutCredentials vars' := by
  simp [Settings.withoutCredentials, h.alike, secretVariables]

theorem SameIdentity.describe (h : SameIdentity c c') : c.describe = c'.describe := by
  rw [h]
  rfl

theorem SameIdentity.describe_loginRequest (h : SameIdentity c c') :
    c.loginRequest.describe = c'.loginRequest.describe := by
  rw [h]
  rfl

theorem SameIdentity.validate (h : SameIdentity c c') (hkey : c.apiKey ≠ "")
    (hkey' : c'.apiKey ≠ "") :
    c.validate = c'.validate := by
  rw [Credentials.validate, Credentials.validate, if_neg hkey, if_neg hkey', h]

theorem LoadedFrom.apiKey_ne (h : LoadedFrom vars c) (hkey : Keyed vars) : c.apiKey ≠ "" := by
  rw [h.apiKey]
  exact mt text_eq_empty_iff.mp hkey

theorem refusedAlike_of_firstMalformed {variableName text : String} (h : AlikeButSecrets vars vars')
    (hfirst : FirstMalformed vars numberVariables variableName text) : RefusedAlike vars vars' := by
  have hload := ofVariables_eq_error_iff.mpr ⟨h.keyed.1, variableName, text, hfirst, rfl⟩
  have hload' :=
    ofVariables_eq_error_iff.mpr ⟨h.keyed.2, variableName, text, h.firstMalformed hfirst, rfl⟩
  constructor
  · exact ⟨_, _, hload, hload', rfl⟩
  · exact ⟨_, _, settings_eq_error_iff.mpr ⟨_, hload, rfl⟩,
      settings_eq_error_iff.mpr ⟨_, hload', rfl⟩, rfl⟩

theorem settings_of_loaded (h : ofVariables vars = .ok (some c)) :
    Settings.ofVariables vars =
      .ok { Settings.withoutCredentials vars with credentials := some c } := by
  rw [Settings.ofVariables, h]

/-- The secrets enter neither the shown text nor the other settings. -/
theorem shownAlike_of_loaded (h : AlikeButSecrets vars vars') (hc : LoadedFrom vars c)
    (hc' : LoadedFrom vars' c') :
    ShownAlike { Settings.withoutCredentials vars with credentials := some c }
      { Settings.withoutCredentials vars' with credentials := some c' } c c' := by
  have hidentity := hc.sameIdentity hc' h.alike
  constructor
  · exact ⟨rfl, rfl⟩
  · rw [h.withoutCredentials]
  · exact hidentity.describe
  · exact hidentity.describe_loginRequest
  · exact hidentity.validate (hc.apiKey_ne h.keyed.1) (hc'.apiKey_ne h.keyed.2)

end Alike

/-- Nothing that is shown tells apart variables that are alike but for the secrets: both are refused
in the same words, as credentials and as settings, or both are loaded and show the same. -/
theorem secrets_kept {vars vars' : Variables} (h : AlikeButSecrets vars vars') :
    RefusedAlike vars vars' ∨
      ∃ c c' s s', ofVariables vars = .ok (some c) ∧ ofVariables vars' = .ok (some c') ∧
        Settings.ofVariables vars = .ok s ∧ Settings.ofVariables vars' = .ok s' ∧
        ShownAlike s s' c c' := by
  rcases load_cases h.keyed.1 with ⟨name, text, hfirst, -⟩ | ⟨c, hc, hload⟩
  · exact .inl (refusedAlike_of_firstMalformed h hfirst)
  rcases load_cases h.keyed.2 with ⟨name, text, hfirst', -⟩ | ⟨c', hc', hload'⟩
  · have hfirst := h.symm.firstMalformed hfirst'
    exact absurd hfirst.mem.2 (hc.not_malformed name hfirst.mem.1 text)
  · exact .inr ⟨c, c', _, _, hload, hload', settings_of_loaded hload, settings_of_loaded hload',
      shownAlike_of_loaded h hc hc'⟩

def withSecrets (vars : Variables) (key signature secret : Option String) :
    Variables := fun variableName =>
  if variableName = "KIIEX_API_KEY" then key
  else if variableName = "KIIEX_API_SIGNATURE" then signature
  else if variableName = "KIIEX_API_SECRET" then secret
  else vars variableName

theorem alikeButSecrets_withSecrets {vars : Variables}
    {key key' signature signature' secret secret' : Option String} (hkey : ¬ Unset key)
    (hkey' : ¬ Unset key') :
    AlikeButSecrets (withSecrets vars key signature secret)
      (withSecrets vars key' signature' secret') := by
  refine ⟨fun variableName hname => ?_, hkey, hkey'⟩
  simp only [secretVariables, List.mem_cons, List.not_mem_nil, or_false, not_or] at hname
  simp only [withSecrets, if_neg hname.1, if_neg hname.2.1, if_neg hname.2.2]

def deskVariables (omsId : String) : Variables
  | "KIIEX_API_USER_ID" => some " -42 "
  | "KIIEX_API_NONCE" => some "once \"only\""
  | "KIIEX_OMS_ID" => some omsId
  | "KIIEX_ACCOUNT_ID" => some "9"
  | _ => none

def presignedDesk (omsId : String) : Variables :=
  withSecrets (deskVariables omsId) (some "first key") (some "precomputed") none

/-- The same desk with another key and a secret to sign with. -/
def signingDesk (omsId : String) : Variables :=
  withSecrets (deskVariables omsId) (some "second key") none (some "secret")

/-- The two desks show the same, and are refused alike where a number is malformed. -/
theorem desks_secrets_kept :
    AlikeButSecrets (presignedDesk "1") (signingDesk "1") ∧
      (∃ c c' s s', ofVariables (presignedDesk "1") = .ok (some c) ∧
        ofVariables (signingDesk "1") = .ok (some c') ∧
        Settings.ofVariables (presignedDesk "1") = .ok s ∧
          Settings.ofVariables (signingDesk "1") = .ok s' ∧
        ShownAlike s s' c c') ∧
      AlikeButSecrets (presignedDesk "one") (signingDesk "one") ∧
      RefusedAlike (presignedDesk "one") (signingDesk "one") := by
  have halike : ∀ omsId, AlikeButSecrets (presignedDesk omsId) (signingDesk omsId) := fun omsId =>
    alikeButSecrets_withSecrets (by simp [Unset]) (by simp [Unset])
  obtain ⟨c, hc⟩ : ∃ c, ofVariables (presignedDesk "1") = .ok (some c) := ⟨_, rfl⟩
  obtain ⟨cause, hcause⟩ : ∃ cause, ofVariables (presignedDesk "one") = .error cause := ⟨_, rfl⟩
  refine ⟨halike "1", ?_, halike "one", ?_⟩
  · apply (secrets_kept (halike "1")).resolve_left
    rintro ⟨⟨_, _, hrefused, -⟩, -⟩
    rw [hc] at hrefused
    cases hrefused
  · apply (secrets_kept (halike "one")).resolve_right
    rintro ⟨_, _, _, _, hloaded, -⟩
    rw [hcause] at hloaded
    cases hloaded

end Credentials

end VenueGateway
