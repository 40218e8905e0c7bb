import VenueGateway.Digest.Hmac
import VenueGateway.Order.Identity
import VenueGateway.Text.Blank
import VenueGateway.Venue.Request

/-!
Credentials: who logs in at the venue. They come from variables of the environment. A secret is
never kept; it only signs, and the signature is the keyed digest of nonce, user number and key.
-/

namespace VenueGateway

/-- Named texts that settings are read from. -/
abbrev Variables := String → Option String

/-- Whether an environment can hold a variable of this name with this value. -/
def isSettable (variableName value : String) : Bool :=
  variableName != "" && !variableName.toList.contains '=' &&
    !(variableName ++ value).toList.contains '\x00'

/-- Who logs in, and the account orders are placed on. -/
structure Credentials where
  apiKey : String := ""
  signature : String := ""
  userId : Int64 := 0
  nonce : String := ""
  omsId : Int64 := 0
  accountId : Int64 := 0
  username : String := ""
  deriving DecidableEq, Repr, Inhabited

inductive CredentialError where
  /-- There is no secret to sign with. -/
  | emptySecret
  /-- A field that the venue needs is empty. -/
  | missing (field : String)
  /-- A variable holds no number; its value is kept as it was given. -/
  | invalidNumber (variableName value : String)
  deriving DecidableEq, Repr

namespace CredentialError

def message : CredentialError → String
  | emptySecret => "secret cannot be empty"
  | missing field => field ++ " is required"
  | invalidNumber variableName value => variableName ++ " must be an integer, got " ++
    Text.quote value

end CredentialError

namespace Credentials

/-- The message that is signed. -/
def signedMessage (c : Credentials) : String := c.nonce ++ Text.ofInt64 c.userId ++ c.apiKey

def signatureUnder (c : Credentials) (secret : String) : String :=
  Text.hex (Digest.hmac (Text.bytes secret) (Text.bytes c.signedMessage))

def sign (c : Credentials) (secret : String) : Except CredentialError Credentials :=
  if secret = "" then .error .emptySecret else .ok { c with signature := c.signatureUnder secret }

/-- Signs with one secret after another, and passes over those that do not sign. -/
def signAll (c : Credentials) (secrets : List String) : Credentials :=
  secrets.foldl (fun c secret => (c.sign secret).toOption.getD c) c

/-- The number in a variable; one that is absent or blank counts as nought. -/
def number (vars : Variables) (variableName : String) : Except CredentialError Int64 :=
  match vars variableName with
  | none => .ok 0
  | some value =>
    if Text.allBlank value then .ok 0
    else
      match Text.int64? (Text.trim value) with
      | some n => .ok n
      | none => .error (.invalidNumber variableName value)

/-- The text in a variable; one that is absent counts as empty. -/
def text (vars : Variables) (variableName : String) : String := (vars variableName).getD ""

/-- The credentials that variables hold. Without a key there are none, whatever else is there. -/
def ofVariables (vars : Variables) : Except CredentialError (Option Credentials) :=
  if text vars "KIIEX_API_KEY" = "" then .ok none
  else do
    let userId ← number vars "KIIEX_API_USER_ID"
    let omsId ← number vars "KIIEX_OMS_ID"
    let accountId ← number vars "KIIEX_ACCOUNT_ID"
    let c : Credentials := {
      apiKey := text vars "KIIEX_API_KEY"
      signature := text vars "KIIEX_API_SIGNATURE"
      userId
      nonce := text vars "KIIEX_API_NONCE"
      omsId
      accountId
      username := text vars "KIIEX_USERNAME" }
    if text vars "KIIEX_API_SECRET" = "" then .ok (some c)
    else (c.sign (text vars "KIIEX_API_SECRET")).map some

/-- Names the first field that the venue needs and that is missing. -/
def validate (c : Credentials) : Except CredentialError Unit :=
  if c.apiKey = "" then .error (.missing "APIKey")
  else if c.userId = 0 then .error (.missing "UserId")
  else if c.nonce = "" then .error (.missing "Nonce")
  else if c.omsId = 0 then .error (.missing "OMSId")
  else if c.accountId = 0 then .error (.missing "AccountId")
  else .ok ()

def account (c : Credentials) : Account := ⟨c.omsId, c.accountId⟩

def loginRequest (c : Credentials) : LoginRequest := ⟨c.apiKey, c.signature, c.userId, c.nonce⟩

/-- Credentials as diagnostics show them, without key and signature. -/
def describe (c : Credentials) : String :=
  "VenueCredentials \x7b api_key: \"[REDACTED]\", signature: \"[REDACTED]\", user_id: " ++
    Text.ofInt64 c.userId ++ ", nonce: " ++ Text.quote c.nonce ++ ", oms_id: " ++
      Text.ofInt64 c.omsId ++
    ", account_id: " ++ Text.ofInt64 c.accountId ++ ", username: " ++
      Text.quote c.username ++ " \x7d"

end Credentials

end VenueGateway
