import VenueGateway.Duration
import VenueGateway.Venue.Credentials

/-!
Settings, read from variables. A variable that is absent or makes no sense leaves its setting at the
default; only malformed credentials are an error.
-/

namespace VenueGateway

structure ConnectionSettings where
  url : String := "wss://api.kiire.alphaprod.net/WSGateway"
  handshakeTimeout : Duration := .ofSeconds 10
  writeTimeout : Duration := .ofSeconds 10
  reconnectDelay : Duration := .ofSeconds 5
  deriving DecidableEq, Repr, Inhabited

/-- The settings of the gateway. -/
structure Settings where
  connection : ConnectionSettings := {}
  credentials : Option Credentials := none
  symbolMappingPath : String := "configs/symbol_mapping.json"
  provider : String := "kiiex"
  pollInterval : Duration := .ofSeconds 300
  eventQueueCapacity : Nat := 1024
  /-- The number under which the health page is served. -/
  listenOn : Nat := 8082
  deriving DecidableEq, Repr, Inhabited

inductive SettingsError where
  | credentials (cause : CredentialError)
  deriving DecidableEq, Repr

namespace SettingsError

def message : SettingsError → String
  | credentials cause => "invalid venue credentials: " ++ cause.message

end SettingsError

namespace Settings

/-- The numbers of sixteen bits end here. -/
def bound16 : Nat := 0x10000

/-- The numbers of sixty-four bits end here. -/
def bound64 : Nat := 0x10000000000000000

/-- A text that is not blank. -/
def textOr (default : String) (value : Option String) : String :=
  (value.filter fun s => !Text.allBlank s).getD default

/-- A number below a bound. -/
def numberOr (bound default : Nat) (value : Option String) : Nat :=
  (value.bind fun s => Text.naturalBelow? bound (Text.trim s)).getD default

/-- A number below a bound that is not nought. -/
def positiveOr (bound default : Nat) (value : Option String) : Nat :=
  ((value.bind fun s => Text.naturalBelow? bound (Text.trim s)).filter (0 < ·)).getD default

/-- A number of seconds that is not nought. -/
def secondsOr (default : Duration) (value : Option String) : Duration :=
  (((value.bind fun s => Text.naturalBelow? bound64 (Text.trim s)).filter (0 < ·)).map
    Duration.ofSeconds).getD
    default

/-- The settings that variables hold, apart from the credentials. -/
def withoutCredentials (vars : Variables) : Settings :=
  let base : Settings := {}
  { connection := {
      url := textOr base.connection.url (vars "KIIEX_WEBSOCKET_URL")
      handshakeTimeout :=
        secondsOr base.connection.handshakeTimeout (vars "KIIEX_HANDSHAKE_TIMEOUT_SECS")
      writeTimeout := secondsOr base.connection.writeTimeout (vars "KIIEX_WRITE_TIMEOUT_SECS")
      reconnectDelay :=
        secondsOr base.connection.reconnectDelay (vars "KIIEX_RECONNECT_DELAY_SECS") }
    symbolMappingPath := textOr base.symbolMappingPath (vars "SYMBOL_MAPPING_PATH")
    provider := textOr base.provider (vars "CHECKER_OTC_ADAPTER_PROVIDER")
    pollInterval := secondsOr base.pollInterval (vars "KIIEX_POLL_INTERVAL_SECS")
    eventQueueCapacity :=
      positiveOr bound64 base.eventQueueCapacity (vars "KIIEX_EVENT_QUEUE_CAPACITY")
    listenOn := numberOr bound16 base.listenOn (vars "SERVER_PORT") }

/-- The settings that variables hold. -/
def ofVariables (vars : Variables) : Except SettingsError Settings :=
  match Credentials.ofVariables vars with
  | .ok credentials => .ok { withoutCredentials vars with credentials }
  | .error cause => .error (.credentials cause)

end Settings

/-- Where traces are sent. -/
structure TracingSettings where
  enabled : Bool := true
  endpoint : String := "http://localhost:4317"
  serviceName : String := "kiiex-gateway"
  deriving DecidableEq, Repr, Inhabited

namespace TracingSettings

/-- The settings that variables hold. Only the word false turns traces off. -/
def ofVariables (vars : Variables) : TracingSettings :=
  let base : TracingSettings := {}
  { enabled := !(vars "OTEL_ENABLED").any (Text.sameIgnoringCase · "false")
    endpoint := (vars "OTEL_EXPORTER_OTLP_ENDPOINT").getD base.endpoint
    serviceName := (vars "OTEL_SERVICE_NAME").getD base.serviceName }

end TracingSettings

end VenueGateway
