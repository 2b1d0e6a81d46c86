import TokenLedger.Config.Sources
import TokenLedger.Telemetry.Pattern

/-!
# Settings of the records of a node

How a node names itself in its records, which records it keeps, and in which format. All of it comes
from the environment.
-/

namespace TokenLedger

/-- How a node keeps records of what it does. -/
structure TelemetrySettings where
  /-- The name of the service. -/
  serviceName : String
  /-- Which records are kept: a level, or a list of filter directives. -/
  logLevel : String
  /-- Whether records are JSON. -/
  jsonLogs : Bool
  deriving DecidableEq

/-- Why records cannot be kept. -/
inductive TelemetryError where
  /-- The service has no name. -/
  | emptyServiceName
  /-- The level is empty. -/
  | emptyLogLevel
  /-- A filter directive is malformed. -/
  | malformedDirective
  /-- The level of a filter directive is unknown. -/
  | unknownLevel
  /-- The pattern for the value of a field cannot be used. -/
  | pattern (cause : PatternError)
  deriving DecidableEq, Repr

/-- What is wrong with the settings. -/
def TelemetryError.message (cause : TelemetryError) : String :=
  "Invalid configuration: " ++ match cause with
    | .emptyServiceName => "service name is empty"
    | .emptyLogLevel => "log level is empty"
    | .malformedDirective => "invalid filter directive"
    | .unknownLevel =>
      "error parsing level filter: expected one of \"off\", \"error\", \"warn\", \"info\", " ++
        "\"debug\", \"trace\", or a number 0-5"
    | .pattern cause => "invalid field filter: " ++ cause.message

namespace TelemetrySettings

/-- Whether a text switches something on: the word in any case, or a one. -/
def isOn (value : String) : Bool := value.toList.map Char.toLower = "true".toList || value = "1"

/-- The settings of an environment. Inside a container records are JSON unless told otherwise. -/
def ofEnvironment (env : Environment) : TelemetrySettings where
  serviceName := (env "BK_SERVICE_NAME").getD "barkis-ledger"
  logLevel := (env "BK_LOG_LEVEL" <|> env "RUST_LOG").getD "info"
  jsonLogs :=
    match env "BK_JSON_LOGS" with
    | some value => isOn value
    | none => (env "KUBERNETES_SERVICE_HOST").isSome || (env "DOCKER_CONTAINER").isSome

/-- Whether the settings name a service and a level. -/
def validate (settings : TelemetrySettings) : Except TelemetryError Unit :=
  if Text.isBlankText settings.serviceName then .error .emptyServiceName
  else if Text.isBlankText settings.logLevel then .error .emptyLogLevel
  else .ok ()

end TelemetrySettings

end TokenLedger
