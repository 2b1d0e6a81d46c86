import TokenLedger.Config.Sources
import TokenLedger.Node
import TokenLedger.Telemetry.Filter

/-!
# The start of a node

A start finds its settings, sets up its records, wires the chain, and loads the genesis document.
The first step that fails ends it; the failure is reported as a chain of messages, from what was
being done to what went wrong.
-/

namespace TokenLedger

/-- What a start fails on. -/
inductive StartError where
  /-- The settings cannot be loaded. -/
  | settings (cause : ConfigError)
  /-- A variable of the environment is refused. -/
  | environment (cause : ConfigError)
  /-- Records cannot be kept. -/
  | telemetry (cause : TelemetryError)
  /-- The chain refuses its settings or its genesis document. -/
  | chain (cause : ChainError)
  /-- A broken invariant. -/
  | faulted (fault : Fault)
  /-- The genesis file cannot be read. -/
  | unreadableGenesis (path reason : String)
  /-- The genesis file holds no genesis document. -/
  | malformedGenesis (path : String)
  deriving DecidableEq

/-- The messages of the causes behind a refusal of the settings. -/
def ConfigError.causes : ConfigError → List String
  | .unreadable _ reason => [reason]
  | .malformed _ | .invalidVariable .. | .zeroUpgradeHeight _ | .emptyChainId => []

/-- The messages of the causes behind a refusal of the chain. -/
def ChainError.causes : ChainError → List String
  | .genesis (.asset cause) => cause.causeMessage?.toList
  | .funding cause => [cause.message]
  | .config cause => cause.causes
  | _ => []

namespace StartError

/-- The messages of a failure, from what was being done to what went wrong. -/
def messages : StartError → List String
  | .settings cause => "loading node config" :: cause.message :: cause.causes
  | .environment cause => "applying environment overrides" :: cause.message :: cause.causes
  | .telemetry cause => ["initializing telemetry", cause.message]
  | .chain cause => cause.message :: cause.causes
  | .faulted fault => [fault.message]
  | .unreadableGenesis path reason =>
    ["reading genesis " ++ path, "Failed to read genesis file: " ++ reason, reason]
  | .malformedGenesis path => ["reading genesis " ++ path, "Failed to parse genesis document"]

/-- The line that reports a failure. -/
def report (cause : StartError) : String := "Error: " ++ String.intercalate ": " cause.messages

/-- The code with which the program ends. -/
def exitCode : StartError → UInt8
  | .faulted _ => 101
  | _ => 1

end StartError

/-- A start that came to its end. -/
structure Started where
  /-- The node. -/
  node : Node
  /-- What loading the genesis document answered. -/
  result : CommitResult
  /-- How records are kept. -/
  telemetry : TelemetrySettings
  /-- Whether the record of the end is kept. -/
  recorded : Bool

namespace Started

/-- What the record of the end says. -/
def message : String := "Genesis state loaded"

/-- The record of the end, as filters look at it. It names no target, so only what is said about all
targets is about it. -/
def record : LogRecord := ⟨"", .info, ["message", "height", "app_hash"]⟩

/-- The commitment to the state as hexadecimal text. -/
def hashText (started : Started) : String := Hex.encode started.result.hash.bytes

end Started

namespace Startup

/-- The settings of a start, given what reading the settings file gave. -/
def settings (argument : Option String) (env : Environment) (file : FileRead) :
    Except StartError NodeConfig :=
  match NodeConfig.ofSettingsFile (NodeConfig.startHome argument env) file with
  | .error cause => .error (.settings cause)
  | .ok config =>
    match config.applyOverrides env with
    | (.error cause, _) => .error (.environment cause)
    | (.ok (), config) => .ok config

/-- What ended a step that may be refused, as what ended the start. -/
def ofStop {ε : Type} (ofCause : ε → StartError) : Stop ε → StartError
  | .refused cause => ofCause cause
  | .faulted fault => .faulted fault

/-- How records are kept, and whether the record of the end is. -/
def telemetry (env : Environment) : Except (Stop TelemetryError) (TelemetrySettings × Bool) := do
  let settings := TelemetrySettings.ofEnvironment env
  settings.validate.mapError Stop.refused
  let filter ← LogFilter.ofSettings env settings
  return (settings, filter.keeps Started.record)

/-- The genesis document, given what reading its file gave. -/
def genesis (path : String) : FileRead → Except StartError Genesis
  | .error failure => .error (.unreadableGenesis path failure.message)
  | .ok text =>
    match JsonForm.read? text with
    | some genesis => .ok genesis
    | none => .error (.malformedGenesis path)

/-- Loads a genesis document into a new node. -/
def finish (node : Node) (telemetry : TelemetrySettings × Bool) (genesis : Genesis) :
    Except StartError Started :=
  match node.initChain genesis with
  | (.error stop, _) => .error (ofStop StartError.chain stop)
  | (.ok result, node) => .ok ⟨node, result, telemetry.1, telemetry.2⟩

/-- Starts a node. Files are read with `read`: the settings file first, and the genesis file once
everything before it has succeeded. -/
def run {m : Type → Type} [Monad m] (read : String → m FileRead) (argument : Option String)
    (env : Environment) : ExceptT StartError m Started := do
  let file ← ExceptT.lift (read (NodeConfig.settingsPath (NodeConfig.startHome argument env)))
  let config ← ExceptT.mk (pure (settings argument env file))
  let telemetry ← ExceptT.mk (pure ((telemetry env).mapError (ofStop StartError.telemetry)))
  let node ← ExceptT.mk (pure ((Node.create config).mapError (ofStop StartError.chain)))
  let file ← ExceptT.lift (read config.genesisFile)
  let genesis ← ExceptT.mk (pure (genesis config.genesisFile file))
  ExceptT.mk (pure (finish node telemetry genesis))

end Startup

end TokenLedger
