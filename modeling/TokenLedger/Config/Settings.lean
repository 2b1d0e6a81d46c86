import TokenLedger.Schedule
import TokenLedger.Text.Blank

/-!
# Settings of a node

What a node has to know to run a chain. Settings that would break the schedule are refused before
anything is wired.
-/

namespace TokenLedger

/-- The settings of a node. -/
structure NodeConfig where
  /-- The name of the chain. -/
  chainId : String
  /-- The home directory. -/
  home : String
  /-- The file of the genesis document. -/
  genesisFile : String
  /-- The height after which the node stops; zero for none. -/
  haltHeight : Height
  /-- When upgrades activate. -/
  upgrades : UpgradeHeights
  deriving DecidableEq

/-- Why settings are refused. -/
inductive ConfigError where
  /-- The settings file cannot be read. -/
  | unreadable (path reason : String)
  /-- The settings file does not read as one. -/
  | malformed (path : String)
  /-- An environment variable holds no height. -/
  | invalidVariable (name value : String)
  /-- An upgrade is to activate at height zero. -/
  | zeroUpgradeHeight (upgrade : Upgrade)
  /-- The chain has no name. -/
  | emptyChainId
  deriving DecidableEq

/-- What is wrong with the settings. -/
def ConfigError.message : ConfigError → String
  | .unreadable path reason => "Failed to read config file " ++ path ++ ": " ++ reason
  | .malformed _ => "Failed to parse config file"
  | .invalidVariable name value =>
    "Invalid value " ++ Text.quote value ++ " for environment variable " ++ name
  | .zeroUpgradeHeight upgrade =>
    "Upgrade " ++ upgrade.wireName ++
      " is configured at height 0; use a positive height or leave it unset"
  | .emptyChainId => "Chain id must not be empty"

namespace NodeConfig

/-- The name of a chain that is not named. -/
def defaultChainId : String := "barkis-chain"

/-- Whether settings can be used: the chain has a name, and no upgrade activates at height zero. -/
def validate (config : NodeConfig) : Except ConfigError Unit :=
  if Text.isBlankText config.chainId then .error .emptyChainId
  else
    match Upgrade.all.find? fun upgrade => config.upgrades.get upgrade = 0 with
    | some upgrade => .error (.zeroUpgradeHeight upgrade)
    | none => .ok ()

end NodeConfig

end TokenLedger
