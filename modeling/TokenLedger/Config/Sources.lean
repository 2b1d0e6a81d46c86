import TokenLedger.Config.Document
import TokenLedger.Files

/-!
# Where settings come from

Settings start from defaults below a home directory. The settings file of that directory, if there
is one, comes next, and variables of the environment last. Each file named by a relative path is
looked for below the home directory known at that moment, so a home directory that a variable brings
does not move files named earlier.
-/

namespace TokenLedger

/-- The variables of the environment that are set. -/
abbrev Environment := String → Option String

namespace NodeConfig

/-- The home directory when none is given. -/
def defaultHome : String := ".barkisd"

/-- The home directory of a start: the first argument, else the variable, else the default. -/
def startHome (argument : Option String) (env : Environment) : String :=
  (argument <|> env "BK_HOME").getD defaultHome

/-- A file in the settings directory of a home directory. -/
def configFile (home name : String) : String := Path.join (Path.join home "config") name

/-- The settings file of a home directory. -/
def settingsPath (home : String) : String := configFile home "app.toml"

/-- The genesis file of a home directory, unless another one is named. -/
def genesisPath (home : String) : String := configFile home "genesis.json"

/-- The defaults for a home directory. -/
def forHome (home : String) : NodeConfig where
  chainId := defaultChainId
  home := home
  genesisFile := genesisPath home
  haltHeight := 0
  upgrades := .never

/-- A path below the home directory. -/
def resolve (config : NodeConfig) (path : String) : String := Path.join config.home path

/-! ## The settings file -/

/-- The settings of a home directory with what its settings file says. -/
def applyDocument (config : NodeConfig) (document : SettingsDocument) : NodeConfig :=
  { config with
    chainId := document.chainId
    haltHeight := document.haltHeight
    genesisFile := (document.genesisFile.map config.resolve).getD config.genesisFile
    upgrades := document.upgrades }

/-- The settings of a home directory, given what reading its settings file gave. A file that is not
there leaves the defaults. -/
def ofSettingsFile (home : String) : FileRead → Except ConfigError NodeConfig
  | .error failure =>
    if failure.isAbsent then .ok (forHome home)
    else .error (.unreadable (settingsPath home) failure.message)
  | .ok text =>
    match SettingsDocument.parse? text with
    | some document => .ok ((forHome home).applyDocument document)
    | none => .error (.malformed (settingsPath home))

/-- Loads the settings of a home directory. -/
def load {m : Type → Type} [Monad m] (read : String → m FileRead) (home : String) :
    m (Except ConfigError NodeConfig) := do
  return ofSettingsFile home (← read (settingsPath home))

/-! ## The environment -/

/-- A variable that holds a height, and the settings it changes. -/
structure HeightVariable where
  /-- The name of the variable. -/
  name : String
  /-- The settings with the height of the variable. -/
  store : Height → NodeConfig → NodeConfig

/-- The variable of an upgrade. -/
def upgradeVariable : Upgrade → String
  | .tokenIssue => "BK_TOKEN_ISSUE_HEIGHT"
  | .symbolRules => "BK_UPDATE_TOKEN_SYMBOL_RULES_HEIGHT"
  | .descriptionLimit => "BK_TOKEN_DES_LEN_LIMIT_HEIGHT"

/-- The variables that hold heights, in the order in which they are read. -/
def heightVariables : List HeightVariable :=
  ⟨"BK_HALT_HEIGHT", fun height config => { config with haltHeight := height }⟩ ::
    Upgrade.all.map fun upgrade => ⟨upgradeVariable upgrade, fun height config =>
      { config with upgrades := config.upgrades.set upgrade height }⟩

/-- The settings with the variables that hold no heights. -/
def overrideNames (env : Environment) (config : NodeConfig) : NodeConfig :=
  let config := { config with chainId := (env "BK_CHAIN_ID").getD config.chainId }
  let config := { config with home := (env "BK_HOME").getD config.home }
  { config with genesisFile := ((env "BK_GENESIS").map config.resolve).getD config.genesisFile }

/-- The settings with the variables of a list that hold heights. The first value that is no height
ends the list; white space around a value does not count. -/
def overrideHeights (env : Environment) :
    List HeightVariable → NodeConfig → Except ConfigError Unit × NodeConfig
  | [], config => (.ok (), config)
  | entry :: rest, config =>
    match env entry.name with
    | none => overrideHeights env rest config
    | some value =>
      match Decimal.word? (Text.trim value) with
      | some height => overrideHeights env rest (entry.store height config)
      | none => (.error (.invalidVariable entry.name value), config)

/-- The settings with the variables of the environment, and what was wrong with one of them. What
was set before stays set. -/
def applyOverrides (env : Environment) (config : NodeConfig) :
    Except ConfigError Unit × NodeConfig :=
  overrideHeights env heightVariables (config.overrideNames env)

end NodeConfig

end TokenLedger
