import TokenLedger.Config.Settings
import TokenLedger.Config.Toml.Reader

/-!
# The settings document

What the settings file of a node may say: a part about the chain and a part about upgrades. Both and
each of their fields may be left out, and fields that are not known are passed over. A part may also
be an array of its fields in order.
-/

namespace TokenLedger

/-- What a settings file says. -/
structure SettingsDocument where
  /-- The name of the chain. -/
  chainId : String
  /-- The height after which the node stops; zero for none. -/
  haltHeight : Height
  /-- The file of the genesis document, if it is named. -/
  genesisFile : Option String
  /-- When upgrades activate. -/
  upgrades : UpgradeHeights
  deriving DecidableEq

namespace SettingsDocument

/-- The fields of a part in order, none for those left out. A date is a part without known fields.
-/
def fields? (names : List String) : Toml → Option (List (Option Toml))
  | .inlineTable members | .table _ _ members => some (names.map (Toml.find? members))
  | .moment => some (names.map fun _ => none)
  | .array items => some ((List.range names.length).map fun place => items[place]?)
  | .tables elements => some ((List.range names.length).map fun place =>
      elements[place]?.map (Toml.table false false))
  | _ => none

/-- A field read by `decode`, or the default where it is left out. -/
def orDefault {α : Type} (default : α) (decode : Toml → Option α) : Option Toml → Option α
  | none => some default
  | some value => decode value

/-- The text a value is. -/
def text? : Toml → Option String
  | .text value => some value
  | _ => none

/-- The height a value is. -/
def height? : Toml → Option Height
  | .integer value => if 0 ≤ value then some (UInt64.ofNat value.toNat) else none
  | _ => none

/-- The name of an upgrade's height in the document. -/
def upgradeField : Upgrade → String
  | .tokenIssue => "TokenIssueHeight"
  | .symbolRules => "UpdateTokenSymbolRulesHeight"
  | .descriptionLimit => "TokenDesLenLimitUpgradeHeight"

/-- The part about upgrades. -/
def upgrades? (part : Toml) : Option UpgradeHeights := do
  let [tokenIssue, symbolRules, descriptionLimit] ←
    fields? (Upgrade.all.map upgradeField) part | none
  some {
    tokenIssue := ← orDefault .never height? tokenIssue
    symbolRules := ← orDefault .never height? symbolRules
    descriptionLimit := ← orDefault .never height? descriptionLimit }

/-- The part about the chain: its name, the halt height and the genesis file. -/
def chain? (part : Toml) : Option (String × Height × Option String) := do
  let [chainId, haltHeight, genesisFile] ←
    fields? ["chain_id", "halt_height", "genesis_file"] part | none
  let chainId ← orDefault NodeConfig.defaultChainId text? chainId
  let haltHeight ← orDefault 0 height? haltHeight
  let genesisFile ← orDefault none (fun value => (text? value).map some) genesisFile
  some (chainId, haltHeight, genesisFile)

/-- The document with the given members. -/
def ofMembers? (members : Toml.Members) : Option SettingsDocument := do
  let (chainId, haltHeight, genesisFile) ←
    orDefault (NodeConfig.defaultChainId, 0, none) chain? (Toml.find? members "base")
  let upgrades ← orDefault .never upgrades? (Toml.find? members "upgrade")
  some { chainId, haltHeight, genesisFile, upgrades }

/-- The document a text spells. -/
def parse? (text : String) : Option SettingsDocument := (Toml.parse? text).bind ofMembers?

end SettingsDocument

end TokenLedger
