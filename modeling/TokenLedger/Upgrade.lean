import TokenLedger.Json.Form

/-!
# Upgrades, stores and message kinds

The closed sets of names on which the schedule of the ledger is built. Each has a wire name, which
is also how it stands in documents.
-/

namespace TokenLedger

/-- The height of a block in the agreed order. -/
abbrev Height := UInt64

/-- The activation height of an upgrade that never activates. -/
def Height.never : Height := 0xFFFFFFFFFFFFFFFF

/-- A name out of a closed set: the text itself, or an object whose one member it names. -/
def Json.choice? {α : Type} (all : List α) (wireName : α → String) : Json → Option α
  | .string (some text) => all.find? fun choice => wireName choice = text
  | .object [(some text, .null)] => all.find? fun choice => wireName choice = text
  | _ => none

/-- A change of behaviour that activates at a height. -/
inductive Upgrade where
  /-- Brings the asset store and both messages. -/
  | tokenIssue
  /-- Lowers the fees. -/
  | symbolRules
  /-- Asks for longer symbols and allows longer descriptions. -/
  | descriptionLimit
  deriving DecidableEq, Repr

namespace Upgrade

/-- Every upgrade, in declaration order. -/
def all : List Upgrade := [.tokenIssue, .symbolRules, .descriptionLimit]

/-- The wire name. -/
def wireName : Upgrade → String
  | .tokenIssue => "TokenIssueUpgrade"
  | .symbolRules => "UpdateTokenSymbolRulesHeight"
  | .descriptionLimit => "TokenDesLenLimitUpgradeHeight"

/-- The name inside a structural dump. -/
def label : Upgrade → String
  | .tokenIssue => "TokenIssue"
  | .symbolRules => "UpdateTokenSymbolRules"
  | .descriptionLimit => "TokenDesLenLimit"

/-- The upgrade of a wire name. -/
def ofWireName? (name : String) : Option Upgrade := all.find? fun upgrade => upgrade.wireName = name

instance : JsonForm Upgrade where
  toJson upgrade := .text upgrade.wireName
  ofJson? := Json.choice? all wireName

end Upgrade

/-- A namespace of the ledger's store. -/
inductive StoreName where
  /-- Parameters of the modules. -/
  | params
  /-- Balances and the total supply. -/
  | supply
  /-- Tokens. -/
  | asset
  deriving DecidableEq, Repr

namespace StoreName

/-- Every store, in the order in which state is committed to. -/
def all : List StoreName := [.params, .supply, .asset]

/-- The wire name. -/
def wireName : StoreName → String
  | .params => "params"
  | .supply => "supply"
  | .asset => "asset"

/-- The name inside a structural dump. -/
def label : StoreName → String
  | .params => "Params"
  | .supply => "Supply"
  | .asset => "Asset"

/-- The store of a wire name. -/
def ofWireName? (name : String) : Option StoreName := all.find? fun store => store.wireName = name

/-- The bytes in front of every key of the store: its name and a slash. -/
def keyStart (name : StoreName) : Bytes := Bytes.utf8 name.wireName ++ [47]

instance : JsonForm StoreName where
  toJson name := .text name.wireName
  ofJson? := Json.choice? all wireName

end StoreName

/-- A kind of message. -/
inductive MessageKind where
  /-- Creates a token. -/
  | issue
  /-- Adds units to a token. -/
  | mint
  deriving DecidableEq, Repr

namespace MessageKind

/-- Every kind, in declaration order. -/
def all : List MessageKind := [.issue, .mint]

/-- The wire name. -/
def wireName : MessageKind → String
  | .issue => "issueMsg"
  | .mint => "mintMsg"

/-- The name inside a structural dump. -/
def label : MessageKind → String
  | .issue => "Issue"
  | .mint => "Mint"

/-- The kind of a wire name. -/
def ofWireName? (name : String) : Option MessageKind := all.find? fun kind => kind.wireName = name

instance : JsonForm MessageKind where
  toJson kind := .text kind.wireName
  ofJson? := Json.choice? all wireName

end MessageKind

/-- A point of a block at which hooks run. -/
inductive BlockPhase where
  /-- Before all other work at the begin of a block. -/
  | beginFirst
  /-- After all other work at the begin of a block. -/
  | beginLast
  /-- Before all other work at the end of a block. -/
  | endFirst
  /-- After all other work at the end of a block. -/
  | endLast
  deriving DecidableEq, Repr

namespace BlockPhase

/-- Every phase, in the order in which a block reaches them. -/
def all : List BlockPhase := [.beginFirst, .beginLast, .endFirst, .endLast]

/-- The name of a phase in reports. -/
def wireName : BlockPhase → String
  | .beginFirst => "begin_first"
  | .beginLast => "begin_last"
  | .endFirst => "end_first"
  | .endLast => "end_last"

/-- The phase of a name. -/
def ofWireName? (name : String) : Option BlockPhase := all.find? fun phase => phase.wireName = name

end BlockPhase

end TokenLedger
