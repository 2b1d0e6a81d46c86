import TokenLedger.Params
import TokenLedger.Registry

/-!
# The schedule of the ledger

When each upgrade activates, what it brings, and how it changes the parameters in its activation
block. The token upgrade brings the asset store and both messages and sets all parameters; the
symbol upgrade lowers the fees; the description upgrade only moves bounds.
-/

namespace TokenLedger

/-- The activation height of every upgrade. -/
structure UpgradeHeights where
  /-- Of the token upgrade. -/
  tokenIssue : Height
  /-- Of the symbol upgrade. -/
  symbolRules : Height
  /-- Of the description upgrade. -/
  descriptionLimit : Height
  deriving DecidableEq

namespace UpgradeHeights

/-- No upgrade ever activates. -/
def never : UpgradeHeights := ⟨.never, .never, .never⟩

/-- Every upgrade activates at one height. -/
def allAt (height : Height) : UpgradeHeights := ⟨height, height, height⟩

/-- The activation height of an upgrade. -/
def get (heights : UpgradeHeights) : Upgrade → Height
  | .tokenIssue => heights.tokenIssue
  | .symbolRules => heights.symbolRules
  | .descriptionLimit => heights.descriptionLimit

/-- Sets the activation height of an upgrade. -/
def set (heights : UpgradeHeights) (upgrade : Upgrade) (height : Height) : UpgradeHeights :=
  match upgrade with
  | .tokenIssue => { heights with tokenIssue := height }
  | .symbolRules => { heights with symbolRules := height }
  | .descriptionLimit => { heights with descriptionLimit := height }

/-- Every upgrade with its height, in declaration order. -/
def toList (heights : UpgradeHeights) : List (Upgrade × Height) :=
  Upgrade.all.map fun upgrade => (upgrade, heights.get upgrade)

end UpgradeHeights

/-- A change of the parameters that an upgrade makes once. -/
inductive Migration where
  /-- Sets every parameter. -/
  | setParams
  /-- Lowers both fees. -/
  | lowerFees
  deriving DecidableEq, Repr

namespace Migration

variable {ε : Type}

/-- The parameters that the token upgrade sets. -/
def tokenIssueParams : Params :=
  Params.native 10 (.ofWord 10000000000) (.ofWord 5000000000)

/-- The fee for issuing from the symbol upgrade on. -/
def loweredIssueFee : Coins := Params.nativeFee (.ofWord 2000000000)

/-- The fee for minting from the symbol upgrade on. -/
def loweredMintFee : Coins := Params.nativeFee (.ofWord 1000000000)

/-- Carries out a change. -/
def carryOut : Migration → Action ε Unit
  | .setParams => Params.save tokenIssueParams
  | .lowerFees => do
    Params.setIssueFee loweredIssueFee
    Params.setMintFee loweredMintFee

end Migration

namespace UpgradeHeights

/-- Registers the height of every upgrade. -/
def registerAll (registry : Registry Migration) : List (Upgrade × Height) → Registry Migration
  | [] => registry
  | (upgrade, height) :: rest => registerAll (registry.setUpgradeHeight upgrade height) rest

/-- The registry of the ledger for a schedule. -/
def wire (heights : UpgradeHeights) : Except Fault (Registry Migration) := do
  let registry := registerAll .empty heights.toList
  let registry ← registry.gateStores .tokenIssue [.asset]
  let registry ← registry.gateMessages .tokenIssue [.issue, .mint]
  let registry ← registry.addHook .beginFirst .tokenIssue .setParams
  registry.addHook .beginFirst .symbolRules .lowerFees

end UpgradeHeights

end TokenLedger
