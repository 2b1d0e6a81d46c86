import TokenLedger.Params
import TokenLedger.Supply
import TokenLedger.TokenBook

/-!
# Genesis documents

The state from which a chain starts: balances, and the parameters and tokens of the token module. A
document is checked as a whole before any of it is loaded. An export is the document of a running
state.
-/

namespace TokenLedger

/-- The part of a genesis document about tokens. -/
structure AssetGenesis where
  /-- The parameters. -/
  params : Params
  /-- The tokens. -/
  tokens : List Token
  deriving DecidableEq

/-- Why the part about tokens is refused. -/
inductive AssetGenesisError where
  /-- A token breaks a rule. -/
  | invalidToken (symbol : String) (cause : AssetError)
  /-- A symbol stands twice. -/
  | duplicateToken (symbol : String)
  /-- The parameters cannot be used. -/
  | invalidParams (cause : ParamsError)
  deriving DecidableEq

/-- What is wrong with the part about tokens. -/
def AssetGenesisError.message : AssetGenesisError → String
  | .invalidToken symbol cause => "invalid genesis token " ++ symbol ++ ": " ++ cause.message
  | .duplicateToken symbol => "duplicated genesis token " ++ symbol
  | .invalidParams cause => "invalid asset params: " ++ cause.message

/-- The message of what caused the refusal, if it has a cause of its own. -/
def AssetGenesisError.causeMessage? : AssetGenesisError → Option String
  | .invalidToken _ cause => some cause.message
  | .duplicateToken _ => none
  | .invalidParams cause => some cause.message

namespace AssetGenesis

variable {ε : Type}

/-- The part about tokens of a document that leaves it out. -/
def default : AssetGenesis := ⟨Params.default, []⟩

instance : JsonForm AssetGenesis where
  toJson genesis :=
    .record [("params", JsonForm.toJson genesis.params), ("tokens", JsonForm.toJson genesis.tokens)]
  ofJson? json := do
    let [params, tokens] ← json.fields? [["params"], ["tokens"]] | none
    some { params := ← Json.required? params, tokens := ← Json.orDefault? [] tokens }

/-- Checks tokens in order, each for its rules and then for a symbol seen before. -/
def validateTokens : List String → List Token → Except AssetGenesisError Unit
  | _, [] => .ok ()
  | seen, token :: rest =>
    match token.checkStored with
    | .error cause => .error (.invalidToken token.symbol cause)
    | .ok () =>
      if seen.contains token.symbol then .error (.duplicateToken token.symbol)
      else validateTokens (token.symbol :: seen) rest

/-- Checks the tokens and then the parameters. -/
def validate (genesis : AssetGenesis) : Except AssetGenesisError Unit :=
  match validateTokens [] genesis.tokens with
  | .error cause => .error cause
  | .ok () => genesis.params.validate.mapError AssetGenesisError.invalidParams

/-- Creates tokens in order. -/
def createAll : List Token → Action ε Unit
  | [] => pure ()
  | token :: rest => do
    TokenBook.create token
    createAll rest

/-- Loads the tokens and then the parameters. -/
def load (genesis : AssetGenesis) : Action ε Unit := do
  createAll genesis.tokens
  Params.save genesis.params

/-- The part about tokens of the current state. -/
def save : Action ε AssetGenesis := do
  let params ← Params.load
  let tokens ← TokenBook.list
  return { params, tokens }

end AssetGenesis

/-- A genesis document. -/
structure Genesis where
  /-- The chain it is for; the empty name stands for any. -/
  chainId : String
  /-- What accounts hold. -/
  balances : List AccountBalance
  /-- The part about tokens. -/
  asset : AssetGenesis
  deriving DecidableEq

/-- Why a genesis document is refused. -/
inductive GenesisError where
  /-- It is for another chain. -/
  | chainIdMismatch (expected found : String)
  /-- A balance is not a well-formed set of positive amounts. -/
  | invalidBalance (address : Address) (coins : Coins)
  /-- An account stands twice. -/
  | duplicateAccount (address : Address)
  /-- The part about tokens is refused. -/
  | asset (cause : AssetGenesisError)
  deriving DecidableEq

/-- What is wrong with the document. -/
def GenesisError.message : GenesisError → String
  | .chainIdMismatch expected found =>
    "Genesis chain id " ++ Text.quote found ++ " does not match node chain id " ++
      Text.quote expected
  | .invalidBalance address coins =>
    "Invalid genesis balance for " ++ address.text ++ ": coins " ++ coins.describe ++
      " must be valid and positive"
  | .duplicateAccount address => "Duplicated genesis account " ++ address.text
  | .asset cause => cause.message

namespace Genesis

/-- The document that says nothing. -/
def default : Genesis := ⟨"", [], AssetGenesis.default⟩

instance : JsonForm Genesis where
  toJson genesis := .record [
    ("chain_id", .text genesis.chainId),
    ("balances", JsonForm.toJson genesis.balances),
    ("asset", JsonForm.toJson genesis.asset)]
  ofJson? json := do
    let [chainId, balances, asset] ← json.fields? [["chain_id"], ["balances"], ["asset"]] | none
    some {
      chainId := ← Json.orDefault? "" chainId
      balances := ← Json.orDefault? [] balances
      asset := ← Json.orDefault? AssetGenesis.default asset }

/-- Checks balances in order, each for an account seen before and then for its coins. -/
def validateBalances : List Address → List AccountBalance → Except GenesisError Unit
  | _, [] => .ok ()
  | seen, balance :: rest =>
    if seen.contains balance.address then .error (.duplicateAccount balance.address)
    else if !balance.coins.isValid || !balance.coins.isAllPositive then
      .error (.invalidBalance balance.address balance.coins)
    else validateBalances (balance.address :: seen) rest

/-- Checks the chain, the balances and the part about tokens. -/
def validate (chainId : String) (genesis : Genesis) : Except GenesisError Unit :=
  if genesis.chainId ≠ "" ∧ genesis.chainId ≠ chainId then
    .error (.chainIdMismatch chainId genesis.chainId)
  else
    match validateBalances [] genesis.balances with
    | .error cause => .error cause
    | .ok () => genesis.asset.validate.mapError GenesisError.asset

/-- Funds accounts in order. -/
def fundAll : List AccountBalance → Action BaseError Unit
  | [] => pure ()
  | balance :: rest => do
    Supply.fund balance.address balance.coins
    fundAll rest

/-- Loads the balances and the part about tokens. -/
def load (genesis : Genesis) : Action BaseError Unit := do
  fundAll genesis.balances
  genesis.asset.load

/-- The document of the current state. -/
def save {ε : Type} (chainId : String) : Action ε Genesis := do
  let balances ← Supply.balances
  let asset ← AssetGenesis.save
  return { chainId, balances, asset }

end Genesis

end TokenLedger
