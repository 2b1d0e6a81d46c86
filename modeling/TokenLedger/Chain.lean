import TokenLedger.Config.Settings
import TokenLedger.Genesis
import TokenLedger.Issuance
import TokenLedger.Query

/-!
# The chain

The life cycle of the ledger: a genesis document is loaded once, then blocks are opened at
consecutive heights, messages are delivered into the open block, the block is ended, and a commit
merges its writes into the committed store. Reads are answered from the committed store; the gates
follow the height of the block that was opened last.

The commitment to state is the digest of `preimage`: for each store that exists at the height, its
name and then its entries, each key and each value after its length.
-/

namespace TokenLedger

/-- The pending writes of a block that is open. -/
structure OpenBlock where
  /-- Its height. -/
  height : Height
  /-- Its writes. -/
  writes : WriteSet

/-- The state of a node's ledger. -/
structure Chain where
  /-- The name of the chain. -/
  chainId : String
  /-- The height after which no block is opened; zero for none. -/
  haltHeight : Height
  /-- The schedule, at the height of the block opened last. -/
  registry : Registry Migration
  /-- The durable store. -/
  committed : Store
  /-- The open block. -/
  block : Option OpenBlock
  /-- The height committed last. -/
  lastHeight : Height
  /-- The commitment made last. -/
  lastHash : Digest
  /-- Whether a genesis document was loaded. -/
  initialized : Bool
  /-- Whether the halt height was committed. -/
  halted : Bool

/-- Why a call of the life cycle is refused. -/
inductive ChainError where
  /-- A genesis document was loaded before. -/
  | alreadyInitialized
  /-- No genesis document was loaded. -/
  | notInitialized
  /-- A block is open. -/
  | blockInProgress (height : Height)
  /-- No block is open. -/
  | noOpenBlock
  /-- A block does not follow the one committed last. -/
  | unexpectedHeight (last got : Height)
  /-- The node has halted. -/
  | halted (height : Height)
  /-- The settings are refused. -/
  | config (cause : ConfigError)
  /-- The genesis document is refused. -/
  | genesis (cause : GenesisError)
  /-- The balances of the genesis document cannot be loaded. -/
  | funding (cause : BaseError)
  deriving DecidableEq

/-- What is wrong with the call. -/
def ChainError.message : ChainError → String
  | .alreadyInitialized => "Chain is already initialized"
  | .notInitialized => "Chain is not initialized"
  | .blockInProgress height => "Block " ++ Decimal.text height.toNat ++ " is still open"
  | .noOpenBlock => "No block is open"
  | .unexpectedHeight last got =>
    "Block height " ++ Decimal.text got.toNat ++ " does not follow last committed height " ++
      Decimal.text last.toNat
  | .halted height => "Node halted at height " ++ Decimal.text height.toNat
  | .config cause => cause.message
  | .genesis cause => cause.message
  | .funding cause => "Genesis funding failed: " ++ cause.message

/-- What a commit answers. -/
structure CommitResult where
  /-- The height committed. -/
  height : Height
  /-- The commitment to the state. -/
  hash : Digest
  /-- Whether the node has halted. -/
  halted : Bool
  deriving DecidableEq

/-- What running the hooks of the two phases at one end of a block did. -/
structure HookRun where
  /-- The hooks of the earlier phase. -/
  first : Nat
  /-- The hooks of the later phase. -/
  last : Nat
  /-- The events of all of them. -/
  events : List Event
  deriving DecidableEq

/-- What delivering a message answers. -/
structure TxResult where
  /-- Zero if the message was applied, and else the code of the cause. -/
  code : Nat
  /-- The code space of the cause. -/
  codespace : String
  /-- The text of the cause. -/
  log : String
  /-- The events of the message. -/
  events : List Event
  deriving DecidableEq

namespace TxResult

/-- A message was applied. -/
def accepted (events : List Event) : TxResult := ⟨0, "", "", events⟩

/-- A message was refused. -/
def rejected (cause : AssetError) : TxResult := ⟨cause.code, cause.codespace, cause.message, []⟩

/-- Whether the message was applied. -/
def isAccepted (result : TxResult) : Bool := result.code = 0

end TxResult

namespace Chain

/-- The module accounts of the chain. -/
def modules : ModuleAccounts := ModuleAccounts.standard

/-- A chain for settings that can be used, with an empty store. -/
def create (config : NodeConfig) : Except (Stop ChainError) Chain :=
  match config.validate with
  | .error cause => .error (.refused (.config cause))
  | .ok () =>
    match config.upgrades.wire with
    | .error fault => .error (.faulted fault)
    | .ok registry => .ok {
        chainId := config.chainId
        haltHeight := config.haltHeight
        registry
        committed := ∅
        block := none
        lastHeight := 0
        lastHash := Digest.zero
        initialized := false
        halted := false }

/-! ## Commitment -/

/-- A byte string after its length in eight bytes. -/
def lengthPrefixed (bytes : Bytes) : Bytes := Bytes.ofNat 8 bytes.length ++ bytes

/-- An entry of a store: key and value, each after its length. -/
def entryBytes (entry : Bytes × Bytes) : Bytes := lengthPrefixed entry.1 ++ lengthPrefixed entry.2

/-- A store: its name and its entries, keys without the name. -/
def storeBytes (store : Store) (name : StoreName) : Bytes :=
  Bytes.utf8 name.wireName ++
    ((View.base store).scanIn name.keyStart []).flatMap entryBytes

/-- The bytes of which a commitment is the digest. -/
def preimage (present : StoreName → Bool) (store : Store) : Bytes :=
  (StoreName.all.filter present).flatMap (storeBytes store)

/-- The commitment to a store under the gates of a registry. -/
def commitment (registry : Registry Migration) (store : Store) : Digest :=
  Digest.sha256 (preimage registry.hasStore store)

/-! ## Life cycle -/

/-- Checks a genesis document, loads it and commits height zero. -/
def initChain (chain : Chain) (genesis : Genesis) :
    Except (Stop ChainError) CommitResult × Chain :=
  if chain.initialized then (.error (.refused .alreadyInitialized), chain)
  else
    let chain := { chain with registry := chain.registry.atHeight 0 }
    match genesis.validate chain.chainId with
    | .error cause => (.error (.refused (.genesis cause)), chain)
    | .ok () =>
      match genesis.load.perform ⟨(View.base chain.committed).branch, 0, []⟩ with
      | (.error (.refused cause), _) => (.error (.refused (.funding cause)), chain)
      | (.error (.faulted fault), _) => (.error (.faulted fault), chain)
      | (.ok (), context) =>
        let committed := context.view.commit.flatten
        let hash := commitment chain.registry committed
        (.ok ⟨0, hash, false⟩, { chain with
          committed, initialized := true, lastHeight := 0, lastHash := hash })

/-- Runs an action over the open block and keeps its writes. -/
def inBlock {α : Type} (chain : Chain) (action : Action Empty α) :
    Except (Stop ChainError) (α × List Event) × Chain :=
  match chain.block with
  | none => (.error (.refused .noOpenBlock), chain)
  | some block =>
    match action.perform ⟨.layer (.base chain.committed) block.writes, block.height, []⟩ with
    | (.ok value, context) =>
      (.ok (value, context.events),
        { chain with block := some { block with writes := context.view.pending } })
    | (.error (.faulted fault), _) =>
      (.error (.faulted fault), { chain with block := some { block with writes := ∅ } })
    | (.error (.refused cause), _) => nomatch cause

/-- Runs the hooks of two phases. -/
def runPhases (chain : Chain) (first last : BlockPhase) :
    Except (Stop ChainError) HookRun × Chain :=
  let action : Action Empty (Nat × Nat) := do
    let first ← chain.registry.dispatch Migration.carryOut first
    let last ← chain.registry.dispatch Migration.carryOut last
    return (first, last)
  match chain.inBlock action with
  | (.ok ((first, last), events), chain) => (.ok ⟨first, last, events⟩, chain)
  | (.error stop, chain) => (.error stop, chain)

/-- Opens the block that follows the one committed last, and runs its hooks. -/
def beginBlock (chain : Chain) (height : Height) : Except (Stop ChainError) HookRun × Chain :=
  if !chain.initialized then (.error (.refused .notInitialized), chain)
  else if chain.halted then (.error (.refused (.halted chain.lastHeight)), chain)
  else
    match chain.block with
    | some block => (.error (.refused (.blockInProgress block.height)), chain)
    | none =>
      if chain.lastHeight.toNat + 1 = height.toNat then
        { chain with
          registry := chain.registry.atHeight height, block := some ⟨height, ∅⟩
        }.runPhases .beginFirst .beginLast
      else (.error (.refused (.unexpectedHeight chain.lastHeight height)), chain)

/-- An action whose refusals become answers; a refused action leaves its context as it was. -/
def answering (action : Action AssetError Unit) : Action Empty (Option AssetError) := fun context =>
  match action.perform context with
  | (.ok (), after) => (.ok none, after)
  | (.error (.refused cause), after) => (.ok (some cause), after)
  | (.error (.faulted fault), after) => (.error (.faulted fault), after)

/-- What a message does to the open block: its kind has to be accepted at this height, it has to
pass its own checks, and then it is applied. -/
def deliverAction (registry : Registry Migration) (message : Message) : Action Empty TxResult := do
  if !registry.acceptsMessage message.kind then
    return .rejected (.supply (.messageNotSupported message.kind registry.height))
  match message.checkBasic (Regime.ofRegistry registry) with
  | .error cause => return .rejected cause
  | .ok () =>
    let before := (← get).events.length
    match ← answering (Issuance.handle modules (Regime.ofRegistry registry) message) with
    | some cause => return .rejected cause
    | none => return .accepted ((← get).events.drop before)

/-- Delivers a message into the open block. -/
def deliver (chain : Chain) (message : Message) : Except (Stop ChainError) TxResult × Chain :=
  match chain.inBlock (deliverAction chain.registry message) with
  | (.ok (result, _), chain) => (.ok result, chain)
  | (.error stop, chain) => (.error stop, chain)

/-- Runs the hooks at the end of the open block. -/
def endBlock (chain : Chain) : Except (Stop ChainError) HookRun × Chain :=
  chain.runPhases .endFirst .endLast

/-- Merges the open block into the committed store. -/
def commit (chain : Chain) : Except (Stop ChainError) CommitResult × Chain :=
  match chain.block with
  | none => (.error (.refused .noOpenBlock), chain)
  | some block =>
    let committed := (View.layer (.base chain.committed) block.writes).commit.flatten
    let hash := commitment chain.registry committed
    let halted := chain.haltHeight ≠ 0 && chain.haltHeight = block.height
    (.ok ⟨block.height, hash, halted⟩, { chain with
      committed, block := none, lastHeight := block.height, lastHash := hash, halted })

/-! ## Reads -/

/-- Runs an action over the committed store and drops its writes. -/
def read {ε α : Type} (chain : Chain) (action : Action ε α) : Except (Stop ε) α :=
  (action.perform ⟨(View.base chain.committed).branch, chain.lastHeight, []⟩).1

/-- Answers a query. -/
def query (chain : Chain) (path : String) (body : Bytes) : Except (Stop BaseError) String :=
  chain.read (Query.route (chain.registry.isApplied .tokenIssue) path body)

/-- The genesis document of the committed state. -/
def exportGenesis (chain : Chain) : Except (Stop ChainError) Genesis :=
  match chain.block with
  | some block => .error (.refused (.blockInProgress block.height))
  | none => chain.read (Genesis.save chain.chainId)

/-- What an account holds. -/
def balance (chain : Chain) (address : Address) : Except (Stop Empty) Coins :=
  chain.read (Supply.balance address)

/-- The total supply. -/
def totalSupply (chain : Chain) : Except (Stop Empty) Coins := chain.read Supply.total

/-- The token of a symbol. -/
def token (chain : Chain) (symbol : String) : Except (Stop Empty) (Option Token) :=
  chain.read (TokenBook.find? symbol)

end Chain

end TokenLedger
