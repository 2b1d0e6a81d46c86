import TokenLedger.Proofs.Chain.Delivery
import TokenLedger.Proofs.Ledger.Genesis

/-!
# The invariant of a chain

Calls of the life cycle arrive in any order and with any arguments. Whatever they answer, a chain
that has loaded a genesis document has a committed store that holds a ledger in use, and if a block
is open, so does the store through its writes; before that its store is empty and no block is open.
Each call keeps this, so every run of a chain that was created does.
-/

namespace TokenLedger.Chain

open TokenLedger.Action

variable {chain : Chain} {block : OpenBlock} {ledger : Ledger} {params : Params}

/-- A call of the life cycle. -/
inductive Call where
  /-- Loads a genesis document. -/
  | initChain (genesis : Genesis)
  /-- Opens a block. -/
  | beginBlock (height : Height)
  /-- Delivers a message. -/
  | deliver (message : Message)
  /-- Runs the hooks at the end of the block. -/
  | endBlock
  /-- Merges the open block. -/
  | commit

/-- The chain after a call, whatever the call answers. -/
def after (chain : Chain) : Call → Chain
  | .initChain genesis => (chain.initChain genesis).2
  | .beginBlock height => (chain.beginBlock height).2
  | .deliver message => (chain.deliver message).2
  | .endBlock => chain.endBlock.2
  | .commit => chain.commit.2

/-- The chain after calls in order. -/
def run (chain : Chain) (calls : List Call) : Chain := calls.foldl after chain

/-- A chain whose stores hold ledgers in use, from its genesis on. -/
structure Sound (chain : Chain) : Prop where
  /-- Before its genesis the store is empty, and no block is open. -/
  unloaded : chain.initialized = false → chain.committed = ∅ ∧ chain.block = none
  /-- The committed store holds a ledger in use. -/
  committed : chain.initialized = true →
    ∃ ledger params, chain.committed.Holds ledger ∧ ledger.Sound params
  /-- Through the writes of the open block the store holds one, too. -/
  pending : ∀ block, chain.block = some block →
    ∃ ledger params, chain.Processes block ledger ∧ ledger.Sound params

/-- The chain with some settings and a schedule before its genesis. -/
def beginning (config : NodeConfig) (registry : Registry Migration) : Chain where
  chainId := config.chainId
  haltHeight := config.haltHeight
  registry
  committed := ∅
  block := none
  lastHeight := 0
  lastHash := Digest.zero
  initialized := false
  halted := false

/-- A chain that was created is at its beginning, with settings that can be used. -/
theorem eq_beginning_of_create {config : NodeConfig} (created : create config = .ok chain) :
    config.validate = .ok () ∧
      ∃ registry, config.upgrades.wire = .ok registry ∧ chain = beginning config registry := by
  unfold create at created
  split at created
  · contradiction
  next valid =>
  split at created
  · contradiction
  next registry wired =>
  injection created with created
  exact ⟨valid, registry, wired, created.symm⟩

/-- A chain that was created is sound. -/
theorem sound_create {config : NodeConfig} (created : create config = .ok chain) : chain.Sound := by
  obtain ⟨_, registry, _, rfl⟩ := eq_beginning_of_create created
  exact ⟨fun _ => ⟨rfl, rfl⟩, (nomatch ·), fun _ isOpen => (nomatch isOpen)⟩

/-- A chain that was created has loaded no genesis document. -/
theorem initialized_create {config : NodeConfig} (created : create config = .ok chain) :
    chain.initialized = false := by
  obtain ⟨_, registry, _, rfl⟩ := eq_beginning_of_create created
  rfl

/-! ## Genesis -/

/-- Why a genesis document is not loaded. -/
inductive InitRefused (chainId : String) (genesis : Genesis) : ChainError → Prop
  /-- It does not pass its checks. -/
  | genesis {cause : GenesisError} (broken : genesis.validate chainId = .error cause) :
    InitRefused chainId genesis (.genesis cause)
  /-- A total does not fit. -/
  | funding (passed : genesis.validate chainId = .ok ()) (denom : String)
    (exceeds : 2 ^ 128 ≤ Genesis.listedTotal genesis.balances denom) :
    InitRefused chainId genesis (.funding (.invalidCoins (.overflow denom)))

/-- A chain at height zero of its schedule. -/
def atGenesis (chain : Chain) : Chain :=
  { chain with registry := chain.registry.atHeight 0 }

/-- A chain that has loaded a genesis document into a store. -/
def loaded (chain : Chain) (committed : Store) : Chain :=
  { chain.atGenesis with
    committed
    initialized := true
    lastHeight := 0
    lastHash := commitment chain.atGenesis.registry committed }

/-- A genesis document is loaded into an empty store, or it is refused and nothing is loaded. -/
theorem initChain_cases (fresh : chain.initialized = false) (empty : chain.committed = ∅)
    (genesis : Genesis) :
    (∃ cause, InitRefused chain.chainId genesis cause ∧
      chain.initChain genesis = (.error (.refused cause), chain.atGenesis)) ∨
    ∃ committed ledger result, genesis.validate chain.chainId = .ok () ∧
      committed.Holds ledger ∧ genesis.Loaded ledger ∧
      chain.initChain genesis = (.ok result, chain.loaded committed) := by
  have notLoaded : ¬ chain.initialized = true := by rw [fresh]; decide
  unfold initChain
  rw [if_neg notLoaded]
  simp only
  cases passed : genesis.validate chain.chainId with
  | error cause => exact .inl ⟨.genesis cause, .genesis passed, rfl⟩
  | ok value =>
    obtain ⟨_, loadable⟩ := (Genesis.validate_eq_ok_iff _ _).mp passed
    have holds : (View.base chain.committed).branch.flatten.Holds Ledger.empty := by
      rw [empty]
      exact Store.holds_empty
    have ended := Genesis.runs_load loadable (.base chain.committed) ∅ 0 [] holds
    simp only [View.branch]
    generalize genesis.load.perform _ = final at ended ⊢
    cases ended with
    | refused reason =>
      obtain ⟨denom, rfl, exceeds⟩ := reason
      exact .inl ⟨_, .funding passed denom exceeds, rfl⟩
    | @done value after emitted writes holds result =>
      rw [← View.flatten_commit] at holds
      exact .inr ⟨_, after, _, trivial, holds, result.2, rfl⟩

/-- A document that passes its checks and whose totals fit is loaded. -/
theorem exists_initChain (chain : Chain) (fresh : chain.initialized = false)
    (empty : chain.committed = ∅) {genesis : Genesis}
    (passed : genesis.validate chain.chainId = .ok ())
    (fits : ∀ denom, Genesis.listedTotal genesis.balances denom < 2 ^ 128) :
    ∃ committed ledger result, committed.Holds ledger ∧ genesis.Loaded ledger ∧
      chain.initChain genesis = (.ok result, chain.loaded committed) := by
  rcases initChain_cases fresh empty genesis with
    ⟨cause, reason, _⟩ | ⟨committed, ledger, result, _, holds, loaded, done⟩
  · cases reason with
    | genesis broken =>
      rw [passed] at broken
      contradiction
    | funding _ denom exceeds => exact absurd (fits denom) (Nat.not_lt.mpr exceeds)
  · exact ⟨committed, ledger, result, holds, loaded, done⟩

/-- A genesis document keeps a chain sound. -/
theorem Sound.initChain (sound : chain.Sound) (genesis : Genesis) :
    (chain.initChain genesis).2.Sound := by
  cases initialized : chain.initialized with
  | true =>
    unfold Chain.initChain
    rw [initialized, if_pos rfl]
    exact sound
  | false =>
    obtain ⟨empty, closed⟩ := sound.unloaded initialized
    have noBlock : ∀ block, ¬ chain.block = some block := by
      rw [closed]
      exact fun block isOpen => nomatch isOpen
    rcases initChain_cases initialized empty genesis with
      ⟨cause, _, refused⟩ | ⟨committed, ledger, result, _, holds, given, done⟩
    · rw [refused]
      exact ⟨sound.unloaded, sound.committed, fun block isOpen => absurd isOpen (noBlock block)⟩
    · rw [done]
      exact ⟨(nomatch ·), fun _ => ⟨ledger, _, holds, given.sound⟩,
        fun block isOpen => absurd isOpen (noBlock block)⟩

/-! ## Blocks -/

/-- A ledger in use that an open block leaves keeps a chain sound. -/
theorem Sound.withWrites (sound : chain.Sound) (isOpen : chain.block = some block)
    {writes : WriteSet}
    (processes : (chain.withWrites block writes).Processes { block with writes } ledger)
    (ledgerSound : ledger.Sound params) : (chain.withWrites block writes).Sound where
  unloaded unloaded := by
    have closed := (sound.unloaded unloaded).2
    rw [isOpen] at closed
    contradiction
  committed := sound.committed
  pending other same := by
    injection same with same
    subst same
    exact ⟨ledger, params, processes, ledgerSound⟩

/-- Hooks keep a chain sound. -/
theorem Sound.runPhases (sound : chain.Sound) (first last : BlockPhase) :
    (chain.runPhases first last).2.Sound := by
  cases isOpen : chain.block with
  | none =>
    unfold Chain.runPhases inBlock
    rw [isOpen]
    exact sound
  | some block =>
    obtain ⟨ledger, params, processes, ledgerSound⟩ := sound.pending block isOpen
    obtain ⟨writes, ran, left⟩ :=
      exists_runPhases processes ledgerSound.configured first last
    rw [ran]
    exact sound.withWrites isOpen left
      (ledgerSound.setParams (Migration.validate_applyAll ledgerSound.usable _))

/-- The chain with a block open that has no writes yet. -/
def opened (chain : Chain) (height : Height) : Chain :=
  { chain with registry := chain.registry.atHeight height, block := some ⟨height, ∅⟩ }

/-- Without writes the open block holds what is committed. -/
theorem processes_opened (holds : chain.committed.Holds ledger) (height : Height) :
    (chain.opened height).Processes ⟨height, ∅⟩ ledger :=
  ⟨rfl, holds⟩

/-- To begin the block after the one committed last is to open it and to run hooks. -/
theorem beginBlock_eq {height : Height} (initialized : chain.initialized = true)
    (running : chain.halted = false) (closed : chain.block = none)
    (next : chain.lastHeight.toNat + 1 = height.toNat) :
    chain.beginBlock height = (chain.opened height).runPhases .beginFirst .beginLast := by
  have loaded : ¬ (!chain.initialized) = true := by rw [initialized]; decide
  have notHalted : ¬ chain.halted = true := by rw [running]; decide
  unfold Chain.beginBlock
  rw [if_neg loaded, if_neg notHalted, closed]
  simp only [if_pos next]
  rfl

/-- The block after the one committed last is opened, and the hooks of its begin are run. -/
theorem exists_beginBlock (chain : Chain) (holds : chain.committed.Holds ledger)
    (sound : ledger.Sound params) (initialized : chain.initialized = true)
    (running : chain.halted = false) (closed : chain.block = none) (height : Height)
    (next : chain.lastHeight.toNat + 1 = height.toNat) :
    ∃ result writes, chain.beginBlock height =
        (.ok result, (chain.opened height).withWrites ⟨height, ∅⟩ writes) ∧
      ((chain.opened height).withWrites ⟨height, ∅⟩ writes).Processes ⟨height, writes⟩
        (ledger.setParams (Migration.applyAll params
          ((chain.opened height).registry.hooksDue .beginFirst ++
            (chain.opened height).registry.hooksDue .beginLast))) := by
  obtain ⟨writes, ran, left⟩ := exists_runPhases (processes_opened holds height) sound.configured
    .beginFirst .beginLast
  exact ⟨_, writes, (beginBlock_eq initialized running closed next).trans ran, left⟩

/-- The begin of a block keeps a chain sound. -/
theorem Sound.beginBlock (sound : chain.Sound) (height : Height) :
    (chain.beginBlock height).2.Sound := by
  unfold Chain.beginBlock
  split
  · exact sound
  next loaded =>
  have initialized : chain.initialized = true := by simpa using loaded
  split
  · exact sound
  split
  · exact sound
  split
  · obtain ⟨ledger, params, holds, ledgerSound⟩ := sound.committed initialized
    have openedSound : (chain.opened height).Sound := by
      refine ⟨fun unloaded => ?_, sound.committed, fun block isOpen => ?_⟩
      · rw [show chain.initialized = false from unloaded] at initialized
        contradiction
      · injection isOpen with same
        subst same
        exact ⟨ledger, params, processes_opened holds height, ledgerSound⟩
    exact openedSound.runPhases .beginFirst .beginLast
  · exact sound

/-- A message keeps a chain sound. -/
theorem Sound.deliver (sound : chain.Sound) (message : Message) :
    (chain.deliver message).2.Sound := by
  cases isOpen : chain.block with
  | none =>
    unfold Chain.deliver inBlock
    rw [isOpen]
    exact sound
  | some block =>
    obtain ⟨ledger, params, processes, ledgerSound⟩ := sound.pending block isOpen
    rcases deliver_cases processes ledgerSound message with
      ⟨cause, _, rejected⟩ | ⟨after, writes, admitted, applied, accepted, left⟩
    · rw [rejected]
      exact sound
    · rw [accepted]
      exact sound.withWrites isOpen left
        (applied.sound ledgerSound (checkBasic_of_admission admitted))

/-- A message whose code is zero was admitted, and is applied to what the open block holds. -/
theorem Sound.exists_applied (sound : chain.Sound) {message : Message} {result : TxResult}
    {next : Chain} (delivered : chain.deliver message = (.ok result, next))
    (success : result.code = 0) :
    ∃ block ledger params after, chain.Processes block ledger ∧ ledger.Sound params ∧
      admission chain.registry message = .ok () ∧
      Issuance.Applied ledger params (Regime.ofRegistry chain.registry) message after := by
  cases isOpen : chain.block with
  | none => simp [Chain.deliver, inBlock, isOpen] at delivered
  | some block =>
    obtain ⟨ledger, params, processes, ledgerSound⟩ := sound.pending block isOpen
    rcases deliver_cases processes ledgerSound message with
      ⟨cause, _, rejected⟩ | ⟨after, writes, admitted, applied, _, _⟩
    · have same : TxResult.rejected cause = result :=
        Except.ok.inj (congrArg Prod.fst (rejected.symm.trans delivered))
      rw [← same] at success
      exact absurd success (code_rejected_ne_zero cause)
    · exact ⟨block, ledger, params, after, processes, ledgerSound, admitted, applied⟩

/-- A commit keeps a chain sound. -/
theorem Sound.commit (sound : chain.Sound) : chain.commit.2.Sound := by
  unfold Chain.commit
  split
  · exact sound
  next block isOpen =>
  obtain ⟨ledger, params, processes, ledgerSound⟩ := sound.pending block isOpen
  refine ⟨fun unloaded => ?_, fun _ => ⟨ledger, params, ?_, ledgerSound⟩,
    fun _ isOpen => (nomatch isOpen)⟩
  · have closed := (sound.unloaded unloaded).2
    rw [isOpen] at closed
    contradiction
  · change (View.layer (.base chain.committed) block.writes).commit.flatten.Holds ledger
    rw [View.flatten_commit]
    exact processes.holds

/-! ## Runs -/

/-- A call keeps a chain sound. -/
theorem Sound.after (sound : chain.Sound) (call : Call) : (chain.after call).Sound := by
  cases call with
  | initChain genesis => exact sound.initChain genesis
  | beginBlock height => exact sound.beginBlock height
  | deliver message => exact sound.deliver message
  | endBlock => exact sound.runPhases .endFirst .endLast
  | commit => exact sound.commit

/-- Calls keep a chain sound. -/
theorem Sound.run (sound : chain.Sound) (calls : List Call) : (chain.run calls).Sound := by
  induction calls generalizing chain with
  | nil => exact sound
  | cons call rest ih => exact ih (sound.after call)

/-- A commit leaves no block open, whether or not there was one. -/
theorem block_after_commit (chain : Chain) : (chain.after .commit).block = none := by
  change chain.commit.2.block = none
  unfold Chain.commit
  split
  · next closed => exact closed
  · rfl

/-! ## What no call changes -/

/-- Work on the open block keeps the name of the chain. -/
theorem chainId_of_inBlock {α : Type} {action : Action Empty α} {after : Chain}
    {answer : Except (Stop ChainError) (α × List Event)}
    (ran : chain.inBlock action = (answer, after)) : after.chainId = chain.chainId := by
  obtain ⟨writes, same⟩ := chain.exists_inBlock action
  rw [ran] at same
  rw [show after = _ from same]

/-- Hooks keep the name of the chain. -/
theorem chainId_runPhases (chain : Chain) (first last : BlockPhase) :
    (chain.runPhases first last).2.chainId = chain.chainId := by
  unfold runPhases
  simp only
  split <;> next ran => exact chainId_of_inBlock ran

/-- A call keeps the name of the chain. -/
theorem chainId_after (chain : Chain) (call : Call) :
    (chain.after call).chainId = chain.chainId := by
  cases call with
  | initChain genesis =>
    unfold Chain.after Chain.initChain
    simp only
    split
    · rfl
    split
    · rfl
    · split <;> rfl
  | beginBlock height =>
    unfold Chain.after Chain.beginBlock
    simp only
    split
    · rfl
    split
    · rfl
    split
    · rfl
    split
    · exact chainId_runPhases _ .beginFirst .beginLast
    · rfl
  | deliver message =>
    unfold Chain.after Chain.deliver
    simp only
    split <;> next ran => exact chainId_of_inBlock ran
  | endBlock => exact chainId_runPhases chain .endFirst .endLast
  | commit =>
    unfold Chain.after Chain.commit
    simp only
    split <;> rfl

/-- Calls keep the name of the chain. -/
theorem chainId_run (chain : Chain) (calls : List Call) :
    (chain.run calls).chainId = chain.chainId := by
  induction calls generalizing chain with
  | nil => rfl
  | cons call rest ih => exact (ih (chain.after call)).trans (chainId_after chain call)

/-! ## A small chain -/

namespace Sample

/-- Settings under which the token upgrade activates in the first block and no other one does. -/
def config : NodeConfig := ⟨"barkis-chain", "", "genesis.json", 0, ⟨1, .never, .never⟩⟩

/-- The schedule of these settings. -/
def registry : Registry Migration := (config.upgrades.wire.toOption).getD .empty

/-- The chain before its genesis. -/
def fresh : Chain := beginning config registry

/-- The settings can be used. -/
theorem created : create config = .ok fresh := rfl

/-- An account. -/
def holder : Address := ⟨List.replicate 20 7, rfl⟩

/-- Ten fees for issuing. -/
def funds : Coins := Params.nativeFee ⟨100000000000, by decide⟩

/-- A genesis document in which the account holds these. -/
def genesis : Genesis := ⟨"", [⟨holder, funds⟩], AssetGenesis.default⟩

/-- The document passes its checks and its totals can be kept, so a new chain of that name loads it,
whatever its other settings are. -/
theorem exists_initChain_genesis (chain : Chain) (unloaded : chain.initialized = false)
    (empty : chain.committed = ∅) (named : chain.chainId = config.chainId) :
    ∃ committed ledger result, committed.Holds ledger ∧ genesis.Loaded ledger ∧
      chain.initChain genesis = (.ok result, chain.loaded committed) := by
  have passed : genesis.validate chain.chainId = .ok () := by
    rw [named]
    decide
  have fits : ∀ denom, Genesis.listedTotal genesis.balances denom < 2 ^ 128 := fun denom => by
    simpa [Genesis.listedTotal, genesis] using Coins.units_lt _ denom
  exact exists_initChain chain unloaded empty passed fits

/-- The chain goes on from the document. -/
theorem exists_loaded : ∃ committed ledger, committed.Holds ledger ∧ genesis.Loaded ledger ∧
    fresh.run [.initChain genesis] = fresh.loaded committed := by
  obtain ⟨committed, ledger, result, holds, loaded, done⟩ :=
    exists_initChain_genesis fresh rfl rfl rfl
  exact ⟨committed, ledger, holds, loaded, congrArg Prod.snd done⟩

/-- The first block follows the document. -/
theorem exists_begun : ∃ result opened,
    (fresh.run [.initChain genesis]).beginBlock 1 = (.ok result, opened) := by
  obtain ⟨committed, ledger, holds, loaded, ran⟩ := exists_loaded
  obtain ⟨result, writes, begun, _⟩ :=
    exists_beginBlock (fresh.loaded committed) holds loaded.sound rfl rfl rfl 1 rfl
  rw [ran]
  exact ⟨result, _, begun⟩

/-- The first block of the chain, in which the token upgrade sets the parameters. -/
def inFirstBlock : Chain := fresh.run [.initChain genesis, .beginBlock 1]

/-- The first block can be opened. -/
theorem exists_opened : ∃ writes ledger, genesis.Loaded ledger ∧
    inFirstBlock.Processes ⟨1, writes⟩ (ledger.setParams Migration.tokenIssueParams) ∧
    inFirstBlock.registry = registry.atHeight 1 := by
  obtain ⟨committed, ledger, holds, loaded, ran⟩ := exists_loaded
  obtain ⟨result, writes, begun, processes⟩ :=
    exists_beginBlock (fresh.loaded committed) holds loaded.sound rfl rfl rfl 1 rfl
  have reached : inFirstBlock =
      ((fresh.loaded committed).opened 1).withWrites ⟨1, ∅⟩ writes := by
    change (fresh.run [.initChain genesis]).after (.beginBlock 1) = _
    rw [ran]
    exact congrArg Prod.snd begun
  rw [reached]
  exact ⟨writes, ledger, loaded, processes, rfl⟩

/-- What the first block holds is in use. -/
theorem sound_opened {ledger : Ledger} (loaded : genesis.Loaded ledger) :
    (ledger.setParams Migration.tokenIssueParams).Sound Migration.tokenIssueParams :=
  loaded.sound.setParams (by decide)

/-- A request for a token without units, under a symbol of two letters. -/
def shortIssue : IssueMsg := ⟨holder, "Short", "ab", 0, true, 2, ""⟩

/-- A request for units of that token. -/
def shortMint : MintMsg := ⟨holder, "ab", 5⟩

/-- A request for a token with units, under a symbol in capitals. -/
def barkIssue : IssueMsg := ⟨holder, "Bark", "BARK", 1000, true, 2, ""⟩

end Sample

end TokenLedger.Chain
