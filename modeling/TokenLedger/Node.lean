import TokenLedger.Chain
import TokenLedger.Metrics

/-!
# The node

A chain together with what is counted while it runs. Counting watches the calls of the life cycle
and never changes what they do.
-/

namespace TokenLedger

/-- A chain and its counts. -/
structure Node where
  /-- The chain. -/
  chain : Chain
  /-- What was counted. -/
  metrics : Metrics

namespace Node

/-- A node for settings that can be used. -/
def create (config : NodeConfig) : Except (Stop ChainError) Node :=
  (Chain.create config).map fun chain => ⟨chain, .empty⟩

/-- Loads a genesis document. -/
def initChain (node : Node) (genesis : Genesis) : Except (Stop ChainError) CommitResult × Node :=
  let (result, chain) := node.chain.initChain genesis
  (result, { node with chain })

/-- Counts the hooks of the two phases at one end of a block. -/
def countHooks (metrics : Metrics) (first last : BlockPhase) (run : HookRun) : Metrics :=
  (metrics.add (.hooksRun first) run.first).add (.hooksRun last) run.last

/-- Opens a block. -/
def beginBlock (node : Node) (height : Height) : Except (Stop ChainError) HookRun × Node :=
  match node.chain.beginBlock height with
  | (.ok run, chain) =>
    (.ok run, ⟨chain,
      countHooks { node.metrics with chainHeight := height } .beginFirst .beginLast run⟩)
  | (.error stop, chain) => (.error stop, { node with chain })

/-- Counts a delivery and its outcome. -/
def countDelivery (metrics : Metrics) (kind : MessageKind) (result : TxResult) : Metrics :=
  if result.isAccepted then
    (metrics.tick (.delivered true)).tick (match kind with
      | .issue => .issued
      | .mint => .minted)
  else (metrics.tick (.delivered false)).tick (.rejected result.code)

/-- Delivers a message. A delivery without an open block is timed but not counted further. -/
def deliver (node : Node) (message : Message) : Except (Stop ChainError) TxResult × Node :=
  let metrics := node.metrics.tick .timed
  match node.chain.deliver message with
  | (.ok result, chain) => (.ok result, ⟨chain, countDelivery metrics message.kind result⟩)
  | (.error stop, chain) => (.error stop, ⟨chain, metrics⟩)

/-- Ends a block. -/
def endBlock (node : Node) : Except (Stop ChainError) HookRun × Node :=
  match node.chain.endBlock with
  | (.ok run, chain) => (.ok run, ⟨chain, countHooks node.metrics .endFirst .endLast run⟩)
  | (.error stop, chain) => (.error stop, { node with chain })

/-- Commits a block. -/
def commit (node : Node) : Except (Stop ChainError) CommitResult × Node :=
  let (result, chain) := node.chain.commit
  (result, { node with chain })

/-- Opens, ends and commits the next block without any message. -/
def emptyBlock (node : Node) : Except (Stop ChainError) CommitResult × Node :=
  match node.beginBlock (node.chain.lastHeight + 1) with
  | (.error stop, node) => (.error stop, node)
  | (.ok _, node) =>
    match node.endBlock with
    | (.error stop, node) => (.error stop, node)
    | (.ok _, node) => node.commit

/-- Commits at most `count` empty blocks; the last commit is the answer, or the first error. -/
def emptyBlocks : Nat → Option CommitResult → Node →
    Except (Stop ChainError) (Option CommitResult) × Node
  | 0, last, node => (.ok last, node)
  | count + 1, _, node =>
    match node.emptyBlock with
    | (.ok result, node) => emptyBlocks count (some result) node
    | (.error stop, node) => (.error stop, node)

/-- Commits empty blocks until a height is committed. -/
def advance (node : Node) (height : Height) :
    Except (Stop ChainError) (Option CommitResult) × Node :=
  emptyBlocks (height.toNat - node.chain.lastHeight.toNat) none node

end Node

end TokenLedger
