import TokenLedger.Proofs.Chain.Faults
import TokenLedger.Proofs.Schedule.Wiring

/-!
# Upgrades to come do not change the past

Two chains that differ in their schedules only, and there only beyond some height, are in lockstep
as long as no block above that height is opened: every request is answered alike and leaves two such
chains again. Whatever depends on the schedule asks the registry at its current height, and at no
such height can the two registries be told apart.
-/

namespace TokenLedger.Chain

variable {bound height : Height}

/-! ## Chains of two schedules -/

/-- The chain with another schedule. -/
def withRegistry (chain : Chain) (registry : Registry Migration) : Chain := { chain with registry }

/-- Two chains that differ in their schedules only, which agree up to a bound that both chains have
not passed. -/
structure Agree (bound : Height) (left right : Chain) : Prop where
  /-- The schedules agree. -/
  registry : left.registry.AgreeUpTo bound right.registry
  /-- They are at the same height. -/
  height : left.registry.height = right.registry.height
  /-- It is not above the bound. -/
  within : left.registry.height ≤ bound
  /-- Nothing else differs. -/
  same : right = left.withRegistry right.registry

/-- Two answers that are the same and leave chains that agree. -/
structure Lockstep {α : Type} (bound : Height) (left right : α × Chain) : Prop where
  /-- The answers are the same. -/
  answer : left.1 = right.1
  /-- The chains agree. -/
  chains : Agree bound left.2 right.2

variable {left right : Chain}

/-- At the height that both are at the schedules answer alike. -/
theorem Agree.alike (agree : Agree bound left right) : left.registry.Alike right.registry := by
  have here := agree.registry left.registry.height agree.within
  have moved : right.registry.atHeight left.registry.height = right.registry := by
    rw [Registry.atHeight, agree.height]
  rwa [moved] at here

/-- Chains that agree still do when both change alike and neither moves its schedule. -/
theorem Agree.of_changed (agree : Agree bound left right) {changed : Chain}
    (kept : changed.registry = left.registry) :
    Agree bound changed (changed.withRegistry right.registry) where
  registry := by
    rw [kept]
    exact agree.registry
  height := by
    rw [kept]
    exact agree.height
  within := by
    rw [kept]
    exact agree.within
  same := rfl

/-- Chains that agree still do when both change alike and move their schedules to one height. -/
theorem Agree.of_moved (agree : Agree bound left right) {changed : Chain} (within : height ≤ bound)
    (kept : changed.registry = left.registry.atHeight height) :
    Agree bound changed (changed.withRegistry (right.registry.atHeight height)) where
  registry := by
    rw [kept]
    exact agree.registry
  height := by
    rw [kept]
    rfl
  within := by
    rw [kept]
    exact within
  same := rfl

/-! ## What depends on the schedule -/

variable {registry other : Registry Migration}

/-- The commitment depends on which stores exist. -/
theorem commitment_congr (alike : registry.Alike other) (store : Store) :
    commitment registry store = commitment other store := by
  rw [commitment, commitment, funext alike.hasStore]

/-- What a message does depends on what is accepted and active. -/
theorem deliverAction_congr (alike : registry.Alike other) (message : Message) :
    deliverAction registry message = deliverAction other message := by
  have regime : Regime.ofRegistry registry = Regime.ofRegistry other := by
    rw [Regime.ofRegistry, Regime.ofRegistry, alike.isApplied]
  rw [deliverAction, deliverAction, alike.acceptsMessage, alike.height, regime]

/-- What two phases do depends on the hooks that are due. -/
theorem phaseHooks_congr (alike : registry.Alike other) (first last : BlockPhase) :
    phaseHooks registry first last = phaseHooks other first last := by
  simp only [phaseHooks, Registry.dispatch, alike.hooksDue]

/-! ## Calls in lockstep -/

/-- Work on the open block does not look at the schedule. -/
theorem inBlock_withRegistry {α : Type} (chain : Chain) (action : Action Empty α) :
    (chain.withRegistry other).inBlock action =
      ((chain.inBlock action).1, (chain.inBlock action).2.withRegistry other) := by
  unfold inBlock withRegistry
  simp only
  split
  · rfl
  split
  · rfl
  · rfl
  · next cause _ _ => exact nomatch cause

/-- Work on the open block keeps the schedule. -/
theorem registry_inBlock {α : Type} (chain : Chain) (action : Action Empty α) :
    (chain.inBlock action).2.registry = chain.registry := by
  obtain ⟨writes, same⟩ := chain.exists_inBlock action
  rw [same]

/-- The same work on the open block is done in lockstep. -/
theorem Agree.inBlock {α : Type} (agree : Agree bound left right) (action : Action Empty α) :
    Lockstep bound (left.inBlock action) (right.inBlock action) := by
  rw [agree.same, inBlock_withRegistry]
  exact ⟨rfl, agree.of_changed (registry_inBlock left action)⟩

/-- What is made of answers that are the same is the same. -/
theorem Lockstep.map {α β : Type} {first second : α × Chain} (make : α → β)
    (lockstep : Lockstep bound first second) :
    Lockstep bound (make first.1, first.2) (make second.1, second.2) :=
  ⟨congrArg make lockstep.answer, lockstep.chains⟩

/-- Hooks are run in lockstep. -/
theorem Agree.runPhases (agree : Agree bound left right) (first last : BlockPhase) :
    Lockstep bound (left.runPhases first last) (right.runPhases first last) := by
  rw [runPhases_eq, runPhases_eq, ← phaseHooks_congr agree.alike]
  exact (agree.inBlock _).map _

/-- Messages are delivered in lockstep. -/
theorem Agree.deliver (agree : Agree bound left right) (message : Message) :
    Lockstep bound (left.deliver message) (right.deliver message) := by
  rw [deliver_eq, deliver_eq, ← deliverAction_congr agree.alike]
  exact (agree.inBlock _).map _

/-- Blocks are committed in lockstep. -/
theorem Agree.commit (agree : Agree bound left right) :
    Lockstep bound left.commit right.commit := by
  have hash := commitment_congr agree.alike
  rw [agree.same]
  unfold Chain.commit withRegistry
  simp only
  split
  · exact ⟨rfl, agree.of_changed rfl⟩
  · simp only [← hash]
    exact ⟨rfl, agree.of_changed rfl⟩

/-- Documents are loaded in lockstep. -/
theorem Agree.initChain (agree : Agree bound left right) (genesis : Genesis) :
    Lockstep bound (left.initChain genesis) (right.initChain genesis) := by
  have hash := commitment_congr (agree.registry 0 UInt64.zero_le)
  rw [agree.same]
  unfold Chain.initChain withRegistry
  simp only
  split
  · exact ⟨rfl, agree.of_changed rfl⟩
  split
  · exact ⟨rfl, agree.of_moved UInt64.zero_le rfl⟩
  split
  · exact ⟨rfl, agree.of_moved UInt64.zero_le rfl⟩
  · exact ⟨rfl, agree.of_moved UInt64.zero_le rfl⟩
  · simp only [← hash]
    exact ⟨rfl, agree.of_moved UInt64.zero_le rfl⟩

/-- The block that hooks run in stays open. -/
theorem exists_block_runPhases (chain : Chain) {block : OpenBlock}
    (isOpen : chain.block = some block) (first last : BlockPhase) :
    ∃ writes, (chain.runPhases first last).2.block = some { block with writes } := by
  obtain ⟨writes, same⟩ := chain.exists_inBlock (phaseHooks chain.registry first last)
  rw [runPhases_eq, same, isOpen]
  exact ⟨writes, rfl⟩

/-- What refuses a call does not look at the schedule. -/
theorem Refuses.withRegistry {chain : Chain} {call : Call} {cause : ChainError}
    (reason : chain.Refuses call cause) : (chain.withRegistry other).Refuses call cause := by
  cases reason with
  | loaded initialized => exact .loaded initialized
  | notLoaded fresh => exact .notLoaded fresh
  | halted initialized stopped => exact .halted initialized stopped
  | inProgress initialized running isOpen => exact .inProgress initialized running isOpen
  | height initialized running closed apart => exact .height initialized running closed apart
  | noBlock needed closed => exact .noBlock needed closed

/-- Blocks up to the bound are opened in lockstep, and what is refused is, too. -/
theorem Agree.beginBlock (agree : Agree bound left right) (height : Height)
    (below : ∀ block, (left.beginBlock height).2.block = some block → block.height ≤ bound) :
    Lockstep bound (left.beginBlock height) (right.beginBlock height) := by
  rcases left.refuses_beginBlock_or height with
    ⟨cause, reason⟩ | ⟨initialized, running, closed, next⟩
  · have reasonToo : right.Refuses (.beginBlock height) cause := by
      rw [agree.same]
      exact reason.withRegistry
    obtain ⟨answered, same⟩ := reason.unchanged
    obtain ⟨answeredToo, sameToo⟩ := reasonToo.unchanged
    refine ⟨Reply.ran.inj (answered.trans answeredToo.symm), ?_⟩
    change Agree bound (left.after (.beginBlock height)) (right.after (.beginBlock height))
    rw [same, sameToo]
    exact agree
  · have begun := beginBlock_eq initialized running closed next
    have begunToo : right.beginBlock height =
        (right.opened height).runPhases .beginFirst .beginLast := by
      rw [agree.same]
      exact beginBlock_eq initialized running closed next
    rw [begun] at below
    obtain ⟨writes, stillOpen⟩ :=
      exists_block_runPhases (left.opened height) rfl .beginFirst .beginLast
    have within : height ≤ bound := below _ stillOpen
    have openedAgree : Agree bound (left.opened height) (right.opened height) := by
      rw [agree.same]
      exact agree.of_moved within rfl
    rw [begun, begunToo]
    exact openedAgree.runPhases .beginFirst .beginLast

/-- Calls are answered in lockstep as long as no block above the bound is opened. -/
theorem Agree.call (agree : Agree bound left right) (call : Call)
    (below : ∀ block, (left.after call).block = some block → block.height ≤ bound) :
    left.reply call = right.reply call ∧ Agree bound (left.after call) (right.after call) := by
  cases call with
  | initChain genesis =>
    obtain ⟨answer, chains⟩ := agree.initChain genesis
    exact ⟨congrArg Reply.committed answer, chains⟩
  | beginBlock height =>
    obtain ⟨answer, chains⟩ := agree.beginBlock height below
    exact ⟨congrArg Reply.ran answer, chains⟩
  | deliver message =>
    obtain ⟨answer, chains⟩ := agree.deliver message
    exact ⟨congrArg Reply.delivered answer, chains⟩
  | endBlock =>
    obtain ⟨answer, chains⟩ := agree.runPhases .endFirst .endLast
    exact ⟨congrArg Reply.ran answer, chains⟩
  | commit =>
    obtain ⟨answer, chains⟩ := agree.commit
    exact ⟨congrArg Reply.committed answer, chains⟩

/-! ## Requests in lockstep -/

/-- What a request answers. -/
inductive Response where
  /-- To a call. -/
  | replied (reply : Reply)
  /-- To a query. -/
  | queried (answer : Except (Stop BaseError) String)
  /-- To an export. -/
  | exported (answer : Except (Stop ChainError) Genesis)
  /-- To a question for coins. -/
  | held (answer : Except (Stop Empty) Coins)
  /-- To a question for a token. -/
  | found (answer : Except (Stop Empty) (Option Token))

/-- The answer to a request. -/
def response (chain : Chain) : Request → Response
  | .call call => .replied (chain.reply call)
  | .query path body => .queried (chain.query path body)
  | .exportGenesis => .exported chain.exportGenesis
  | .balance address => .held (chain.balance address)
  | .totalSupply => .held chain.totalSupply
  | .token symbol => .found (chain.token symbol)

/-- The answers to requests in order. -/
def responses (chain : Chain) : List Request → List Response
  | [] => []
  | request :: rest => chain.response request :: (chain.afterRequest request).responses rest

/-- Requests after none of which a block above a bound is open. -/
def StaysUpTo (bound : Height) (chain : Chain) (requests : List Request) : Prop :=
  ∀ past, past <+: requests → ∀ block, (chain.serve past).block = some block → block.height ≤ bound

/-- What stays up to a bound does so after its first request. -/
theorem StaysUpTo.tail {chain : Chain} {request : Request} {rest : List Request}
    (stays : chain.StaysUpTo bound (request :: rest)) :
    (chain.afterRequest request).StaysUpTo bound rest := fun past started =>
  stays (request :: past) ((List.prefix_cons_inj request).mpr started)

/-- After the first request of what stays up to a bound no block above it is open. -/
theorem StaysUpTo.head {chain : Chain} {request : Request} {rest : List Request}
    (stays : chain.StaysUpTo bound (request :: rest)) {block : OpenBlock}
    (isOpen : (chain.afterRequest request).block = some block) : block.height ≤ bound :=
  stays [request] (List.prefix_append [request] rest) block isOpen

/-- The committed store is read alike. -/
theorem Agree.read {ε α : Type} (agree : Agree bound left right) (action : Action ε α) :
    right.read action = left.read action := by
  rw [agree.same]
  exact read_congr rfl rfl action

/-- Queries are answered alike, for their gate stands alike. -/
theorem Agree.query (agree : Agree bound left right) (path : String) (body : Bytes) :
    right.query path body = left.query path body := by
  rw [Chain.query, Chain.query, agree.read, agree.alike.isApplied]

/-- The committed state is exported alike. -/
theorem Agree.exportGenesis (agree : Agree bound left right) :
    right.exportGenesis = left.exportGenesis := by
  rw [agree.same]
  rfl

/-- Requests are answered in lockstep as long as no block above the bound is opened. -/
theorem Agree.request (agree : Agree bound left right) (request : Request)
    (below : ∀ block, (left.afterRequest request).block = some block → block.height ≤ bound) :
    left.response request = right.response request ∧
      Agree bound (left.afterRequest request) (right.afterRequest request) := by
  cases request with
  | call call =>
    obtain ⟨answer, chains⟩ := agree.call call below
    exact ⟨congrArg Response.replied answer, chains⟩
  | query path body => exact ⟨congrArg Response.queried (agree.query path body).symm, agree⟩
  | exportGenesis => exact ⟨congrArg Response.exported agree.exportGenesis.symm, agree⟩
  | balance address => exact ⟨congrArg Response.held (agree.read _).symm, agree⟩
  | totalSupply => exact ⟨congrArg Response.held (agree.read _).symm, agree⟩
  | token symbol => exact ⟨congrArg Response.found (agree.read _).symm, agree⟩

/-- Requests that stay up to the bound are all answered in lockstep. -/
theorem Agree.requests (agree : Agree bound left right) {requests : List Request}
    (stays : left.StaysUpTo bound requests) :
    left.responses requests = right.responses requests ∧
      Agree bound (left.serve requests) (right.serve requests) := by
  induction requests generalizing left right with
  | nil => exact ⟨rfl, agree⟩
  | cons request rest ih =>
    obtain ⟨answer, chains⟩ := agree.request request fun _ => stays.head
    obtain ⟨later, final⟩ := ih chains stays.tail
    exact ⟨congrArg₂ List.cons answer later, final⟩

/-! ## Chains that were created -/

/-- Schedules that agree are refused alike. -/
theorem validate_congr {first second : NodeConfig} (chainId : first.chainId = second.chainId)
    (agree : first.upgrades.AgreeUpTo bound second.upgrades) :
    first.validate = second.validate := by
  simp only [NodeConfig.validate, chainId, agree.eq_zero_iff]

/-- Settings with schedules that agree create chains that agree, or are refused alike. -/
theorem create_cases {first second : NodeConfig} (chainId : first.chainId = second.chainId)
    (haltHeight : first.haltHeight = second.haltHeight)
    (agree : first.upgrades.AgreeUpTo bound second.upgrades) :
    (∃ stop, create first = .error stop ∧ create second = .error stop) ∨
      ∃ left right, create first = .ok left ∧ create second = .ok right ∧
        Agree bound left right := by
  have same := validate_congr chainId agree
  cases valid : first.validate with
  | error cause =>
    have validToo : second.validate = .error cause := same.symm.trans valid
    refine .inl ⟨.refused (.config cause), ?_, ?_⟩
    · rw [create, valid]
    · rw [create, validToo]
  | ok passed =>
    have validToo : second.validate = .ok () := same.symm.trans valid
    have wired := UpgradeHeights.wire_eq (NodeConfig.positive_of_validate valid)
    have wiredToo := UpgradeHeights.wire_eq (NodeConfig.positive_of_validate validToo)
    refine .inr ⟨beginning first first.upgrades.registry,
      beginning second second.upgrades.registry, ?_, ?_, agree.registry, rfl, UInt64.zero_le, ?_⟩
    · simp only [create, valid, wired, beginning]
    · simp only [create, validToo, wiredToo, beginning]
    · rw [beginning, beginning, withRegistry, chainId, haltHeight]

/-- A step opens no block above a bound unless it is asked to. -/
theorem Step.below {chain next : Chain} {ledger after : Ledger} {call : Call} {reply : Reply}
    (step : chain.Step ledger call reply next after)
    (asked : ∀ height, call = .beginBlock height → height ≤ bound)
    (below : ∀ block, chain.block = some block → block.height ≤ bound) :
    ∀ block, next.block = some block → block.height ≤ bound := by
  cases step with
  | refused | notLoaded | loaded | rejected => exact below
  | opened =>
    rintro block ⟨⟩
    exact asked _ rfl
  | applied _ isOpen | ended _ isOpen =>
    rintro block ⟨⟩
    have within := below _ isOpen
    exact within
  | merged => exact fun _ isOpen => nomatch isOpen

/-- Requests that ask for no block above a bound stay up to it. -/
theorem Sound.staysUpTo {chain : Chain} (sound : chain.Sound)
    (below : ∀ block, chain.block = some block → block.height ≤ bound) {requests : List Request}
    (asked : ∀ height, .call (.beginBlock height) ∈ requests → height ≤ bound) :
    chain.StaysUpTo bound requests := by
  induction requests generalizing chain with
  | nil =>
    intro past started
    rw [List.prefix_nil.mp started]
    exact below
  | cons request rest ih =>
    have askedLater : ∀ height, .call (.beginBlock height) ∈ rest → height ≤ bound :=
      fun height member => asked height (List.mem_cons_of_mem request member)
    have later : (chain.afterRequest request).StaysUpTo bound rest := by
      cases request with
      | call call =>
        obtain ⟨_, _, _, step⟩ := sound.exists_step call
        refine ih (sound.after call) (step.below ?_ below) askedLater
        rintro height rfl
        exact asked height List.mem_cons_self
      | query | exportGenesis | balance | totalSupply | token => exact ih sound below askedLater
    intro past started
    cases past with
    | nil => exact below
    | cons first past =>
      obtain ⟨rfl, startedLater⟩ := List.cons_prefix_cons.mp started
      exact later past startedLater

/-- Settings of one chain whose schedules differ only beyond a bound, where both are to come, are
refused alike, or create chains that give the same answers to the same requests as long as no block
above the bound is opened. In the end these chains, too, differ in their schedules only. -/
theorem responses_eq_of_agreeUpTo {first second : NodeConfig}
    (chainId : first.chainId = second.chainId) (haltHeight : first.haltHeight = second.haltHeight)
    (agree : first.upgrades.AgreeUpTo bound second.upgrades) :
    (∀ stop, create first = .error stop ↔ create second = .error stop) ∧
    ∀ left right, create first = .ok left → create second = .ok right →
      ∀ requests, left.StaysUpTo bound requests →
        left.responses requests = right.responses requests ∧
          right.serve requests =
            (left.serve requests).withRegistry (right.serve requests).registry := by
  rcases create_cases chainId haltHeight agree with
    ⟨stop, refused, refusedToo⟩ | ⟨_, _, created, createdToo, start⟩
  · rw [refused, refusedToo]
    exact ⟨fun _ => Iff.rfl, fun _ _ created => nomatch created⟩
  · rw [created, createdToo]
    refine ⟨fun _ => ⟨(nomatch ·), (nomatch ·)⟩, ?_⟩
    rintro left right ⟨⟩ ⟨⟩ requests stays
    obtain ⟨answers, final⟩ := start.requests stays
    exact ⟨answers, final.same⟩

namespace Sample

/-- The settings of the small chain, with the description upgrade scheduled for the fifth block. -/
def planned : NodeConfig := { config with upgrades := ⟨1, .never, 5⟩ }

/-- The requests of a first block, and for an export after it. -/
def firstBlock : List Request :=
  [.call (.initChain genesis), .call (.beginBlock 1), .call (.deliver (.issue shortIssue)),
    .call .endBlock, .call .commit, .exportGenesis]

/-- The schedules agree up to the fourth block. -/
theorem agreeUpTo_planned : config.upgrades.AgreeUpTo 4 planned.upgrades := by
  intro upgrade
  cases upgrade with
  | tokenIssue | symbolRules => exact .inl rfl
  | descriptionLimit => exact .inr ⟨by decide, by decide⟩

/-- The requests stay up to there. -/
theorem staysUpTo_firstBlock : fresh.StaysUpTo 4 firstBlock := by
  refine (sound_create created).staysUpTo (fun _ isOpen => nomatch isOpen) fun height asked => ?_
  have first : height = 1 := by simpa [firstBlock] using asked
  rw [first]
  decide

end Sample

/-- Scheduling the description upgrade for the fifth block leaves the first one of a small chain as
it is, down to the document that is exported after it. -/
theorem responses_eq_of_agreeUpTo_sample :
    Sample.config.upgrades.AgreeUpTo 4 Sample.planned.upgrades ∧
    Sample.fresh.StaysUpTo 4 Sample.firstBlock ∧
    ∃ planned, create Sample.config = .ok Sample.fresh ∧ create Sample.planned = .ok planned ∧
      Sample.fresh.responses Sample.firstBlock = planned.responses Sample.firstBlock := by
  have chainId : Sample.config.chainId = Sample.planned.chainId := rfl
  have haltHeight : Sample.config.haltHeight = Sample.planned.haltHeight := rfl
  obtain ⟨_, answered⟩ := responses_eq_of_agreeUpTo chainId haltHeight
    Sample.agreeUpTo_planned
  obtain ⟨planned, created⟩ : ∃ planned, create Sample.planned = .ok planned := ⟨_, rfl⟩
  obtain ⟨same, _⟩ := answered Sample.fresh planned Sample.created created Sample.firstBlock
    Sample.staysUpTo_firstBlock
  exact ⟨Sample.agreeUpTo_planned, Sample.staysUpTo_firstBlock, planned, Sample.created, created,
    same⟩

end TokenLedger.Chain
