import TokenLedger.Proofs.Chain.Parameters

/-!
# The heights of a chain

Blocks are opened and committed at consecutive heights, from one on and up to the halt height, at
which a chain stops for good. Whatever is asked of a chain and in whatever order, its gates stand at
the height of the open block, or with none open at the one committed last; this is the height at
which hooks and messages do their work. It never falls, so what is active stays active.
-/

namespace TokenLedger

/-- Two registries of which the second has everything active that is active in the first. -/
structure Registry.ActiveIn {κ : Type} (early late : Registry κ) : Prop where
  /-- Upgrades stay active. -/
  isApplied : ∀ upgrade, early.isApplied upgrade = true → late.isApplied upgrade = true
  /-- Message kinds stay accepted. -/
  acceptsMessage : ∀ kind, early.acceptsMessage kind = true → late.acceptsMessage kind = true
  /-- Stores stay. -/
  hasStore : ∀ store, early.hasStore store = true → late.hasStore store = true

/-- What is active at a height is active at every later one. -/
theorem Registry.activeIn_atHeight {κ : Type} (registry : Registry κ) {early late : Height}
    (ordered : early ≤ late) : (registry.atHeight early).ActiveIn (registry.atHeight late) := by
  have reached {gate : Height} (before : decide (gate ≤ early) = true) :
      decide (gate ≤ late) = true :=
    decide_eq_true (UInt64.le_trans (of_decide_eq_true before) ordered)
  refine ⟨fun upgrade => ?_, fun kind => ?_, fun store => ?_⟩
  · unfold isApplied atHeight
    cases registry.upgradeHeight? upgrade with
    | none => exact id
    | some gate => exact reached
  · unfold acceptsMessage atHeight
    cases registry.messageHeight? kind with
    | none => exact id
    | some gate => exact reached
  · unfold hasStore atHeight
    cases registry.storeHeight? store with
    | none => exact id
    | some gate => exact reached

namespace Chain

variable {chain next : Chain} {ledger after : Ledger} {config : NodeConfig} {fresh : Chain}

/-! ## The pace of a chain -/

/-- A chain that keeps to the heights of its settings. -/
structure Paced (config : NodeConfig) (chain : Chain) : Prop where
  /-- The halt height is that of the settings. -/
  haltHeight : chain.haltHeight = config.haltHeight
  /-- Before the genesis document nothing was committed, and no block is open. -/
  unloaded : chain.initialized = false → chain.lastHeight = 0 ∧ chain.block = none
  /-- An open block follows the one committed last. -/
  follows : ∀ block, chain.block = some block → chain.lastHeight.toNat + 1 = block.height.toNat
  /-- With a block open the gates stand at its height. -/
  opened : ∀ block, chain.block = some block → chain.registry.height = block.height
  /-- With none open they stand at the height committed last. -/
  closed : chain.block = none → chain.registry.height = chain.lastHeight
  /-- Nothing is committed beyond a halt height. -/
  within : config.haltHeight ≠ 0 → chain.lastHeight ≤ config.haltHeight
  /-- The chain has halted exactly if the block of the halt height was the last. -/
  halted_iff : chain.halted = true ↔
    config.haltHeight ≠ 0 ∧ config.haltHeight = chain.lastHeight
  /-- No block is open in a chain that has halted. -/
  stopped : chain.halted = true → chain.block = none

/-- A chain that was created keeps to its heights. -/
theorem paced_create (created : create config = .ok fresh) : Paced config fresh := by
  have height : fresh.registry.height = fresh.currentHeight := (aligned_run created []).height
  obtain ⟨_, registry, _, rfl⟩ := eq_beginning_of_create created
  refine ⟨rfl, fun _ => ⟨rfl, rfl⟩, fun _ isOpen => (nomatch isOpen),
    fun _ isOpen => (nomatch isOpen), fun _ => height, fun _ => UInt64.zero_le, ?_, fun _ => rfl⟩
  constructor
  · exact fun halted => nomatch halted
  · rintro ⟨positive, zero⟩
    exact absurd zero positive

/-- A chain with a block open has not halted, and the block is not beyond a halt height. -/
theorem Paced.within_of_open (paced : Paced config chain) {block : OpenBlock}
    (isOpen : chain.block = some block) (halts : config.haltHeight ≠ 0) :
    block.height ≤ config.haltHeight := by
  have running : ¬ chain.halted = true := by
    intro halted
    rw [paced.stopped halted] at isOpen
    contradiction
  have apart : chain.lastHeight.toNat ≠ config.haltHeight.toNat := by
    intro same
    exact running (paced.halted_iff.mpr ⟨halts, UInt64.toNat_inj.mp same.symm⟩)
  have below := UInt64.le_iff_toNat_le.mp (paced.within halts)
  have follows := paced.follows block isOpen
  rw [UInt64.le_iff_toNat_le]
  omega

/-- Every step keeps to the heights. -/
theorem Step.paced {call : Call} {reply : Reply}
    (step : chain.Step ledger call reply next after) (paced : Paced config chain) :
    Paced config next := by
  cases step with
  | refused | rejected => exact paced
  | notLoaded fresh =>
    obtain ⟨zero, closed⟩ := paced.unloaded fresh
    exact ⟨paced.haltHeight, paced.unloaded, paced.follows,
      fun block isOpen => by rw [show chain.block = some block from isOpen] at closed; contradiction,
      fun _ => zero.symm, paced.within, paced.halted_iff, paced.stopped⟩
  | @loaded _ committed _ _ fresh =>
    obtain ⟨zero, closed⟩ := paced.unloaded fresh
    have last : (chain.loaded committed).lastHeight = chain.lastHeight := zero.symm
    have noBlock : ∀ block, ¬ (chain.loaded committed).block = some block := by
      intro block isOpen
      rw [show chain.block = some block from isOpen] at closed
      contradiction
    refine ⟨paced.haltHeight, (nomatch ·), fun block isOpen => absurd isOpen (noBlock block),
      fun block isOpen => absurd isOpen (noBlock block), fun _ => rfl, ?_, ?_, paced.stopped⟩
    · rw [last]
      exact paced.within
    · rw [last]
      exact paced.halted_iff
  | opened _ initialized running _ next =>
    refine ⟨paced.haltHeight, fun fresh => ?_, ?_, ?_, (nomatch ·), paced.within, paced.halted_iff,
      fun halted => ?_⟩
    · rw [show chain.initialized = false from fresh] at initialized
      contradiction
    · rintro block ⟨⟩
      exact next
    · rintro block ⟨⟩
      rfl
    · rw [show chain.halted = true from halted] at running
      contradiction
  | applied _ isOpen | ended _ isOpen =>
    have follows := paced.follows _ isOpen
    have gates := paced.opened _ isOpen
    refine ⟨paced.haltHeight, fun fresh => ?_, ?_, ?_, (nomatch ·), paced.within, paced.halted_iff,
      fun halted => ?_⟩
    · rw [(paced.unloaded fresh).2] at isOpen
      contradiction
    · rintro block ⟨⟩
      exact follows
    · rintro block ⟨⟩
      exact gates
    · rw [paced.stopped halted] at isOpen
      contradiction
  | @merged block _ isOpen =>
    refine ⟨paced.haltHeight, fun fresh => ?_, fun _ isOpen => (nomatch isOpen),
      fun _ isOpen => (nomatch isOpen), fun _ => paced.opened _ isOpen,
      paced.within_of_open isOpen, ?_, fun _ => rfl⟩
    · rw [(paced.unloaded fresh).2] at isOpen
      contradiction
    · change (decide (chain.haltHeight ≠ 0) && decide (chain.haltHeight = block.height)) = true ↔ _
      rw [Bool.and_eq_true, decide_eq_true_iff, decide_eq_true_iff, paced.haltHeight]
      rfl

/-- Every request keeps to the heights. -/
theorem Paced.afterRequest (paced : Paced config chain) (sound : chain.Sound)
    (request : Request) : Paced config (chain.afterRequest request) := by
  cases request with
  | query | exportGenesis | balance | totalSupply | token => exact paced
  | call call =>
    obtain ⟨_, _, _, step⟩ := sound.exists_step call
    exact step.paced paced

/-- In every run of a chain that was created it keeps to its heights. -/
theorem paced_run (created : create config = .ok fresh) (calls : List Call) :
    Paced config (fresh.run calls) := by
  obtain ⟨_, carries⟩ := (sound_create created).exists_carries
  obtain ⟨_, _, paced⟩ := carries.run (fun chain _ => Paced config chain)
    (fun _ step paced => step.paced paced) (paced_create created) calls
  exact paced

/-- So it does after requests of any kind. -/
theorem paced_serve (created : create config = .ok fresh) (requests : List Request) :
    Paced config (fresh.serve requests) := by
  obtain ⟨calls, same⟩ := exists_serve_eq_run fresh requests
  rw [same]
  exact paced_run created calls

/-! ## The heights committed -/

/-- The height that a request commits, if it does. -/
def committedHeight? (chain : Chain) : Request → Option Height
  | .call .commit => chain.commit.1.toOption.map CommitResult.height
  | _ => none

/-- The heights that requests commit, in order. -/
def committedHeights (chain : Chain) : List Request → List Height
  | [] => []
  | request :: rest =>
    (chain.committedHeight? request).toList ++ (chain.afterRequest request).committedHeights rest

/-- Only a commit moves the height committed last. -/
theorem Step.lastHeight_eq {call : Call} {reply : Reply}
    (step : chain.Step ledger call reply next after) (paced : Paced config chain)
    (working : call ≠ .commit) : next.lastHeight = chain.lastHeight := by
  cases step with
  | loaded fresh => exact (paced.unloaded fresh).1.symm
  | merged => contradiction
  | _ => rfl

/-- A request commits the next height, or it commits nothing. -/
theorem Paced.committed_cases (paced : Paced config chain) (sound : chain.Sound)
    (request : Request) :
    (chain.committedHeight? request = none ∧
      (chain.afterRequest request).lastHeight = chain.lastHeight) ∨
    ∃ height, chain.committedHeight? request = some height ∧
      (chain.afterRequest request).lastHeight = height ∧
      chain.lastHeight.toNat + 1 = height.toNat := by
  have kept (call : Call) (working : call ≠ .commit) :
      (chain.after call).lastHeight = chain.lastHeight := by
    obtain ⟨_, _, _, step⟩ := sound.exists_step call
    exact step.lastHeight_eq paced working
  cases request with
  | query | exportGenesis | balance | totalSupply | token => exact .inl ⟨rfl, rfl⟩
  | call call =>
    cases call with
    | initChain genesis => exact .inl ⟨rfl, kept (.initChain genesis) nofun⟩
    | beginBlock height => exact .inl ⟨rfl, kept (.beginBlock height) nofun⟩
    | deliver message => exact .inl ⟨rfl, kept (.deliver message) nofun⟩
    | endBlock => exact .inl ⟨rfl, kept .endBlock nofun⟩
    | commit =>
      cases isOpen : chain.block with
      | none =>
        have refused : chain.commit = (.error (.refused .noOpenBlock), chain) := by
          rw [commit, isOpen]
        refine .inl ⟨?_, ?_⟩
        · rw [committedHeight?, refused]
          rfl
        · rw [Chain.afterRequest, Chain.after, refused]
      | some block =>
        have follows := paced.follows block isOpen
        refine .inr ⟨block.height, ?_, ?_, follows⟩
        · rw [committedHeight?, commit, isOpen]
          rfl
        · rw [Chain.afterRequest, Chain.after, commit, isOpen]

/-- Requests commit the heights above the one committed last, each after the one before it. -/
theorem Paced.committedHeights_eq (paced : Paced config chain) (sound : chain.Sound)
    (requests : List Request) :
    chain.lastHeight.toNat ≤ (chain.serve requests).lastHeight.toNat ∧
      (chain.committedHeights requests).map UInt64.toNat =
        List.range' (chain.lastHeight.toNat + 1)
          ((chain.serve requests).lastHeight.toNat - chain.lastHeight.toNat) := by
  induction requests generalizing chain with
  | nil =>
    refine ⟨Nat.le_refl _, ?_⟩
    rw [committedHeights, serve, List.foldl_nil, Nat.sub_self]
    rfl
  | cons request rest ih =>
    have served : chain.serve (request :: rest) = (chain.afterRequest request).serve rest := rfl
    obtain ⟨upward, later⟩ := ih (paced.afterRequest sound request) (sound.afterRequest request)
    rw [committedHeights, served]
    rcases paced.committed_cases sound request with ⟨nothing, last⟩ | ⟨height, done, last, follows⟩
    · rw [last] at upward later
      rw [nothing]
      exact ⟨upward, later⟩
    · rw [last] at upward later
      have more : ((chain.afterRequest request).serve rest).lastHeight.toNat -
          chain.lastHeight.toNat =
            ((chain.afterRequest request).serve rest).lastHeight.toNat - height.toNat + 1 := by
        omega
      refine ⟨by omega, ?_⟩
      rw [done, more, List.range'_succ, Option.toList_some, List.singleton_append, List.map_cons,
        later, follows]

/-! ## Halting -/

/-- Nothing changes a chain that has halted. -/
theorem Paced.afterRequest_of_halted (paced : Paced config chain) (halted : chain.halted = true)
    (request : Request) : chain.afterRequest request = chain := by
  have closed := paced.stopped halted
  have initialized : chain.initialized = true := by
    by_contra unloaded
    obtain ⟨positive, last⟩ := paced.halted_iff.mp halted
    exact positive (last.trans (paced.unloaded (Bool.eq_false_of_not_eq_true unloaded)).1)
  have unchanged (call : Call) {cause : ChainError} (reason : chain.Refuses call cause) :
      chain.afterRequest (.call call) = chain := reason.unchanged.2
  cases request with
  | query | exportGenesis | balance | totalSupply | token => rfl
  | call call =>
    cases call with
    | initChain genesis => exact unchanged _ (.loaded initialized)
    | beginBlock height => exact unchanged _ (.halted initialized halted)
    | deliver message => exact unchanged (.deliver message) (.noBlock rfl closed)
    | endBlock => exact unchanged .endBlock (.noBlock rfl closed)
    | commit => exact unchanged .commit (.noBlock rfl closed)

/-- No requests do. -/
theorem Paced.serve_of_halted (paced : Paced config chain) (halted : chain.halted = true)
    (requests : List Request) : chain.serve requests = chain := by
  induction requests with
  | nil => rfl
  | cons request rest ih =>
    have unchanged := paced.afterRequest_of_halted halted request
    change (chain.afterRequest request).serve rest = chain
    rw [unchanged]
    exact ih

/-! ## Gates over a run -/

/-- No step takes a chain to a lower height. -/
theorem Step.currentHeight_le {call : Call} {reply : Reply}
    (step : chain.Step ledger call reply next after) (paced : Paced config chain) :
    chain.currentHeight ≤ next.currentHeight := by
  cases step with
  | refused | rejected | notLoaded => exact UInt64.le_refl _
  | loaded fresh =>
    obtain ⟨zero, closed⟩ := paced.unloaded fresh
    rw [currentHeight_of_closed closed, zero]
    exact UInt64.zero_le
  | opened _ _ _ closed next =>
    rw [currentHeight_of_closed closed, UInt64.le_iff_toNat_le]
    exact Nat.le_of_succ_le (Nat.le_of_eq next)
  | applied _ isOpen | ended _ isOpen | merged isOpen =>
    rw [currentHeight_of_open isOpen]
    exact UInt64.le_refl _

/-- No requests take a chain to a lower height. -/
theorem Paced.currentHeight_le (paced : Paced config chain) (sound : chain.Sound)
    (requests : List Request) : chain.currentHeight ≤ (chain.serve requests).currentHeight := by
  induction requests generalizing chain with
  | nil => exact UInt64.le_refl _
  | cons request rest ih =>
    have later := ih (paced.afterRequest sound request) (sound.afterRequest request)
    refine UInt64.le_trans ?_ later
    cases request with
    | query | exportGenesis | balance | totalSupply | token => exact UInt64.le_refl _
    | call call =>
      obtain ⟨_, _, _, step⟩ := sound.exists_step call
      exact step.currentHeight_le paced

/-- After any requests to a chain that was created, what is active stays active. -/
theorem activeIn_serve (created : create config = .ok fresh) (requests more : List Request) :
    (fresh.serve requests).registry.ActiveIn ((fresh.serve requests).serve more).registry := by
  have registry (requests : List Request) : (fresh.serve requests).registry =
      config.upgrades.registry.atHeight (fresh.serve requests).currentHeight := by
    obtain ⟨calls, same⟩ := exists_serve_eq_run fresh requests
    rw [same]
    exact registry_run created calls
  have upward := (paced_serve created requests).currentHeight_le
    ((sound_create created).serve requests) more
  rw [← serve_append] at upward ⊢
  rw [registry requests, registry (requests ++ more)]
  exact config.upgrades.registry.activeIn_atHeight upward

/-! ## The height of work -/

/-- A chain whose hooks and messages work at the height at which its gates stand. -/
structure WorksAtGates (chain : Chain) : Prop where
  /-- A message is delivered in a context of that height. -/
  delivers : ∀ message result next, chain.deliver message = (.ok result, next) →
    ∃ context, (deliverAction chain.registry message).perform
      ⟨chain.latest, chain.registry.height, []⟩ = (.ok result, context)
  /-- So are the hooks at the end of a block. -/
  ends : ∀ run next, chain.endBlock = (.ok run, next) →
    ∃ context, (phaseHooks chain.registry .endFirst .endLast).perform
      ⟨chain.latest, chain.registry.height, []⟩ = (.ok (run.first, run.last), context)
  /-- The begin of a block moves the gates first, and then runs its hooks at their height. -/
  begins : ∀ height run next, chain.beginBlock height = (.ok run, next) →
    next.registry = chain.registry.atHeight height ∧
      ∃ context, (phaseHooks next.registry .beginFirst .beginLast).perform
        ⟨(chain.opened height).latest, next.registry.height, []⟩ =
          (.ok (run.first, run.last), context)

/-- Work on the open block that ends in a result is performed at the height of the gates. -/
theorem exists_perform_at_gates {α : Type} {action : Action Empty α} {value : α}
    {events : List Event} {block : OpenBlock} (isOpen : chain.block = some block)
    (gates : chain.registry.height = block.height)
    (ran : chain.inBlock action = (.ok (value, events), next)) :
    next.registry = chain.registry ∧ ∃ context,
      action.perform ⟨chain.latest, chain.registry.height, []⟩ = (.ok value, context) := by
  obtain ⟨context, performed, _, rfl⟩ := exists_perform_of_inBlock isOpen ran
  rw [latest_of_open isOpen, gates]
  exact ⟨rfl, context, performed⟩

/-- Hooks that end in a result are performed at the height of the gates. -/
theorem exists_hooks_at_gates {run : HookRun} {block : OpenBlock} {first last : BlockPhase}
    (isOpen : chain.block = some block) (gates : chain.registry.height = block.height)
    (ran : chain.runPhases first last = (.ok run, next)) :
    next.registry = chain.registry ∧ ∃ context,
      (phaseHooks chain.registry first last).perform ⟨chain.latest, chain.registry.height, []⟩ =
        (.ok (run.first, run.last), context) := by
  rw [runPhases_eq] at ran
  obtain ⟨⟨counts, events⟩, worked, rfl⟩ := exists_of_map_eq_ok ran
  exact exists_perform_at_gates isOpen gates worked

/-- A chain that keeps to its heights works at the height of its gates. -/
theorem Paced.worksAtGates (paced : Paced config chain) : chain.WorksAtGates where
  delivers message result next delivered := by
    cases isOpen : chain.block with
    | none =>
      rw [deliver, inBlock, isOpen] at delivered
      cases delivered
    | some block =>
      rw [deliver_eq] at delivered
      obtain ⟨⟨_, events⟩, worked, rfl⟩ := exists_of_map_eq_ok delivered
      exact (exists_perform_at_gates isOpen (paced.opened block isOpen) worked).2
  ends run next ended := by
    cases isOpen : chain.block with
    | none =>
      rw [endBlock, runPhases, inBlock, isOpen] at ended
      cases ended
    | some block => exact (exists_hooks_at_gates isOpen (paced.opened block isOpen) ended).2
  begins height run next begun := by
    obtain ⟨initialized, running, closed, follows⟩ := ready_of_begun begun
    rw [beginBlock_eq initialized running closed follows] at begun
    have isOpen : (chain.opened height).block = some ⟨height, ∅⟩ := rfl
    obtain ⟨same, performed⟩ := exists_hooks_at_gates isOpen rfl begun
    rw [same]
    exact ⟨rfl, performed⟩

/-- A block can be opened exactly in a chain that has loaded a document, has not halted and has no
block open, and only at the height after the one committed last. -/
theorem Sound.exists_beginBlock_iff (sound : chain.Sound) (height : Height) :
    (∃ run next, chain.beginBlock height = (.ok run, next)) ↔
      chain.initialized = true ∧ chain.halted = false ∧ chain.block = none ∧
        chain.lastHeight.toNat + 1 = height.toNat := by
  constructor
  · rintro ⟨run, next, begun⟩
    exact ready_of_begun begun
  · rintro ⟨initialized, running, closed, follows⟩
    obtain ⟨ledger, params, holds, ledgerSound⟩ := sound.committed initialized
    obtain ⟨run, writes, begun, _⟩ :=
      exists_beginBlock chain holds ledgerSound initialized running closed height follows
    exact ⟨run, _, begun⟩

/-- An open block is committed at its height. -/
theorem Works.exists_commit {base : Chain} {height : Height} (works : base.Works height chain) :
    ∃ result next, chain.commit = (.ok result, next) ∧ result.height = height ∧
      next.lastHeight = height := by
  obtain ⟨block, isOpen, same⟩ := works.exists_block
  rw [Chain.commit, isOpen]
  exact ⟨_, _, rfl, same, same⟩

/-- A block that is opened, worked on and committed is the last one. -/
theorem Sound.lastHeight_run_of_begun (sound : chain.Sound) {height : Height} {run : HookRun}
    {opened : Chain} (begun : chain.beginBlock height = (.ok run, opened)) {work : List Call}
    (working : Call.commit ∉ work) :
    (chain.run (.beginBlock height :: (work ++ [.commit]))).lastHeight = height := by
  obtain ⟨_, next, merges, _, last⟩ := (sound.works_of_begun begun working).exists_commit
  have begins : chain.after (.beginBlock height) = opened := congrArg Prod.snd begun
  have ends : (opened.run work).after .commit = next := congrArg Prod.snd merges
  change ((chain.after (.beginBlock height)).run (work ++ [.commit])).lastHeight = height
  rw [begins, run_append]
  exact (congrArg lastHeight ends).trans last

/-! ## Runs -/

/-- After any requests to a chain that was created it keeps to the heights of its settings: the
gates stand at the height of the open block, which follows the one committed last, or with no block
open at the one committed last; nothing is committed beyond a halt height, and the chain has halted
exactly if that was committed last. Hooks and messages work at the height of the gates. The heights
committed so far are those from one up to the last, in order. A chain that has halted is not changed
by any further requests. What is active stays active. And the next block can be opened whenever a
document is loaded, the chain has not halted and no block is open. -/
theorem lifecycle_of_serve (created : create config = .ok fresh) (requests : List Request) :
    let now := fresh.serve requests
    Paced config now ∧ now.WorksAtGates ∧
      (fresh.committedHeights requests).map UInt64.toNat = List.range' 1 now.lastHeight.toNat ∧
      (now.halted = true → ∀ more, now.serve more = now) ∧
      (∀ more, now.registry.ActiveIn (now.serve more).registry) ∧
      ∀ height, (∃ run next, now.beginBlock height = (.ok run, next)) ↔
        now.initialized = true ∧ now.halted = false ∧ now.block = none ∧
          now.lastHeight.toNat + 1 = height.toNat := by
  have sound := sound_create created
  have paced := paced_serve created requests
  have heights := ((paced_create created).committedHeights_eq sound requests).2
  have start := ((paced_create created).unloaded (initialized_create created)).1
  rw [start, UInt64.toNat_zero, Nat.sub_zero, Nat.zero_add] at heights
  exact ⟨paced, paced.worksAtGates, heights, paced.serve_of_halted, activeIn_serve created requests,
    (sound.serve requests).exists_beginBlock_iff⟩

namespace Sample

/-- The settings of the small chain, to halt after the first block. -/
def halting : NodeConfig := { Sample.config with haltHeight := 1 }

/-- The requests of the only block of such a chain. -/
def onlyBlock : List Request :=
  [.call (.initChain genesis), .call (.beginBlock 1), .call (.deliver (.issue shortIssue)),
    .call .endBlock, .call .commit]

/-- A chain with these settings loads the document. -/
theorem exists_halting : ∃ fresh start result, create halting = .ok fresh ∧
    fresh.initChain genesis = (.ok result, start) ∧ start.halted = false ∧
      start.lastHeight = 0 := by
  obtain ⟨_, _, result, _, _, loaded⟩ :=
    exists_initChain_genesis (beginning halting halting.upgrades.registry) rfl rfl rfl
  exact ⟨_, _, result, create_eq rfl, loaded, rfl, rfl⟩

/-- A chain with these settings commits the block. -/
theorem exists_onlyBlock :
    ∃ fresh, create halting = .ok fresh ∧ (fresh.serve onlyBlock).lastHeight = 1 := by
  obtain ⟨fresh, start, _, created, loaded, running, last⟩ := exists_halting
  obtain ⟨sound, initialized, closed, _⟩ := (sound_create created).exists_started loaded
  have follows : start.lastHeight.toNat + 1 = (1 : Height).toNat := by rw [last]; rfl
  obtain ⟨_, _, begun⟩ :=
    (sound.exists_beginBlock_iff 1).mpr ⟨initialized, running, closed, follows⟩
  have reached : fresh.after (.initChain genesis) = start := congrArg Prod.snd loaded
  refine ⟨fresh, created, ?_⟩
  rw [serve_eq_run]
  change ((fresh.after (.initChain genesis)).run _).lastHeight = 1
  rw [reached]
  have working : Call.commit ∉ [.deliver (.issue shortIssue), .endBlock] := by simp
  exact sound.lastHeight_run_of_begun begun working

/-- The chain halts with the block, and a second one changes nothing. -/
theorem lifecycle_of_serve_sample : ∃ fresh, create halting = .ok fresh ∧
    (fresh.serve onlyBlock).halted = true ∧
    (fresh.committedHeights onlyBlock).map UInt64.toNat = [1] ∧
    (fresh.serve onlyBlock).serve [.call (.beginBlock 2)] = fresh.serve onlyBlock := by
  obtain ⟨fresh, created, last⟩ := exists_onlyBlock
  obtain ⟨paced, _, heights, stays, _⟩ := lifecycle_of_serve created onlyBlock
  have halted : (fresh.serve onlyBlock).halted = true :=
    paced.halted_iff.mpr ⟨by decide, last.symm⟩
  rw [last] at heights
  exact ⟨fresh, created, halted, heights, stays halted _⟩

end Sample

end Chain

end TokenLedger
