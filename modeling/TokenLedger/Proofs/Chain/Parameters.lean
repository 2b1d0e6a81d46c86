import TokenLedger.Proofs.Chain.Faults
import TokenLedger.Proofs.Schedule.Wiring

/-!
# Parameters follow the schedule

Two migrations change the parameters, each in the activation block of its upgrade, and nothing else
does. So the parameters stored at a height are those of the genesis document after the migrations
whose upgrades are active there, in the order of their activation heights: a function of the
document and of the schedule, whatever was asked of the chain in between.

The migration of the token upgrade sets every parameter. It therefore undoes the lowering of the
fees where the symbol upgrade activates before it, and in that order only.
-/

namespace TokenLedger

variable {heights : UpgradeHeights} {initial : Params}

/-! ## What a schedule makes of parameters -/

namespace UpgradeHeights

/-- The migrations of the upgrades that are active at a height, by ascending activation height; of
two at one height that of the token upgrade comes first. -/
def migrationsUpTo (heights : UpgradeHeights) (height : Height) : List Migration :=
  let setting := if heights.tokenIssue ≤ height then [Migration.setParams] else []
  let lowering := if heights.symbolRules ≤ height then [Migration.lowerFees] else []
  if heights.symbolRules < heights.tokenIssue then lowering ++ setting else setting ++ lowering

/-- The parameters that a schedule makes of others up to a height. -/
def paramsAt (heights : UpgradeHeights) (initial : Params) (height : Height) : Params :=
  Migration.applyAll initial (heights.migrationsUpTo height)

/-- From a height to the next one a migration is added if its upgrade activates there. -/
theorem ite_le_next {gate last next : Height} (follows : last.toNat + 1 = next.toNat)
    (migration : Migration) :
    (if gate ≤ next then [migration] else []) =
      (if gate ≤ last then [migration] else []) ++ if gate = next then [migration] else [] := by
  simp only [UInt64.le_iff_toNat_le, ← UInt64.toNat_inj]
  by_cases before : gate.toNat ≤ last.toNat
  · rw [if_pos (by omega), if_pos before, if_neg (by omega), List.append_nil]
  · rw [if_neg before, List.nil_append]
    exact if_congr (by omega) rfl rfl

/-- Before the first block no upgrade is active. -/
theorem migrationsUpTo_zero (positive : heights.Positive) : heights.migrationsUpTo 0 = [] := by
  have inactive (upgrade : Upgrade) : ¬ heights.get upgrade ≤ 0 :=
    UInt64.not_le.mpr (UInt64.pos_iff_ne_zero.mpr (positive upgrade))
  have token : ¬ heights.tokenIssue ≤ 0 := inactive .tokenIssue
  have symbol : ¬ heights.symbolRules ≤ 0 := inactive .symbolRules
  simp only [migrationsUpTo, if_neg token, if_neg symbol, List.append_nil, ite_self]

/-- From a height to the next one the migrations of the upgrades that activate there are added. -/
theorem migrationsUpTo_next (heights : UpgradeHeights) {last next : Height}
    (follows : last.toNat + 1 = next.toNat) :
    heights.migrationsUpTo next = heights.migrationsUpTo last ++
      ((if heights.tokenIssue = next then [.setParams] else []) ++
        if heights.symbolRules = next then [.lowerFees] else []) := by
  have least : last < next := UInt64.lt_iff_toNat_lt.mpr (by omega)
  simp only [migrationsUpTo, ite_le_next follows]
  by_cases earlier : heights.symbolRules < heights.tokenIssue
  · -- Where the earlier upgrade activates, the other one has neither activated nor does it here.
    rw [if_pos earlier, if_pos earlier]
    by_cases lowers : heights.symbolRules = next
    · rw [lowers] at earlier
      have unset : ¬ heights.tokenIssue ≤ last :=
        UInt64.not_le.mpr (UInt64.lt_trans least earlier)
      have notSet : ¬ heights.tokenIssue = next := Ne.symm (UInt64.ne_of_lt earlier)
      simp only [if_neg unset, if_neg notSet, List.append_nil, List.nil_append]
    · simp only [if_neg lowers, List.append_nil, List.append_assoc]
  · rw [if_neg earlier, if_neg earlier]
    by_cases sets : heights.tokenIssue = next
    · rw [sets] at earlier
      have unlowered : ¬ heights.symbolRules ≤ last := fun before =>
        earlier (UInt64.lt_of_le_of_lt before least)
      simp only [if_neg unlowered, List.append_nil, List.nil_append, List.append_assoc]
    · simp only [if_neg sets, List.append_nil, List.nil_append, List.append_assoc]

/-- The hooks at the begin of a block are the migrations that are added at its height. -/
theorem hooksDue_append (heights : UpgradeHeights) {last next : Height}
    (follows : last.toNat + 1 = next.toNat) :
    heights.migrationsUpTo last ++ ((heights.registry.atHeight next).hooksDue .beginFirst ++
      (heights.registry.atHeight next).hooksDue .beginLast) = heights.migrationsUpTo next := by
  have last : (heights.registry.atHeight next).hooksDue .beginLast = [] := rfl
  rw [migrationsUpTo_next heights follows, hooksDue_registry, if_pos rfl, last, List.append_nil]

/-- Parameters that can be used stay so under every schedule. -/
theorem validate_paramsAt (usable : initial.validate = .ok ()) (heights : UpgradeHeights)
    (height : Height) : (heights.paramsAt initial height).validate = .ok () :=
  Migration.validate_applyAll usable _

/-- Where the symbol upgrade is active and the token upgrade has not activated after it, the fees
are the lowered ones. -/
theorem fees_paramsAt {height : Height} (active : heights.symbolRules ≤ height)
    (kept : ¬ (heights.symbolRules < heights.tokenIssue ∧ heights.tokenIssue ≤ height))
    (initial : Params) :
    (heights.paramsAt initial height).issueFee = Migration.loweredIssueFee ∧
      (heights.paramsAt initial height).mintFee = Migration.loweredMintFee := by
  by_cases earlier : heights.symbolRules < heights.tokenIssue
  · have unset : ¬ heights.tokenIssue ≤ height := fun set => kept ⟨earlier, set⟩
    simp only [paramsAt, migrationsUpTo, if_pos earlier, if_neg unset, if_pos active]
    exact ⟨rfl, rfl⟩
  · simp only [paramsAt, migrationsUpTo, if_neg earlier, if_pos active, Migration.applyAll_append]
    exact ⟨rfl, rfl⟩

/-- Where the token upgrade has activated after the symbol upgrade, the parameters are its own. -/
theorem paramsAt_of_reset {height : Height} (earlier : heights.symbolRules < heights.tokenIssue)
    (set : heights.tokenIssue ≤ height) (initial : Params) :
    heights.paramsAt initial height = Migration.tokenIssueParams := by
  simp only [paramsAt, migrationsUpTo, if_pos earlier, if_pos set, Migration.applyAll_append]
  rfl

end UpgradeHeights

/-! ## The parameters of a view -/

/-- A ledger has one set of parameters. -/
theorem Ledger.Configured.eq {ledger : Ledger} {first second : Params}
    (left : ledger.Configured first) (right : ledger.Configured second) : first = second := by
  obtain ⟨maxDecimal, issueFee, mintFee⟩ := first
  obtain ⟨_, _, _⟩ := second
  cases Option.some.inj (left.maxDecimal.symm.trans right.maxDecimal)
  cases Option.some.inj (left.issueFee.symm.trans right.issueFee)
  cases Option.some.inj (left.mintFee.symm.trans right.mintFee)
  rfl

/-- The parameters that are read from a view. -/
def View.params (view : View) : Except (Stop Empty) Params :=
  (Params.load.perform ⟨view.branch, 0, []⟩).1

/-- The parameters that are read from a view are those of the ledger that it holds. -/
theorem View.params_eq {view : View} {ledger : Ledger} {params : Params}
    (holds : view.flatten.Holds ledger) (configured : ledger.Configured params) :
    view.params = .ok params := by
  have loading := Params.yields_load (ε := Empty) configured.maxDecimal configured.issueFee
    configured.mintFee
  have layered : (View.layer view ∅).flatten.Holds ledger := holds
  obtain ⟨_, _, _, _, ⟨rfl, _⟩, performed⟩ := Action.Runs.exists_perform loading 0 [] layered
  rw [View.params, View.branch, performed]

namespace Chain

variable {chain next : Chain} {ledger after : Ledger} {call : Call} {reply : Reply}

/-- The views of a chain with their heights. -/
inductive ShowsAt (chain : Chain) : View → Height → Prop
  /-- The committed store, at the height committed last. -/
  | committed : chain.ShowsAt (.base chain.committed) chain.lastHeight
  /-- The store through the open block, at the height of the block. -/
  | pending {block : OpenBlock} (isOpen : chain.block = some block) :
    chain.ShowsAt (block.view chain.committed) block.height

/-! ## The invariant -/

/-- A chain that is wired to a schedule and has the parameters that the schedule makes of those of
its genesis document. -/
structure Scheduled (heights : UpgradeHeights) (initial : Params) (chain : Chain)
    (ledger : Ledger) : Prop where
  /-- A genesis document was loaded. -/
  initialized : chain.initialized = true
  /-- The registry is that of the schedule, at the height of the chain. -/
  registry : chain.registry = heights.registry.atHeight chain.currentHeight
  /-- The latest store has the parameters for the height of the chain. -/
  latest : ledger.Configured (heights.paramsAt initial chain.currentHeight)
  /-- The committed store has those for the height committed last. -/
  committed : ∃ stored, chain.committed.Holds stored ∧
    stored.Configured (heights.paramsAt initial chain.lastHeight)

/-- A step keeps the parameters to the schedule. -/
theorem Step.scheduled (step : chain.Step ledger call reply next after)
    (carries : chain.Carries ledger) (scheduled : Scheduled heights initial chain ledger) :
    Scheduled heights initial next after := by
  have initialized := scheduled.initialized
  cases step with
  | refused | rejected => exact scheduled
  | notLoaded fresh | loaded fresh =>
    rw [initialized] at fresh
    contradiction
  | @opened params height _ _ sound _ _ closed follows =>
    have latest := scheduled.latest
    rw [currentHeight_of_closed closed] at latest
    have registry : (chain.opened height).registry = heights.registry.atHeight height := by
      change chain.registry.atHeight height = _
      rw [scheduled.registry]
      rfl
    -- The hooks that are run are the migrations by which the two heights differ.
    have params : (chain.opened height).migrated params .beginFirst .beginLast =
        heights.paramsAt initial height := by
      rw [sound.configured.eq latest, migrated, registry, UpgradeHeights.paramsAt,
        ← Migration.applyAll_append, UpgradeHeights.hooksDue_append heights follows]
      rfl
    rw [params]
    exact ⟨initialized, registry, Ledger.configured_setParams ledger _, scheduled.committed⟩
  | @applied params block message _ _ sound isOpen admitted transition =>
    have height := currentHeight_of_open isOpen
    have registry := scheduled.registry
    have configured := (transition.sound sound (checkBasic_of_admission admitted)).configured
    rw [sound.configured.eq scheduled.latest] at configured
    rw [height] at registry configured
    exact ⟨initialized, registry, configured, scheduled.committed⟩
  | @ended params block _ _ sound isOpen =>
    have height := currentHeight_of_open isOpen
    have registry := scheduled.registry
    -- No hooks are due at the end of a block.
    have same : chain.migrated params .endFirst .endLast = params := by
      rw [migrated, registry]
      rfl
    have configured := scheduled.latest
    rw [height] at registry configured
    rw [same, sound.configured.setParams_eq]
    exact ⟨initialized, registry, configured, scheduled.committed⟩
  | @merged block _ isOpen =>
    have height := currentHeight_of_open isOpen
    have registry := scheduled.registry
    have configured := scheduled.latest
    rw [height] at registry configured
    refine ⟨initialized, registry, configured, ledger, ?_, configured⟩
    change (block.view chain.committed).commit.flatten.Holds ledger
    rw [View.flatten_commit]
    exact (carries.processes isOpen).holds

/-- The views of a scheduled chain have the parameters for their heights. -/
theorem Scheduled.params_eq (scheduled : Scheduled heights initial chain ledger)
    (carries : chain.Carries ledger) {view : View} {height : Height}
    (shown : chain.ShowsAt view height) :
    view.params = .ok (heights.paramsAt initial height) := by
  cases shown with
  | committed =>
    obtain ⟨stored, holds, configured⟩ := scheduled.committed
    exact View.params_eq holds configured
  | pending isOpen =>
    have configured := scheduled.latest
    rw [currentHeight_of_open isOpen] at configured
    exact View.params_eq (carries.processes isOpen).holds configured

/-! ## Runs -/

/-- In every run of a chain that was created the registry is that of its schedule. -/
theorem registry_run {config : NodeConfig} {fresh : Chain} (created : create config = .ok fresh)
    (calls : List Call) : (fresh.run calls).registry =
      config.upgrades.registry.atHeight (fresh.run calls).currentHeight := by
  have aligned := aligned_run created calls
  obtain ⟨_, carries⟩ := (sound_create created).exists_carries
  obtain ⟨valid, registry, wires, rfl⟩ := eq_beginning_of_create created
  have wired := UpgradeHeights.wire_eq (NodeConfig.positive_of_validate valid)
  have same := Except.ok.inj (wires.symm.trans wired)
  obtain ⟨_, _, height, kept⟩ := carries.run
    (fun chain _ => ∃ height, chain.registry = config.upgrades.registry.atHeight height)
    (fun _ step kept => by
      obtain ⟨height, kept⟩ := kept
      cases step with
      | refused | rejected | applied | ended | merged => exact ⟨height, kept⟩
      | notLoaded | loaded => exact ⟨0, congrArg (·.atHeight 0) kept⟩
      | @opened _ opening => exact ⟨opening, congrArg (·.atHeight opening) kept⟩)
    ⟨0, same⟩ calls
  rw [← aligned.height, kept]
  rfl

/-- A genesis document is loaded at height zero. -/
theorem lastHeight_of_initChain {genesis : Genesis} {result : CommitResult}
    (loaded : chain.initChain genesis = (.ok result, next)) : next.lastHeight = 0 := by
  unfold initChain at loaded
  simp only at loaded
  split at loaded
  · cases loaded
  split at loaded
  · cases loaded
  split at loaded <;> cases loaded
  rfl

section

variable {config : NodeConfig} {fresh start : Chain} {genesis : Genesis} {result : CommitResult}

/-- From its genesis document on a chain that was created is scheduled, with the parameters of the
document, which can be used. -/
theorem exists_scheduled_run (created : create config = .ok fresh) (early : List Request)
    (loaded : (fresh.serve early).initChain genesis = (.ok result, start)) (calls : List Call) :
    genesis.asset.params.validate = .ok () ∧ ∃ ledger, (start.run calls).Carries ledger ∧
      Scheduled config.upgrades genesis.asset.params (start.run calls) ledger := by
  obtain ⟨valid, _⟩ := eq_beginning_of_create created
  have positive := NodeConfig.positive_of_validate valid
  obtain ⟨earlyCalls, served⟩ := exists_serve_eq_run fresh early
  rw [served] at loaded
  obtain ⟨_, initialized, closed, ledger, carries, given⟩ :=
    ((sound_create created).run earlyCalls).exists_started loaded
  have reached : start = fresh.run (earlyCalls ++ [.initChain genesis]) := by
    rw [run_append]
    exact (congrArg Prod.snd loaded).symm
  have registry := registry_run created (earlyCalls ++ [.initChain genesis])
  rw [← reached] at registry
  have none : config.upgrades.paramsAt genesis.asset.params 0 = genesis.asset.params := by
    rw [UpgradeHeights.paramsAt, UpgradeHeights.migrationsUpTo_zero positive]
    rfl
  have lastHeight := lastHeight_of_initChain loaded
  have configured := given.sound.configured
  have holds := carries.holds
  rw [latest_of_closed closed] at holds
  rw [← none] at configured
  have scheduled : Scheduled config.upgrades genesis.asset.params start ledger := by
    refine ⟨initialized, registry, ?_, ledger, holds, ?_⟩
    · rwa [currentHeight_of_closed closed, lastHeight]
    · rwa [lastHeight]
  exact ⟨given.sound.usable,
    carries.run _ (fun carries step kept => step.scheduled carries kept) scheduled calls⟩

/-- So it is after requests of any kind. -/
theorem exists_scheduled (created : create config = .ok fresh) (early : List Request)
    (loaded : (fresh.serve early).initChain genesis = (.ok result, start))
    (requests : List Request) :
    genesis.asset.params.validate = .ok () ∧ ∃ ledger, (start.serve requests).Carries ledger ∧
      Scheduled config.upgrades genesis.asset.params (start.serve requests) ledger := by
  obtain ⟨calls, same⟩ := exists_serve_eq_run start requests
  rw [same]
  exact exists_scheduled_run created early loaded calls

/-- Whether a request opens a block. -/
def Opens (chain : Chain) (request : Request) : Prop :=
  ∃ height run opened, request = .call (.beginBlock height) ∧
    chain.beginBlock height = (.ok run, opened)

/-- After the genesis document only a request that opens a block moves a chain to another height. -/
theorem Carries.currentHeight_afterRequest (carries : chain.Carries ledger)
    (initialized : chain.initialized = true) {request : Request} (kept : ¬ chain.Opens request) :
    (chain.afterRequest request).currentHeight = chain.currentHeight := by
  cases request with
  | query | exportGenesis | balance | totalSupply | token => rfl
  | call call =>
    obtain ⟨_, step, _⟩ := carries.steps call
    change (chain.after call).currentHeight = _
    generalize answered : chain.reply call = reply at step
    generalize chain.after call = next at step ⊢
    cases step with
    | refused | rejected => rfl
    | notLoaded fresh | loaded fresh =>
      rw [initialized] at fresh
      contradiction
    | @opened _ height run =>
      have begun : (chain.beginBlock height).1 = .ok run := by
        injection answered
      exact absurd ⟨height, run, _, rfl, Prod.ext begun rfl⟩ kept
    | applied _ isOpen | ended _ isOpen | merged isOpen => exact (currentHeight_of_open isOpen).symm

end

/-! ## Small chains of other schedules -/

/-- Settings that can be used make a chain with the registry of their schedule. -/
theorem create_eq {config : NodeConfig} (valid : config.validate = .ok ()) :
    create config = .ok (beginning config config.upgrades.registry) := by
  unfold create
  rw [valid, UpgradeHeights.wire_eq (NodeConfig.positive_of_validate valid)]
  rfl

/-- A chain between two blocks that never halts. -/
structure Between (chain : Chain) (height : Height) : Prop where
  /-- Its stores hold ledgers in use. -/
  sound : chain.Sound
  /-- A genesis document was loaded. -/
  initialized : chain.initialized = true
  /-- It has not halted. -/
  running : chain.halted = false
  /-- It is not going to halt. -/
  endless : chain.haltHeight = 0
  /-- No block is open. -/
  closed : chain.block = none
  /-- The height was committed last. -/
  lastHeight : chain.lastHeight = height

/-- Between two blocks the next one can be opened. -/
theorem Between.exists_opened {last height : Height} (between : chain.Between last)
    (follows : last.toNat + 1 = height.toNat) :
    ∃ run writes, chain.beginBlock height =
      (.ok run, (chain.opened height).withWrites ⟨height, ∅⟩ writes) := by
  obtain ⟨ledger, params, holds, sound⟩ := between.sound.committed between.initialized
  rw [← between.lastHeight] at follows
  obtain ⟨run, writes, begun, _⟩ := exists_beginBlock chain holds sound between.initialized
    between.running between.closed height follows
  exact ⟨run, writes, begun⟩

/-- Between two blocks the begin of the next one opens it. -/
theorem Between.exists_block {last height : Height} (between : chain.Between last)
    (follows : last.toNat + 1 = height.toNat) :
    ∃ block, (chain.after (.beginBlock height)).block = some block ∧ block.height = height := by
  obtain ⟨run, writes, begun⟩ := between.exists_opened follows
  rw [after, begun]
  exact ⟨_, rfl, rfl⟩

/-- After the next block the chain is between two blocks again. -/
theorem Between.completed {last height : Height} (between : chain.Between last)
    (follows : last.toNat + 1 = height.toNat) :
    (chain.run [.beginBlock height, .endBlock, .commit]).Between height := by
  obtain ⟨run, writes, begun⟩ := between.exists_opened follows
  have reached : chain.after (.beginBlock height) =
      (chain.opened height).withWrites ⟨height, ∅⟩ writes := congrArg Prod.snd begun
  have sound := between.sound.run [.beginBlock height, .endBlock, .commit]
  have openedSound := between.sound.after (.beginBlock height)
  rw [reached] at openedSound
  obtain ⟨ledger, params, processes, ledgerSound⟩ := openedSound.pending _ rfl
  obtain ⟨ended, ran, left⟩ :=
    exists_runPhases processes ledgerSound.configured .endFirst .endLast
  obtain ⟨committed, merges⟩ := exists_commit left.isOpen
  have final : chain.run [.beginBlock height, .endBlock, .commit] =
      (((chain.opened height).withWrites ⟨height, ∅⟩ writes).withWrites
        ⟨height, writes⟩ ended).merged ⟨height, ended⟩ := by
    change ((chain.after (.beginBlock height)).after .endBlock).after .commit = _
    rw [reached, after, after, endBlock, ran, merges]
  rw [final] at sound ⊢
  refine ⟨sound, between.initialized, ?_, between.endless, rfl, rfl⟩
  change (decide (chain.haltHeight ≠ 0) && decide (chain.haltHeight = height)) = false
  rw [between.endless]
  rfl

/-- From its genesis document on, two blocks can be opened. -/
theorem Between.exists_second_block (between : chain.Between 0) :
    ∃ block, (chain.run [.beginBlock 1, .endBlock, .commit, .beginBlock 2]).block = some block ∧
      block.height = 2 := by
  have first : (chain.run [.beginBlock 1, .endBlock, .commit]).Between 1 := between.completed rfl
  exact first.exists_block rfl

namespace Sample

/-- The settings with another schedule. -/
def configFor (heights : UpgradeHeights) : NodeConfig := { config with upgrades := heights }

/-- With whatever schedule, the document can be loaded. -/
theorem exists_between (heights : UpgradeHeights)
    (valid : (configFor heights).validate = .ok ()) :
    ∃ fresh result start, create (configFor heights) = .ok fresh ∧
      fresh.initChain genesis = (.ok result, start) ∧ start.Between 0 := by
  have created := create_eq valid
  obtain ⟨committed, ledger, result, _, _, loaded⟩ := exists_initChain_genesis
    (beginning (configFor heights) (configFor heights).upgrades.registry) rfl rfl rfl
  have sound := (sound_create created).initChain genesis
  rw [loaded] at sound
  exact ⟨_, result, _, created, loaded, sound, rfl, rfl, rfl, rfl, rfl⟩

end Sample

/-! ## What is stored at a height -/

section

variable {config : NodeConfig} {fresh start : Chain} {genesis : Genesis} {result : CommitResult}

/-- After any requests to a chain that was created, a genesis document that is loaded, and any
requests again, whatever they ask and answer: a view of the chain has the parameters of the document
after the migrations of the upgrades that are active at its height, by ascending activation height
and each once. They can be used. And no request but one that opens a block changes them. -/
theorem params_of_showsAt (created : create config = .ok fresh) (early : List Request)
    (loaded : (fresh.serve early).initChain genesis = (.ok result, start))
    (requests : List Request) :
    let chain := start.serve requests
    let paramsAt := config.upgrades.paramsAt genesis.asset.params
    (∀ view height, chain.ShowsAt view height → view.params = .ok (paramsAt height)) ∧
      (∀ height, (paramsAt height).validate = .ok ()) ∧
      ∀ request, ¬ chain.Opens request →
        (chain.afterRequest request).latest.params = chain.latest.params := by
  intro chain paramsAt
  obtain ⟨usable, ledger, carries, scheduled⟩ := exists_scheduled created early loaded requests
  refine ⟨fun view height shown => scheduled.params_eq carries shown,
    UpgradeHeights.validate_paramsAt usable config.upgrades, fun request kept => ?_⟩
  obtain ⟨_, after, afterCarries, afterScheduled⟩ :=
    exists_scheduled created early loaded (requests ++ [request])
  have reached : start.serve (requests ++ [request]) = chain.afterRequest request :=
    List.foldl_append
  rw [reached] at afterCarries afterScheduled
  have height := carries.currentHeight_afterRequest scheduled.initialized kept
  rw [View.params_eq carries.holds scheduled.latest,
    View.params_eq afterCarries.holds afterScheduled.latest, height]

/-- With the token upgrade in the first block and the symbol upgrade in the second one, there are
the decimal places of the former and the fees of the latter. -/
theorem params_of_showsAt_sample : ∃ fresh result start,
    create (Sample.configFor ⟨1, 2, .never⟩) = .ok fresh ∧
    fresh.initChain Sample.genesis = (.ok result, start) ∧
    let chain := start.run [.beginBlock 1, .endBlock, .commit, .beginBlock 2]
    ∃ block, chain.block = some block ∧ (block.view chain.committed).params =
      .ok (Params.native 10 (.ofWord 2000000000) (.ofWord 1000000000)) := by
  obtain ⟨fresh, result, start, created, loaded, between⟩ :=
    Sample.exists_between ⟨1, 2, .never⟩ rfl
  obtain ⟨block, isOpen, height⟩ := between.exists_second_block
  have stored := (params_of_showsAt created [] loaded
    [.call (.beginBlock 1), .call .endBlock, .call .commit, .call (.beginBlock 2)]).1 _ _
    (.pending isOpen)
  rw [height] at stored
  exact ⟨fresh, result, start, created, loaded, block, isOpen, stored⟩

/-- At every point of a run at which the symbol upgrade is active, the fees are the lowered ones,
unless the token upgrade has activated at a greater height than the symbol upgrade; then they are
those that the token upgrade sets. The description upgrade has no part in it. -/
theorem fees_of_showsAt (created : create config = .ok fresh) (early : List Request)
    (loaded : (fresh.serve early).initChain genesis = (.ok result, start))
    (requests : List Request) {view : View} {height : Height}
    (shown : (start.serve requests).ShowsAt view height)
    (active : config.upgrades.symbolRules ≤ height) :
    let reset := config.upgrades.symbolRules < config.upgrades.tokenIssue ∧
      config.upgrades.tokenIssue ≤ height
    ∃ params, view.params = .ok params ∧
      (¬ reset → params.issueFee = Params.nativeFee (.ofWord 2000000000) ∧
        params.mintFee = Params.nativeFee (.ofWord 1000000000)) ∧
      (reset → params.issueFee = Params.nativeFee (.ofWord 10000000000) ∧
        params.mintFee = Params.nativeFee (.ofWord 5000000000)) := by
  intro reset
  obtain ⟨_, ledger, carries, scheduled⟩ := exists_scheduled created early loaded requests
  refine ⟨_, scheduled.params_eq carries shown, fun kept =>
    UpgradeHeights.fees_paramsAt active kept genesis.asset.params, fun ⟨earlier, set⟩ => ?_⟩
  rw [UpgradeHeights.paramsAt_of_reset earlier set]
  exact ⟨rfl, rfl⟩

/-- With both upgrades in the first block the fees in it are the lowered ones. -/
theorem fees_of_showsAt_sample : ∃ fresh result start,
    create (Sample.configFor ⟨1, 1, .never⟩) = .ok fresh ∧
    fresh.initChain Sample.genesis = (.ok result, start) ∧
    ∃ block params, (start.run [.beginBlock 1]).block = some block ∧
      (block.view (start.run [.beginBlock 1]).committed).params = .ok params ∧
      params.issueFee = Params.nativeFee (.ofWord 2000000000) ∧
      params.mintFee = Params.nativeFee (.ofWord 1000000000) := by
  obtain ⟨fresh, result, start, created, loaded, between⟩ :=
    Sample.exists_between ⟨1, 1, .never⟩ rfl
  obtain ⟨block, isOpen, height⟩ : ∃ block, (start.run [.beginBlock 1]).block = some block ∧
      block.height = 1 := between.exists_block rfl
  have active : (Sample.configFor ⟨1, 1, .never⟩).upgrades.symbolRules ≤ block.height := by
    rw [height]
    decide
  obtain ⟨params, stored, lowered, _⟩ :=
    fees_of_showsAt created [] loaded [.call (.beginBlock 1)] (.pending isOpen) active
  obtain ⟨issueFee, mintFee⟩ := lowered fun reset => absurd reset.1 (by decide)
  exact ⟨fresh, result, start, created, loaded, block, params, isOpen, stored, issueFee, mintFee⟩

/-- The lowered fees need not stay in force: with the symbol upgrade in the first block and the
token upgrade in the second one, the fees in the second block are not the lowered ones, although the
symbol upgrade is active there. -/
theorem exists_fees_reset : ∃ fresh result start,
    create (Sample.configFor ⟨2, 1, .never⟩) = .ok fresh ∧
    fresh.initChain Sample.genesis = (.ok result, start) ∧
    let chain := start.run [.beginBlock 1, .endBlock, .commit, .beginBlock 2]
    chain.registry.isApplied .symbolRules = true ∧
      ∃ block params, chain.block = some block ∧
        (block.view chain.committed).params = .ok params ∧
        params.issueFee ≠ Params.nativeFee (.ofWord 2000000000) ∧
        params.mintFee ≠ Params.nativeFee (.ofWord 1000000000) := by
  obtain ⟨fresh, result, start, created, loaded, between⟩ :=
    Sample.exists_between ⟨2, 1, .never⟩ rfl
  obtain ⟨block, isOpen, height⟩ := between.exists_second_block
  obtain ⟨_, ledger, carries, scheduled⟩ := exists_scheduled_run created [] loaded
    [.beginBlock 1, .endBlock, .commit, .beginBlock 2]
  have stored := scheduled.params_eq carries (.pending isOpen)
  have registry := scheduled.registry
  rw [currentHeight_of_open isOpen, height] at registry
  rw [height] at stored
  refine ⟨fresh, result, start, created, loaded, ?_, block, Migration.tokenIssueParams, isOpen,
    stored, by decide, by decide⟩
  rw [registry]
  rfl

end

end Chain

end TokenLedger
