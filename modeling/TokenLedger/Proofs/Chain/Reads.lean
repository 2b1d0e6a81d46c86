import TokenLedger.Proofs.Chain.Schedule
import TokenLedger.Proofs.Ledger.Queries

/-!
# What is read while a block is open

Reads look at the committed store, which no work on an open block touches. The gate in front of
queries about tokens follows the height of the open block, though, so in the block in which the
token upgrade activates these queries are let through before the upgrade is committed. In every
other block all reads are answered as before it was opened.
-/

namespace TokenLedger.Chain

variable {chain next : Chain} {ledger after : Ledger} {height : Height}

/-! ## What an open block leaves -/

/-- Reads depend on the committed store and its height only. -/
theorem read_congr {ε α : Type} (committed : next.committed = chain.committed)
    (lastHeight : next.lastHeight = chain.lastHeight) (action : Action ε α) :
    next.read action = chain.read action := by
  rw [read, read, committed, lastHeight]

/-- A chain with a block open at a height, over the committed store of another chain. -/
structure Works (chain : Chain) (height : Height) (next : Chain) : Prop where
  /-- The committed store is as it was. -/
  committed : next.committed = chain.committed
  /-- So is its height. -/
  lastHeight : next.lastHeight = chain.lastHeight
  /-- The block is open. -/
  exists_block : ∃ block, next.block = some block ∧ block.height = height

/-- A chain with an open block is at the height of the block. -/
theorem Works.currentHeight_eq (works : chain.Works height next) : next.currentHeight = height := by
  obtain ⟨block, isOpen, same⟩ := works.exists_block
  exact (currentHeight_of_open isOpen).trans same

/-- Whatever is done in a block but a commit, the block stays open. -/
theorem Step.works {base : Chain} {call : Call} {reply : Reply}
    (step : chain.Step ledger call reply next after) (carries : chain.Carries ledger)
    (working : call ≠ .commit) (works : base.Works height chain) : base.Works height next := by
  obtain ⟨block, isOpen, same⟩ := works.exists_block
  have initialized := (carries.exists_sound isOpen).1
  cases step with
  | refused | rejected => exact works
  | notLoaded fresh | loaded fresh =>
    rw [initialized] at fresh
    contradiction
  | opened _ _ _ closed =>
    rw [isOpen] at closed
    contradiction
  | applied _ here | ended _ here =>
    have equal := Option.some.inj (here.symm.trans isOpen)
    subst equal
    exact ⟨works.committed, works.lastHeight, _, rfl, same⟩
  | merged => contradiction

/-- Through all work in a block, the block stays open. -/
theorem Carries.works_run {base : Chain} (carries : chain.Carries ledger)
    (works : base.Works height chain) {work : List Call} (working : Call.commit ∉ work) :
    base.Works height (chain.run work) := by
  induction work generalizing chain ledger with
  | nil => exact works
  | cons call rest ih =>
    rw [List.mem_cons, not_or] at working
    obtain ⟨_, step, left⟩ := carries.steps call
    exact ih left (step.works carries (Ne.symm working.1) works) working.2

/-- A block is opened after the one committed last. -/
theorem Carries.exists_opened (carries : chain.Carries ledger) {result : HookRun} {opened : Chain}
    (begun : chain.beginBlock height = (.ok result, opened)) :
    chain.block = none ∧ chain.lastHeight.toNat + 1 = height.toNat ∧
      chain.Works height opened ∧ ∃ after, opened.Carries after := by
  have reached : chain.after (.beginBlock height) = opened := congrArg Prod.snd begun
  have answered : chain.reply (.beginBlock height) = .ran (.ok result) := by
    rw [reply, begun]
  obtain ⟨_, step, left⟩ := carries.exists_step answered reached
  cases step with
  | opened _ _ _ closed next => exact ⟨closed, next, ⟨rfl, rfl, _, rfl, rfl⟩, _, left⟩

/-- With whatever work but a commit after its begin a block is open. -/
theorem Sound.works_of_begun (sound : chain.Sound) {result : HookRun} {opened : Chain}
    (begun : chain.beginBlock height = (.ok result, opened)) {work : List Call}
    (working : Call.commit ∉ work) : chain.Works height (opened.run work) := by
  obtain ⟨_, carries⟩ := sound.exists_carries
  obtain ⟨_, _, works, _, openedCarries⟩ := carries.exists_opened begun
  exact openedCarries.works_run works working

/-! ## The gate of queries -/

/-- Without an endpoint a query about tokens tells whether they are let through. -/
theorem read_route_asset (chain : Chain) (supported : Bool) (body : Bytes) :
    chain.read (Query.route supported "custom/asset" body) =
      .error (.refused (if supported then .unknownEndpoint else .queryNotSupported)) := by
  have parts : Query.pathParts "custom/asset" = ["custom", "asset"] := by decide
  rw [Query.route, parts]
  cases supported <;> rfl

/-- All queries are answered alike exactly if the gate stands alike. -/
theorem read_route_iff (chain : Chain) (first second : Bool) :
    (∀ path body, chain.read (Query.route first path body) =
      chain.read (Query.route second path body)) ↔ first = second := by
  constructor
  · intro same
    have told := same "custom/asset" []
    rw [read_route_asset, read_route_asset] at told
    cases first <;> cases second <;> first | rfl | contradiction
  · rintro rfl _ _
    rfl

/-- From one height to the next a gate stays as it is, unless it opens there. -/
theorem decide_le_next_iff {gate last next : Height} (follows : last.toNat + 1 = next.toNat) :
    decide (gate ≤ next) = decide (gate ≤ last) ↔ gate ≠ next := by
  rw [decide_eq_decide, UInt64.le_iff_toNat_le, UInt64.le_iff_toNat_le, ne_eq,
    ← UInt64.toNat_inj]
  omega

/-- What is read after a block is opened, compared with what was read before. -/
structure Reads (heights : UpgradeHeights) (before : Chain) (height : Height) (now : Chain) :
    Prop where
  /-- The block follows the one committed last. -/
  follows : before.lastHeight.toNat + 1 = height.toNat
  /-- The block is open. -/
  works : before.Works height now
  /-- Queries were answered through a gate at the height committed last. -/
  early : ∀ path body, before.query path body =
    before.read (Query.route (heights.tokenIssue ≤ before.lastHeight) path body)
  /-- They are answered from the same store, through a gate at the height of the block. -/
  late : ∀ path body, now.query path body =
    before.read (Query.route (heights.tokenIssue ≤ height) path body)

/-- Work in a block moves the gate of queries and nothing else that is read. -/
theorem reads_of_begun {config : NodeConfig} {fresh : Chain} (created : create config = .ok fresh)
    (calls : List Call) {result : HookRun} {opened : Chain}
    (begun : (fresh.run calls).beginBlock height = (.ok result, opened)) (work : List Call)
    (working : Call.commit ∉ work) :
    Reads config.upgrades (fresh.run calls) height (opened.run work) := by
  obtain ⟨_, carries⟩ := ((sound_create created).run calls).exists_carries
  obtain ⟨closed, follows, openedWorks, _, openedCarries⟩ := carries.exists_opened begun
  have works := openedCarries.works_run openedWorks working
  -- The block is part of a run of its own, in which the gates are aligned again.
  have reached : opened.run work = fresh.run (calls ++ .beginBlock height :: work) := by
    have next : opened = (fresh.run calls).after (.beginBlock height) :=
      (congrArg Prod.snd begun).symm
    rw [run_append]
    exact congrArg (·.run work) next
  have gate := (aligned_run created calls).isApplied_eq .tokenIssue
  rw [currentHeight_of_closed closed] at gate
  have gateNow := (aligned_run created (calls ++ .beginBlock height :: work)).isApplied_eq
    .tokenIssue
  rw [← reached, works.currentHeight_eq] at gateNow
  refine ⟨follows, works, fun path body => ?_, fun path body => ?_⟩
  · rw [query, gate]
    rfl
  · rw [query, gateNow, read_congr works.committed works.lastHeight]
    rfl

/-- In every run of a chain that was created, and with whatever work but a commit after a block is
opened, balances, the total supply and tokens are read as before the block was opened. Queries are
answered from the same store, through a gate that stands at the height of the block. All of them are
answered as before exactly if the token upgrade does not activate in the block. -/
theorem reads_in_block {config : NodeConfig} {fresh : Chain} (created : create config = .ok fresh)
    (calls : List Call) {result : HookRun} {opened : Chain}
    (begun : (fresh.run calls).beginBlock height = (.ok result, opened)) (work : List Call)
    (working : Call.commit ∉ work) :
    let before := fresh.run calls
    let now := opened.run work
    let tokenIssue := config.upgrades.tokenIssue
    (∀ address, now.balance address = before.balance address) ∧
      now.totalSupply = before.totalSupply ∧
      (∀ symbol, now.token symbol = before.token symbol) ∧
      (∀ path body, before.query path body =
        before.read (Query.route (tokenIssue ≤ before.lastHeight) path body)) ∧
      (∀ path body, now.query path body =
        before.read (Query.route (tokenIssue ≤ height) path body)) ∧
      ((∀ path body, now.query path body = before.query path body) ↔ tokenIssue ≠ height) := by
  intro before now tokenIssue
  have reads : Reads config.upgrades before height now :=
    reads_of_begun created calls begun work working
  have same {ε α : Type} (action : Action ε α) : now.read action = before.read action :=
    read_congr reads.works.committed reads.works.lastHeight action
  have alike : (∀ path body, now.query path body = before.query path body) ↔
      decide (tokenIssue ≤ height) = decide (tokenIssue ≤ before.lastHeight) := by
    rw [← read_route_iff before]
    simp only [reads.early, reads.late, tokenIssue]
  exact ⟨fun address => same _, same _, fun symbol => same _, reads.early, reads.late,
    alike.trans (decide_le_next_iff reads.follows)⟩

/-- While the first block of a small chain is open, and whatever its messages do, the account holds
what it held before. -/
theorem reads_in_block_sample : ∃ result opened,
    (Sample.fresh.run [.initChain Sample.genesis]).beginBlock 1 = (.ok result, opened) ∧
    (opened.run [.deliver (.issue Sample.shortIssue)]).balance Sample.holder =
      (Sample.fresh.run [.initChain Sample.genesis]).balance Sample.holder := by
  obtain ⟨result, opened, begun⟩ := Sample.exists_begun
  have kept := reads_in_block Sample.created [.initChain Sample.genesis] begun
    [.deliver (.issue Sample.shortIssue)] (by simp)
  exact ⟨result, opened, begun, kept.1 Sample.holder⟩

/-- A query for the parameters that is let through is answered with those that are committed. -/
theorem read_route_params {params : Params} (holds : chain.committed.Holds ledger)
    (configured : ledger.Configured params) (body : Bytes) :
    chain.read (Query.route true "custom/asset/params" body) = .ok (Query.answer params) := by
  have parts : Query.pathParts "custom/asset/params" = ["custom", "asset", "params"] := by decide
  rw [Query.route, parts]
  exact read_of_yields holds (Query.yields_params configured)

/-- Not every query is answered in an open block as before: in a small chain one for the parameters
is refused before the first block is opened, in which the token upgrade activates. Once the block is
open it is answered, with the parameters of the genesis document, which the upgrade replaces. -/
theorem query_params_in_block : ∃ result opened,
    (Sample.fresh.run [.initChain Sample.genesis]).beginBlock 1 = (.ok result, opened) ∧
    (Sample.fresh.run [.initChain Sample.genesis]).query "custom/asset/params" [] =
      .error (.refused .queryNotSupported) ∧
    opened.query "custom/asset/params" [] = .ok (Query.answer Params.default) := by
  obtain ⟨committed, ledger, holds, loaded, ran⟩ := Sample.exists_loaded
  obtain ⟨result, opened, begun⟩ := Sample.exists_begun
  have reads := reads_of_begun Sample.created _ begun [] List.not_mem_nil
  have before := reads.early "custom/asset/params" []
  have now : opened.query "custom/asset/params" [] = _ := reads.late "custom/asset/params" []
  refine ⟨result, opened, begun, ?_, ?_⟩
  · rw [before, ran]
    rfl
  · rw [now, ran]
    exact read_route_params holds loaded.sound.configured []

end TokenLedger.Chain
