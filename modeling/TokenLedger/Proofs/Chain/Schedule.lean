import TokenLedger.Proofs.Chain.Steps

/-!
# The schedule of a chain

Settings that pass their check give every upgrade a height above zero, so the schedule is wired
without faults. Calls move its current height and nothing else: it is that of the open block, or the
one committed last.
-/

namespace TokenLedger

variable {heights : UpgradeHeights}

/-- A registry in which every upgrade has the height of a schedule. -/
def UpgradeHeights.In {κ : Type} (heights : UpgradeHeights) (registry : Registry κ) : Prop :=
  ∀ upgrade, registry.upgradeHeight? upgrade = some (heights.get upgrade)

namespace UpgradeHeights

/-! ## Wiring -/

/-- Heights of which none is zero. -/
def Positive (heights : UpgradeHeights) : Prop := ∀ upgrade, heights.get upgrade ≠ 0

/-- A registry before the first block in which every upgrade has its height. -/
structure Wired {κ : Type} (heights : UpgradeHeights) (registry : Registry κ) : Prop where
  /-- Every upgrade has its height. -/
  upgrades : heights.In registry
  /-- It is at height zero. -/
  height : registry.height = 0

/-- With all heights registered a registry is wired. -/
theorem wired_registerAll (heights : UpgradeHeights) :
    heights.Wired (registerAll .empty heights.toList) where
  upgrades upgrade := by cases upgrade <;> rfl
  height := rfl

variable {κ : Type} {registry : Registry κ}

/-- An upgrade with a height above zero can be tied to. -/
theorem Wired.scheduledHeight_eq (wired : heights.Wired registry) (positive : heights.Positive)
    (upgrade : Upgrade) : registry.scheduledHeight upgrade = .ok (heights.get upgrade) := by
  have above : 0 < heights.get upgrade := UInt64.pos_iff_ne_zero.mpr (positive upgrade)
  rw [Registry.scheduledHeight, wired.upgrades]
  exact if_pos above

/-- Stores can be gated. -/
theorem Wired.exists_gateStores (wired : heights.Wired registry) (positive : heights.Positive)
    (upgrade : Upgrade) (stores : List StoreName) :
    ∃ next, registry.gateStores upgrade stores = .ok next ∧ heights.Wired next := by
  rw [Registry.gateStores, wired.scheduledHeight_eq positive]
  exact ⟨_, rfl, wired.upgrades, wired.height⟩

/-- Messages can be gated. -/
theorem Wired.exists_gateMessages (wired : heights.Wired registry) (positive : heights.Positive)
    (upgrade : Upgrade) (kinds : List MessageKind) :
    ∃ next, registry.gateMessages upgrade kinds = .ok next ∧ heights.Wired next := by
  rw [Registry.gateMessages, wired.scheduledHeight_eq positive]
  exact ⟨_, rfl, wired.upgrades, wired.height⟩

/-- Hooks can be added. -/
theorem Wired.exists_addHook (wired : heights.Wired registry) (positive : heights.Positive)
    (phase : BlockPhase) (upgrade : Upgrade) (hook : κ) :
    ∃ next, registry.addHook phase upgrade hook = .ok next ∧ heights.Wired next := by
  rw [Registry.addHook, wired.scheduledHeight_eq positive]
  exact ⟨_, rfl, wired.upgrades, wired.height⟩

/-- A schedule without a height of zero is wired. -/
theorem exists_wire (positive : heights.Positive) :
    ∃ registry, heights.wire = .ok registry ∧ heights.Wired registry := by
  obtain ⟨_, stores, wired⟩ :=
    (wired_registerAll heights).exists_gateStores positive .tokenIssue [.asset]
  obtain ⟨_, messages, wired⟩ := wired.exists_gateMessages positive .tokenIssue [.issue, .mint]
  obtain ⟨_, setting, wired⟩ := wired.exists_addHook positive .beginFirst .tokenIssue .setParams
  obtain ⟨registry, lowering, wired⟩ :=
    wired.exists_addHook positive .beginFirst .symbolRules .lowerFees
  refine ⟨registry, ?_, wired⟩
  unfold wire
  simp only [stores, messages, setting, lowering, bind, Except.bind]

end UpgradeHeights

/-- Settings that can be used give every upgrade a height above zero. -/
theorem NodeConfig.positive_of_validate {config : NodeConfig} (valid : config.validate = .ok ()) :
    config.upgrades.Positive := by
  unfold NodeConfig.validate at valid
  split at valid
  · contradiction
  split at valid
  · contradiction
  next absent =>
  intro upgrade zero
  have member : upgrade ∈ Upgrade.all := by cases upgrade <;> decide
  exact List.find?_eq_none.mp absent upgrade member (decide_eq_true zero)

namespace Chain

variable {chain : Chain} {ledger : Ledger}

/-! ## The current height -/

/-- The height that a chain is at: that of the open block, or the one committed last. -/
def currentHeight (chain : Chain) : Height :=
  match chain.block with
  | some block => block.height
  | none => chain.lastHeight

/-- With no block open a chain is at the height committed last. -/
theorem currentHeight_of_closed (closed : chain.block = none) :
    chain.currentHeight = chain.lastHeight := by
  rw [currentHeight, closed]

/-- With a block open a chain is at its height. -/
theorem currentHeight_of_open {block : OpenBlock} (isOpen : chain.block = some block) :
    chain.currentHeight = block.height := by
  rw [currentHeight, isOpen]

/-- A chain whose gates stand at the height that it is at. -/
structure Aligned (heights : UpgradeHeights) (chain : Chain) : Prop where
  /-- Every upgrade has its height. -/
  upgrades : heights.In chain.registry
  /-- The registry is at the height of the chain. -/
  height : chain.registry.height = chain.currentHeight
  /-- Before the genesis document nothing was committed. -/
  unloaded : chain.initialized = false → chain.lastHeight = 0

/-- A step keeps the gates at the height of the chain. -/
theorem Step.aligned {call : Call} {reply : Reply} {next : Chain} {after : Ledger}
    (step : chain.Step ledger call reply next after) (carries : chain.Carries ledger)
    (aligned : Aligned heights chain) : Aligned heights next := by
  cases step with
  | refused | rejected => exact aligned
  | notLoaded fresh =>
    -- A document that is refused moves the gates to height zero, where they are already.
    have height : chain.atGenesis.currentHeight = chain.lastHeight :=
      currentHeight_of_closed (carries.unloaded fresh).2.2
    refine ⟨aligned.upgrades, ?_, aligned.unloaded⟩
    rw [height, aligned.unloaded fresh]
    rfl
  | @loaded _ committed _ _ fresh =>
    have height : (chain.loaded committed).currentHeight = 0 :=
      currentHeight_of_closed (carries.unloaded fresh).2.2
    exact ⟨aligned.upgrades, height.symm, (nomatch ·)⟩
  | opened => exact ⟨aligned.upgrades, rfl, aligned.unloaded⟩
  | applied _ isOpen | ended _ isOpen =>
    have height := aligned.height.trans (currentHeight_of_open isOpen)
    exact ⟨aligned.upgrades, height, aligned.unloaded⟩
  | merged isOpen =>
    have height := aligned.height.trans (currentHeight_of_open isOpen)
    have initialized := (carries.exists_sound isOpen).1
    refine ⟨aligned.upgrades, height, fun unloaded => ?_⟩
    rw [show chain.initialized = false from unloaded] at initialized
    contradiction

/-- In every run of a chain that was created the gates stand at the height of the chain. -/
theorem aligned_run {config : NodeConfig} {fresh : Chain} (created : create config = .ok fresh)
    (calls : List Call) : Aligned config.upgrades (fresh.run calls) := by
  obtain ⟨_, carries⟩ := (sound_create created).exists_carries
  obtain ⟨valid, registry, wires, rfl⟩ := eq_beginning_of_create created
  obtain ⟨_, same, wired⟩ := UpgradeHeights.exists_wire (NodeConfig.positive_of_validate valid)
  have equal := Except.ok.inj (wires.symm.trans same)
  subst equal
  have start : Aligned config.upgrades (beginning config registry) :=
    ⟨wired.upgrades, wired.height, fun _ => rfl⟩
  obtain ⟨_, _, aligned⟩ := carries.run (fun chain _ => Aligned config.upgrades chain)
    (fun carries step aligned => step.aligned carries aligned) start calls
  exact aligned

/-- An upgrade is active in a chain from its height on. -/
theorem Aligned.isApplied_eq (aligned : Aligned heights chain) (upgrade : Upgrade) :
    chain.registry.isApplied upgrade = decide (heights.get upgrade ≤ chain.currentHeight) := by
  rw [Registry.isApplied, aligned.upgrades, ← aligned.height]

end Chain

end TokenLedger
