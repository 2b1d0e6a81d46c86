import TokenLedger.Proofs.Chain.Schedule
import TokenLedger.Proofs.Schedule.Hooks

/-!
# What a schedule is wired to

The registry of a schedule, gate by gate: the asset store and both messages follow the token
upgrade, and the only hooks are two migrations at the begin of the activation blocks of the token
upgrade and of the symbol upgrade. Each gate depends on the current height only through its order
to an activation height. So schedules whose activation heights agree, or lie beyond some bound in
both, cannot be told apart at any height up to that bound.
-/

namespace TokenLedger

variable {heights first second : UpgradeHeights} {bound height : Height}

namespace UpgradeHeights

/-- The registry of a schedule before the first block. -/
def registry (heights : UpgradeHeights) : Registry Migration where
  upgradeHeight? upgrade := some (heights.get upgrade)
  storeHeight? store := if store = .asset then some heights.tokenIssue else none
  messageHeight? _ := some heights.tokenIssue
  hooks phase :=
    if phase = .beginFirst then
      (HookSchedule.empty.push heights.tokenIssue .setParams).push heights.symbolRules .lowerFees
    else .empty
  height := 0

/-- A schedule without a height of zero is wired to its registry. -/
theorem wire_eq (positive : heights.Positive) : heights.wire = .ok heights.registry := by
  have above (upgrade : Upgrade) : 0 < heights.get upgrade :=
    UInt64.pos_iff_ne_zero.mpr (positive upgrade)
  have registered (upgrade : Upgrade) :
      (registerAll .empty heights.toList).upgradeHeight? upgrade = some (heights.get upgrade) :=
    (wired_registerAll heights).upgrades upgrade
  unfold wire
  simp only [Registry.gateStores, Registry.gateMessages, Registry.addHook,
    Registry.scheduledHeight, registered, above, if_true, bind, Except.bind, pure, Except.pure]
  refine congrArg Except.ok ?_
  unfold registry
  congr 1
  · funext upgrade
    exact registered upgrade
  · funext store
    cases store <;> rfl
  · funext kind
    cases kind <;> rfl
  · funext phase
    cases phase <;> rfl

/-! ## Gates at a height -/

/-- An upgrade is active from its height on. -/
theorem isApplied_registry (heights : UpgradeHeights) (height : Height) (upgrade : Upgrade) :
    (heights.registry.atHeight height).isApplied upgrade =
      decide (heights.get upgrade ≤ height) := rfl

/-- Messages are accepted from the height of the token upgrade on. -/
theorem acceptsMessage_registry (heights : UpgradeHeights) (height : Height) (kind : MessageKind) :
    (heights.registry.atHeight height).acceptsMessage kind =
      decide (heights.tokenIssue ≤ height) := rfl

/-- The asset store exists from the height of the token upgrade on, and the others always do. -/
theorem hasStore_registry (heights : UpgradeHeights) (height : Height) (store : StoreName) :
    (heights.registry.atHeight height).hasStore store =
      if store = .asset then decide (heights.tokenIssue ≤ height) else true := by
  cases store <;> rfl

/-- The hooks of a block: each migration in the activation block of its upgrade, that of the token
upgrade first. -/
theorem hooksDue_registry (heights : UpgradeHeights) (height : Height) (phase : BlockPhase) :
    (heights.registry.atHeight height).hooksDue phase =
      if phase = .beginFirst then
        (if heights.tokenIssue = height then [.setParams] else []) ++
          if heights.symbolRules = height then [.lowerFees] else []
      else [] := by
  cases phase with
  | beginFirst =>
    have setting := HookSchedule.ordered_empty.push heights.tokenIssue Migration.setParams
    change ((HookSchedule.empty.push heights.tokenIssue Migration.setParams).push
      heights.symbolRules .lowerFees).hooksAt height = _
    rw [setting.hooksAt_push, HookSchedule.ordered_empty.hooksAt_push,
      HookSchedule.ordered_empty.hooksAt_push, if_pos rfl]
    simp only [HookSchedule.hooksAt_empty, List.nil_append]
    by_cases lowers : heights.symbolRules = height
    · simp only [lowers, if_true]
    · simp only [lowers, if_false, List.append_nil]
  | beginLast | endFirst | endLast => rfl

end UpgradeHeights

/-! ## Agreement up to a height -/

/-- Two activation heights that are the same or both beyond a bound. -/
def Height.AgreeUpTo (bound first second : Height) : Prop :=
  first = second ∨ bound < first ∧ bound < second

namespace Height.AgreeUpTo

variable {first second : Height}

/-- Up to the bound both are reached at the same heights. -/
theorem le_iff (agree : AgreeUpTo bound first second) (within : height ≤ bound) :
    first ≤ height ↔ second ≤ height := by
  rcases agree with rfl | ⟨firstBeyond, secondBeyond⟩
  · exact Iff.rfl
  · exact iff_of_false (UInt64.not_le.mpr (UInt64.lt_of_le_of_lt within firstBeyond))
      (UInt64.not_le.mpr (UInt64.lt_of_le_of_lt within secondBeyond))

/-- Up to the bound both are met at the same heights. -/
theorem eq_iff (agree : AgreeUpTo bound first second) (within : height ≤ bound) :
    first = height ↔ second = height := by
  rcases agree with rfl | ⟨firstBeyond, secondBeyond⟩
  · exact Iff.rfl
  · exact iff_of_false (Ne.symm (UInt64.ne_of_lt (UInt64.lt_of_le_of_lt within firstBeyond)))
      (Ne.symm (UInt64.ne_of_lt (UInt64.lt_of_le_of_lt within secondBeyond)))

end Height.AgreeUpTo

/-- Two registries that answer alike for the block that each is at. -/
structure Registry.Alike {κ : Type} (left right : Registry κ) : Prop where
  /-- They are at the same height. -/
  height : left.height = right.height
  /-- The same upgrades are active. -/
  isApplied : ∀ upgrade, left.isApplied upgrade = right.isApplied upgrade
  /-- The same messages are accepted. -/
  acceptsMessage : ∀ kind, left.acceptsMessage kind = right.acceptsMessage kind
  /-- The same stores exist. -/
  hasStore : ∀ store, left.hasStore store = right.hasStore store
  /-- The same hooks are due. -/
  hooksDue : ∀ phase, left.hooksDue phase = right.hooksDue phase

/-- Two registries that answer alike at every height up to a bound. -/
def Registry.AgreeUpTo {κ : Type} (bound : Height) (left right : Registry κ) : Prop :=
  ∀ height ≤ bound, (left.atHeight height).Alike (right.atHeight height)

namespace UpgradeHeights

/-- Two schedules in which each upgrade has the same height, or one beyond a bound in both. -/
def AgreeUpTo (bound : Height) (first second : UpgradeHeights) : Prop :=
  ∀ upgrade, Height.AgreeUpTo bound (first.get upgrade) (second.get upgrade)

/-- Schedules that agree up to a bound are wired to registries that do. -/
theorem AgreeUpTo.registry (agree : AgreeUpTo bound first second) :
    first.registry.AgreeUpTo bound second.registry := by
  intro height within
  have token : Height.AgreeUpTo bound first.tokenIssue second.tokenIssue := agree .tokenIssue
  have symbol : Height.AgreeUpTo bound first.symbolRules second.symbolRules := agree .symbolRules
  refine ⟨rfl, fun upgrade => ?_, fun kind => ?_, fun store => ?_, fun phase => ?_⟩
  · simp only [isApplied_registry, (agree upgrade).le_iff within]
  · simp only [acceptsMessage_registry, token.le_iff within]
  · simp only [hasStore_registry, token.le_iff within]
  · simp only [hooksDue_registry, token.eq_iff within, symbol.eq_iff within]

/-- Schedules that agree up to a bound have the same heights of zero. -/
theorem AgreeUpTo.eq_zero_iff (agree : AgreeUpTo bound first second) (upgrade : Upgrade) :
    first.get upgrade = 0 ↔ second.get upgrade = 0 :=
  (agree upgrade).eq_iff UInt64.zero_le

end UpgradeHeights

end TokenLedger
