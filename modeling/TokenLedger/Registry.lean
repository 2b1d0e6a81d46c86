import TokenLedger.Action
import TokenLedger.Text.Quoted

/-!
# The upgrade registry

Each upgrade has an activation height; stores and message kinds introduced by an upgrade have that
height too; and hooks run at a phase of the block of that height. The heights of stores, messages
and hooks are those the upgrade had when they were registered. Everything but the current height is
fixed when the ledger starts.

The registry is generic in what a hook is: `hooksAt` tells which hooks are due, and `dispatch` runs
them with a function that carries one out.
-/

namespace TokenLedger

/-- The hooks of one phase, grouped by height, each group in registration order. -/
structure HookSchedule (κ : Type) where
  /-- The groups, by ascending height. -/
  groups : List (Height × List κ)

namespace HookSchedule

variable {κ : Type}

/-- The schedule without hooks. -/
def empty : HookSchedule κ := ⟨[]⟩

/-- The groups with a hook added at the end of the group of its height. -/
def pushGroup (height : Height) (hook : κ) : List (Height × List κ) → List (Height × List κ)
  | [] => [(height, [hook])]
  | group :: rest =>
    if height < group.1 then (height, [hook]) :: group :: rest
    else if height = group.1 then (group.1, group.2 ++ [hook]) :: rest
    else group :: pushGroup height hook rest

/-- Adds a hook after all others of its height. -/
def push (schedule : HookSchedule κ) (height : Height) (hook : κ) : HookSchedule κ :=
  ⟨pushGroup height hook schedule.groups⟩

/-- The hooks of a height. -/
def hooksAt (schedule : HookSchedule κ) (height : Height) : List κ :=
  match schedule.groups.find? fun group => group.1 = height with
  | some group => group.2
  | none => []

/-- The number of hooks over all heights. -/
def count (schedule : HookSchedule κ) : Nat :=
  schedule.groups.foldr (fun group later => group.2.length + later) 0

end HookSchedule

/-- Activation heights, gates and hooks, and the height of the block being processed. -/
structure Registry (κ : Type) where
  /-- The activation height of each upgrade that has one. -/
  upgradeHeight? : Upgrade → Option Height
  /-- The height from which on a store exists; none if it always does. -/
  storeHeight? : StoreName → Option Height
  /-- The height from which on a message kind is accepted; none if it always is. -/
  messageHeight? : MessageKind → Option Height
  /-- The hooks of each phase. -/
  hooks : BlockPhase → HookSchedule κ
  /-- The height of the block being processed. -/
  height : Height

namespace Registry

variable {κ ε : Type}

/-- The registry before anything is registered, at height zero. -/
def empty : Registry κ where
  upgradeHeight? _ := none
  storeHeight? _ := none
  messageHeight? _ := none
  hooks _ := .empty
  height := 0

instance : Inhabited (Registry κ) := ⟨empty⟩

/-! ## Wiring -/

/-- Sets the activation height of an upgrade. -/
def setUpgradeHeight (registry : Registry κ) (upgrade : Upgrade) (height : Height) : Registry κ :=
  { registry with
    upgradeHeight? := fun other =>
      if other = upgrade then some height else registry.upgradeHeight? other }

/-- The activation height of an upgrade; a fault if it has none or a height of zero. -/
def scheduledHeight (registry : Registry κ) (upgrade : Upgrade) : Except Fault Height :=
  match registry.upgradeHeight? upgrade with
  | some height => if 0 < height then .ok height else .error (.unscheduledUpgrade upgrade)
  | none => .error (.unscheduledUpgrade upgrade)

/-- Makes stores exist from the activation of an upgrade on. -/
def gateStores (registry : Registry κ) (upgrade : Upgrade) (stores : List StoreName) :
    Except Fault (Registry κ) := do
  let height ← registry.scheduledHeight upgrade
  return { registry with
    storeHeight? := fun store =>
      if stores.contains store then some height else registry.storeHeight? store }

/-- Makes message kinds accepted from the activation of an upgrade on. -/
def gateMessages (registry : Registry κ) (upgrade : Upgrade) (kinds : List MessageKind) :
    Except Fault (Registry κ) := do
  let height ← registry.scheduledHeight upgrade
  return { registry with
    messageHeight? := fun kind =>
      if kinds.contains kind then some height else registry.messageHeight? kind }

/-- Makes a hook run at a phase of the activation block of an upgrade. -/
def addHook (registry : Registry κ) (phase : BlockPhase) (upgrade : Upgrade) (hook : κ) :
    Except Fault (Registry κ) := do
  let height ← registry.scheduledHeight upgrade
  return { registry with
    hooks := fun other =>
      if other = phase then (registry.hooks other).push height hook else registry.hooks other }

/-! ## Gates -/

/-- Moves to the block of a height. -/
def atHeight (registry : Registry κ) (height : Height) : Registry κ := { registry with height }

/-- Whether an upgrade is active at the current height. -/
def isApplied (registry : Registry κ) (upgrade : Upgrade) : Bool :=
  match registry.upgradeHeight? upgrade with
  | some height => height ≤ registry.height
  | none => false

/-- Whether the current height is the activation height of an upgrade. -/
def isActivating (registry : Registry κ) (upgrade : Upgrade) : Bool :=
  match registry.upgradeHeight? upgrade with
  | some height => registry.height = height
  | none => false

/-- Whether a message kind is accepted at the current height. -/
def acceptsMessage (registry : Registry κ) (kind : MessageKind) : Bool :=
  match registry.messageHeight? kind with
  | some height => height ≤ registry.height
  | none => true

/-- Whether a store exists at the current height. -/
def hasStore (registry : Registry κ) (store : StoreName) : Bool :=
  match registry.storeHeight? store with
  | some height => height ≤ registry.height
  | none => true

/-- Whether a store appears at the current height. -/
def isStoreStart (registry : Registry κ) (store : StoreName) : Bool :=
  match registry.storeHeight? store with
  | some height => registry.height = height
  | none => false

/-! ## Hooks -/

/-- The hooks due at a phase of the current block, in registration order. -/
def hooksDue (registry : Registry κ) (phase : BlockPhase) : List κ :=
  (registry.hooks phase).hooksAt registry.height

/-- The number of hooks of a phase over all heights. -/
def hookCount (registry : Registry κ) (phase : BlockPhase) : Nat := (registry.hooks phase).count

/-- Carries out hooks one after the other. -/
def runHooks (carryOut : κ → Action ε Unit) : List κ → Action ε Unit
  | [] => pure ()
  | hook :: rest => do
    carryOut hook
    runHooks carryOut rest

/-- Runs the hooks due at a phase of the current block, and tells how many there were. -/
def dispatch (registry : Registry κ) (carryOut : κ → Action ε Unit) (phase : BlockPhase) :
    Action ε Nat := do
  runHooks carryOut (registry.hooksDue phase)
  return (registry.hooksDue phase).length

/-! ## Structural dump -/

/-- Entries between braces, separated by commas. -/
def braced (entries : List String) : String :=
  "\x7b" ++ String.intercalate ", " entries ++ "\x7d"

/-- The heights that are set, as a map by label. -/
def dumpHeights {α : Type} (all : List α) (label : α → String) (height? : α → Option Height) :
    String :=
  braced (all.filterMap fun item =>
    (height? item).map fun height => label item ++ ": " ++ Decimal.text height.toNat)

/-- The whole registry on one line, for diagnosis. -/
def dump (registry : Registry κ) : String :=
  let hooks := braced (BlockPhase.all.map fun phase =>
    Text.quote phase.wireName ++ ": " ++ Decimal.text (registry.hookCount phase))
  "UpgradeRegistry \x7b upgrade_heights: " ++
    dumpHeights Upgrade.all Upgrade.label registry.upgradeHeight? ++ ", store_heights: " ++
    dumpHeights StoreName.all StoreName.label registry.storeHeight? ++ ", msg_heights: " ++
    dumpHeights MessageKind.all MessageKind.label registry.messageHeight? ++ ", hooks: " ++ hooks ++
    ", block_height: " ++ Decimal.text registry.height.toNat ++ " \x7d"

end Registry

end TokenLedger
