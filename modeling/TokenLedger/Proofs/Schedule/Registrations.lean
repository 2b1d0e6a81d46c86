import TokenLedger.Proofs.Schedule.Hooks

/-!
# What is tied to an upgrade, and when

A registry is wired by calls in any order: heights are registered, perhaps more than once for one
upgrade, and stores, message kinds and hooks are tied to upgrades. To tie something copies the
height that the upgrade has at that point, so a gate opens and a hook runs at the height that was
registered last before it was tied. It follows its upgrade at every height exactly if this is still
the height of the upgrade when all calls are done.
-/

namespace TokenLedger

/-- A call that wires a registry. -/
inductive WiringCall (κ : Type) where
  /-- Registers the height of an upgrade. -/
  | setHeight (upgrade : Upgrade) (height : Height)
  /-- Ties stores to an upgrade. -/
  | gateStores (upgrade : Upgrade) (stores : List StoreName)
  /-- Ties message kinds to an upgrade. -/
  | gateMessages (upgrade : Upgrade) (kinds : List MessageKind)
  /-- Ties a hook of a phase to an upgrade. -/
  | addHook (phase : BlockPhase) (upgrade : Upgrade) (hook : κ)

/-- What is closed until an upgrade activates. -/
inductive Gate where
  /-- A store. -/
  | store (name : StoreName)
  /-- A kind of message. -/
  | message (kind : MessageKind)

variable {κ : Type}

namespace WiringCall

/-- The height that a call gives an upgrade, if it does. -/
def height? : WiringCall κ → Upgrade → Option Height
  | .setHeight other height, upgrade => if upgrade = other then some height else none
  | _, _ => none

/-- The upgrade that a call ties a gate to, if it does. -/
def tie? : WiringCall κ → Gate → Option Upgrade
  | .gateStores upgrade stores, .store name => if stores.contains name then some upgrade else none
  | .gateMessages upgrade kinds, .message kind =>
    if kinds.contains kind then some upgrade else none
  | _, _ => none

/-- The hook that a call adds to a phase with the upgrade that it ties it to, if it does. -/
def hook? : WiringCall κ → BlockPhase → Option (Upgrade × κ)
  | .addHook other upgrade hook, phase => if phase = other then some (upgrade, hook) else none
  | _, _ => none

/-- The height that an upgrade has after calls: the one registered last. -/
def heightAfter (calls : List (WiringCall κ)) (upgrade : Upgrade) : Option Height :=
  calls.reverse.findSome? fun call => call.height? upgrade

/-- After further calls it is the one that they register last, or else the one before. -/
theorem heightAfter_append (first last : List (WiringCall κ)) (upgrade : Upgrade) :
    heightAfter (first ++ last) upgrade =
      (heightAfter last upgrade).or (heightAfter first upgrade) := by
  rw [heightAfter, List.reverse_append, List.findSome?_append]
  rfl

/-- After another call it is the one that the call registers, or else the one before. -/
theorem heightAfter_snoc (calls : List (WiringCall κ)) (call : WiringCall κ) (upgrade : Upgrade) :
    heightAfter (calls ++ [call]) upgrade =
      (call.height? upgrade).or (heightAfter calls upgrade) := by
  have single : heightAfter [call] upgrade = call.height? upgrade :=
    List.findSome?_singleton
  rw [heightAfter_append, single]

/-- An upgrade that has a height has one after further calls. -/
theorem exists_heightAfter_append {past : List (WiringCall κ)} {upgrade : Upgrade} {height : Height}
    (registered : heightAfter past upgrade = some height) (rest : List (WiringCall κ)) :
    ∃ last, heightAfter (past ++ rest) upgrade = some last := by
  rw [heightAfter_append, registered]
  cases heightAfter rest upgrade with
  | none => exact ⟨height, rfl⟩
  | some given => exact ⟨given, rfl⟩

/-- The hooks that calls add to a phase after others, each with the height that its upgrade has at
that point. -/
def hookingsAfter (phase : BlockPhase) (past : List (WiringCall κ)) :
    List (WiringCall κ) → List (Height × κ)
  | [] => []
  | call :: rest =>
    let hooking? := (call.hook? phase).bind fun (upgrade, hook) =>
      (heightAfter past upgrade).map fun height => (height, hook)
    hooking?.toList ++ hookingsAfter phase (past ++ [call]) rest

/-- The hooks that calls add to a phase, each with the height that its upgrade has at that point. -/
def hookings (phase : BlockPhase) (calls : List (WiringCall κ)) : List (Height × κ) :=
  hookingsAfter phase [] calls

/-- Hooks that are added first come first. -/
theorem hookingsAfter_append (phase : BlockPhase) (past first last : List (WiringCall κ)) :
    hookingsAfter phase past (first ++ last) =
      hookingsAfter phase past first ++ hookingsAfter phase (past ++ first) last := by
  induction first generalizing past with
  | nil => simp only [List.nil_append, List.append_nil, hookingsAfter]
  | cons call rest ih =>
    simp only [List.cons_append, hookingsAfter, ih, List.append_assoc, List.nil_append]

/-- Another call adds a hook to a phase, or none. -/
theorem hookings_snoc (phase : BlockPhase) (calls : List (WiringCall κ)) (call : WiringCall κ) :
    hookings phase (calls ++ [call]) = hookings phase calls ++
      hookingsAfter phase calls [call] := by
  rw [hookings, hookingsAfter_append]
  rfl

/-- Those of the hooks that are tied to a height. -/
def dueAt (height : Height) (hookings : List (Height × κ)) : List κ :=
  (hookings.filter fun hooking => hooking.1 = height).map Prod.snd

/-- Of hooks one after the other those that are tied to a height come one after the other. -/
theorem dueAt_append (height : Height) (first last : List (Height × κ)) :
    dueAt height (first ++ last) = dueAt height first ++ dueAt height last := by
  rw [dueAt, List.filter_append, List.map_append]
  rfl

/-- Of a single hook it is that one or none. -/
theorem dueAt_singleton (height tied : Height) (hook : κ) :
    dueAt height [(tied, hook)] = if tied = height then [hook] else [] := by
  by_cases same : tied = height
  · simp only [dueAt, same, if_true, decide_true, List.filter_cons_of_pos, List.filter_nil,
      List.map_cons, List.map_nil]
  · simp only [dueAt, same, if_false, decide_false, Bool.false_eq_true, not_false_eq_true,
      List.filter_cons_of_neg, List.filter_nil, List.map_nil]

/-- A hook is among those tied to a height if it is tied to it somewhere. -/
theorem mem_dueAt_iff {height : Height} {hookings : List (Height × κ)} {hook : κ} :
    hook ∈ dueAt height hookings ↔ (height, hook) ∈ hookings := by
  constructor
  · intro member
    obtain ⟨⟨tied, _⟩, inside, rfl⟩ := List.mem_map.mp member
    obtain ⟨inside, same⟩ := List.mem_filter.mp inside
    have same : tied = height := of_decide_eq_true same
    exact same ▸ inside
  · intro member
    exact List.mem_map.mpr ⟨_, List.mem_filter.mpr ⟨member, decide_eq_true rfl⟩, rfl⟩

/-- A hook is added by a call. -/
theorem exists_of_mem_hookingsAfter {phase : BlockPhase} {past calls : List (WiringCall κ)}
    {height : Height} {hook : κ} (member : (height, hook) ∈ hookingsAfter phase past calls) :
    ∃ call ∈ calls, ∃ upgrade, call.hook? phase = some (upgrade, hook) := by
  induction calls generalizing past with
  | nil => exact nomatch member
  | cons call rest ih =>
    rcases List.mem_append.mp member with here | later
    · obtain ⟨⟨upgrade, added⟩, adds, same⟩ :=
        Option.bind_eq_some_iff.mp (Option.mem_toList.mp here)
      obtain ⟨_, _, same⟩ := Option.map_eq_some_iff.mp same
      cases same
      exact ⟨call, List.mem_cons_self, upgrade, adds⟩
    · obtain ⟨other, member, added⟩ := ih later
      exact ⟨other, List.mem_cons_of_mem call member, added⟩

end WiringCall

namespace Registry

open WiringCall

variable {registry next final : Registry κ} {call : WiringCall κ}
  {calls past rest : List (WiringCall κ)} {gate : Gate} {upgrade : Upgrade} {phase : BlockPhase}
  {hook : κ} {height : Height}

/-! ## Calls -/

/-- Carries out a call. -/
def wireCall (registry : Registry κ) : WiringCall κ → Except Fault (Registry κ)
  | .setHeight upgrade height => .ok (registry.setUpgradeHeight upgrade height)
  | .gateStores upgrade stores => registry.gateStores upgrade stores
  | .gateMessages upgrade kinds => registry.gateMessages upgrade kinds
  | .addHook phase upgrade hook => registry.addHook phase upgrade hook

/-- Carries out calls in order, up to one that runs into a fault. -/
def wireAll (registry : Registry κ) : List (WiringCall κ) → Except Fault (Registry κ)
  | [] => .ok registry
  | call :: rest => do
    let next ← registry.wireCall call
    next.wireAll rest

/-- The height from which on a gate is open; none if it always is. -/
def gateHeight? (registry : Registry κ) : Gate → Option Height
  | .store name => registry.storeHeight? name
  | .message kind => registry.messageHeight? kind

/-- Whether a gate is open at the current height. -/
def isOpen (registry : Registry κ) : Gate → Bool
  | .store name => registry.hasStore name
  | .message kind => registry.acceptsMessage kind

/-- Everything that a call does to a registry. -/
structure WiringStep (registry : Registry κ) (call : WiringCall κ) (next : Registry κ) : Prop where
  /-- The height that it registers takes the place of another one. -/
  heights : ∀ upgrade, next.upgradeHeight? upgrade =
    (call.height? upgrade).or (registry.upgradeHeight? upgrade)
  /-- A gate that it ties gets the height of the upgrade. -/
  tied : ∀ gate upgrade, call.tie? gate = some upgrade → ∃ height,
    registry.upgradeHeight? upgrade = some height ∧ next.gateHeight? gate = some height
  /-- All others keep theirs. -/
  untied : ∀ gate, call.tie? gate = none → next.gateHeight? gate = registry.gateHeight? gate
  /-- A hook that it adds comes last at the height of the upgrade. -/
  hooked : ∀ phase upgrade hook, call.hook? phase = some (upgrade, hook) → ∃ height,
    registry.upgradeHeight? upgrade = some height ∧
      next.hooks phase = (registry.hooks phase).push height hook
  /-- All other phases keep their hooks. -/
  unhooked : ∀ phase, call.hook? phase = none → next.hooks phase = registry.hooks phase

/-- Something is tied to an upgrade at the height that the upgrade has, and only if it has one. -/
theorem exists_height_of_tied {change : Height → Registry κ}
    (done : (do
      let height ← registry.scheduledHeight upgrade
      return change height) = Except.ok next) :
    ∃ height, registry.upgradeHeight? upgrade = some height ∧ next = change height := by
  unfold scheduledHeight at done
  cases found : registry.upgradeHeight? upgrade with
  | none =>
    rw [found] at done
    contradiction
  | some height =>
    simp only [found] at done
    split at done
    · cases done
      exact ⟨height, rfl, rfl⟩
    · contradiction

/-- A call that runs into no fault takes a step. -/
theorem step_of_wireCall (done : registry.wireCall call = .ok next) :
    registry.WiringStep call next := by
  cases call with
  | setHeight upgrade height =>
    cases done
    refine ⟨fun other => ?_, fun _ _ tie => (nomatch tie), fun gate _ => ?_,
      fun _ _ _ hooks => (nomatch hooks), fun _ _ => rfl⟩
    · simp only [setUpgradeHeight, height?]
      split <;> rfl
    · cases gate <;> rfl
  | gateStores upgrade stores =>
    obtain ⟨height, found, rfl⟩ := exists_height_of_tied done
    refine ⟨fun _ => rfl, fun gate other tie => ?_, fun gate untied => ?_,
      fun _ _ _ hooks => (nomatch hooks), fun _ _ => rfl⟩
    · cases gate with
      | message => exact nomatch tie
      | store name =>
        obtain ⟨inside, rfl⟩ := Option.ite_some_none_eq_some.mp tie
        exact ⟨height, found, if_pos inside⟩
    · cases gate with
      | message => rfl
      | store name => exact if_neg fun inside => nomatch ite_eq_right_iff.mp untied inside
  | gateMessages upgrade kinds =>
    obtain ⟨height, found, rfl⟩ := exists_height_of_tied done
    refine ⟨fun _ => rfl, fun gate other tie => ?_, fun gate untied => ?_,
      fun _ _ _ hooks => (nomatch hooks), fun _ _ => rfl⟩
    · cases gate with
      | store => exact nomatch tie
      | message kind =>
        obtain ⟨inside, rfl⟩ := Option.ite_some_none_eq_some.mp tie
        exact ⟨height, found, if_pos inside⟩
    · cases gate with
      | store => rfl
      | message kind => exact if_neg fun inside => nomatch ite_eq_right_iff.mp untied inside
  | addHook phase upgrade hook =>
    obtain ⟨height, found, rfl⟩ := exists_height_of_tied done
    refine ⟨fun _ => rfl, fun _ _ tie => (nomatch tie), fun gate _ => ?_,
      fun other _ _ hooks => ?_, fun other unhooked => ?_⟩
    · cases gate <;> rfl
    · obtain ⟨same, equal⟩ := Option.ite_some_none_eq_some.mp hooks
      cases equal
      exact ⟨height, found, if_pos same⟩
    · exact if_neg fun inside => nomatch ite_eq_right_iff.mp unhooked inside

/-! ## Runs of calls -/

/-- A run starts with a step. -/
theorem exists_of_wireAll_cons (done : registry.wireAll (call :: rest) = .ok final) :
    ∃ next, registry.WiringStep call next ∧ next.wireAll rest = .ok final := by
  unfold wireAll at done
  cases first : registry.wireCall call with
  | error fault =>
    rw [first] at done
    contradiction
  | ok next =>
    rw [first] at done
    exact ⟨next, step_of_wireCall first, done⟩

/-- A run is one of its first calls and then one of its last calls. -/
theorem exists_of_wireAll_append (done : registry.wireAll (past ++ rest) = .ok final) :
    ∃ middle, registry.wireAll past = .ok middle ∧ middle.wireAll rest = .ok final := by
  induction past generalizing registry with
  | nil => exact ⟨registry, rfl, done⟩
  | cons call past ih =>
    rw [List.cons_append, wireAll] at done
    cases first : registry.wireCall call with
    | error fault =>
      rw [first] at done
      contradiction
    | ok next =>
      rw [first] at done
      obtain ⟨middle, before, after⟩ := ih done
      refine ⟨middle, ?_, after⟩
      rw [wireAll, first]
      exact before

/-- A registry whose upgrades have the heights, and whose phases the hooks, that calls give them. -/
structure WiredBy (registry : Registry κ) (calls : List (WiringCall κ)) : Prop where
  /-- Upgrades have the heights registered last. -/
  heights : ∀ upgrade, registry.upgradeHeight? upgrade = heightAfter calls upgrade
  /-- Hooks are kept by ascending height. -/
  ordered : ∀ phase, (registry.hooks phase).Ordered
  /-- At a height there are the hooks that are tied to it. -/
  hooks : ∀ phase height,
    (registry.hooks phase).hooksAt height = dueAt height (hookings phase calls)

/-- The registry before anything is registered has no hooks and no heights. -/
theorem wiredBy_empty : (empty : Registry κ).WiredBy [] :=
  ⟨fun _ => rfl, fun _ => HookSchedule.ordered_empty, fun _ _ => rfl⟩

/-- What a call does to the hooks of a phase, after calls that came before it. -/
inductive HookingStep (registry : Registry κ) (past : List (WiringCall κ)) (call : WiringCall κ)
    (next : Registry κ) (phase : BlockPhase) : Prop where
  /-- It adds none to them. -/
  | unhooked (added : call.hook? phase = none) (kept : next.hooks phase = registry.hooks phase)
    (same : hookings phase (past ++ [call]) = hookings phase past)
  /-- It adds one at the height that the upgrade has. -/
  | hooked {upgrade : Upgrade} {hook : κ} {tied : Height}
    (added : call.hook? phase = some (upgrade, hook))
    (pushed : next.hooks phase = (registry.hooks phase).push tied hook)
    (snoc : hookings phase (past ++ [call]) = hookings phase past ++ [(tied, hook)])

/-- A step adds a hook to a phase or leaves the phase as it is. -/
theorem WiringStep.hookingStep (step : registry.WiringStep call next)
    (heights : ∀ upgrade, registry.upgradeHeight? upgrade = heightAfter past upgrade)
    (phase : BlockPhase) : registry.HookingStep past call next phase := by
  cases added : call.hook? phase with
  | none =>
    refine .unhooked added (step.unhooked phase added) ?_
    simp only [hookings_snoc, hookingsAfter, added, Option.bind_none, Option.toList_none,
      List.append_nil]
  | some hooking =>
    obtain ⟨tied, found, pushed⟩ := step.hooked phase _ _ added
    rw [heights] at found
    refine .hooked added pushed ?_
    simp only [hookings_snoc, hookingsAfter, added, Option.bind_some, found, Option.map_some,
      Option.toList_some, List.append_nil]

/-- A step adds what the call gives. -/
theorem WiringStep.wiredBy (step : registry.WiringStep call next) (wired : registry.WiredBy past) :
    next.WiredBy (past ++ [call]) := by
  have heights (upgrade : Upgrade) :
      next.upgradeHeight? upgrade = heightAfter (past ++ [call]) upgrade := by
    rw [heightAfter_snoc, step.heights, wired.heights]
  refine ⟨heights, fun phase => ?_, fun phase height => ?_⟩
  · cases step.hookingStep wired.heights phase with
    | unhooked _ kept _ =>
      rw [kept]
      exact wired.ordered phase
    | hooked _ pushed _ =>
      rw [pushed]
      exact (wired.ordered phase).push _ _
  · cases step.hookingStep wired.heights phase with
    | unhooked _ kept same =>
      rw [kept, same]
      exact wired.hooks phase height
    | hooked _ pushed snoc =>
      rw [pushed, (wired.ordered phase).hooksAt_push, snoc, dueAt_append, dueAt_singleton,
        ← wired.hooks]
      split
      · next same => rw [same]
      · rw [List.append_nil]

/-- What holds before a run and is kept by each of its steps holds after it. -/
theorem of_wireAll {motive : Registry κ → List (WiringCall κ) → Prop}
    (keeps : ∀ registry past call next, registry.WiringStep call next → motive registry past →
      motive next (past ++ [call]))
    (start : motive registry past) (done : registry.wireAll rest = .ok final) :
    motive final (past ++ rest) := by
  induction rest generalizing registry past with
  | nil =>
    cases done
    rw [List.append_nil]
    exact start
  | cons call rest ih =>
    obtain ⟨next, step, done⟩ := exists_of_wireAll_cons done
    have later := ih (keeps registry past call next step start) done
    rwa [List.append_assoc, List.singleton_append] at later

/-- A run adds what its calls give. -/
theorem WiredBy.wireAll (wired : registry.WiredBy past) (done : registry.wireAll rest = .ok final) :
    final.WiredBy (past ++ rest) :=
  of_wireAll (motive := WiredBy) (fun _ _ _ _ step => step.wiredBy) wired done

/-- Without a call that ties it a gate keeps its height. -/
theorem gateHeight?_of_untied (done : registry.wireAll rest = .ok final)
    (untied : ∀ later ∈ rest, later.tie? gate = none) :
    final.gateHeight? gate = registry.gateHeight? gate := by
  induction rest generalizing registry with
  | nil =>
    cases done
    rfl
  | cons call rest ih =>
    obtain ⟨next, step, done⟩ := exists_of_wireAll_cons done
    rw [ih done fun later member => untied later (List.mem_cons_of_mem call member)]
    exact step.untied gate (untied call List.mem_cons_self)

/-! ## What follows an upgrade -/

/-- An upgrade that activates at a height. -/
structure ActivatesAt (registry : Registry κ) (upgrade : Upgrade) (height : Height) : Prop where
  /-- It is active from there on. -/
  isApplied : ∀ now, (registry.atHeight now).isApplied upgrade = decide (height ≤ now)
  /-- It activates there. -/
  isActivating : ∀ now, (registry.atHeight now).isActivating upgrade = decide (now = height)

/-- A gate that opens at a height. -/
structure OpensAt (registry : Registry κ) (gate : Gate) (height : Height) : Prop where
  /-- It is open from there on. -/
  isOpen : ∀ now, (registry.atHeight now).isOpen gate = decide (height ≤ now)
  /-- A store appears there. -/
  isStart : ∀ name, gate = .store name →
    ∀ now, (registry.atHeight now).isStoreStart name = decide (now = height)

/-- A gate that stands at every height as an upgrade does. -/
structure GateFollows (registry : Registry κ) (gate : Gate) (upgrade : Upgrade) : Prop where
  /-- It is open where the upgrade is active. -/
  isOpen : ∀ now, (registry.atHeight now).isOpen gate = (registry.atHeight now).isApplied upgrade
  /-- A store appears where the upgrade activates. -/
  isStart : ∀ name, gate = .store name → ∀ now,
    (registry.atHeight now).isStoreStart name = (registry.atHeight now).isActivating upgrade

/-- A hook that runs where an upgrade activates and nowhere else. -/
def HookFollows (registry : Registry κ) (phase : BlockPhase) (hook : κ) (upgrade : Upgrade) :
    Prop :=
  ∀ now, hook ∈ (registry.atHeight now).hooksDue phase ↔
    (registry.atHeight now).isActivating upgrade = true

/-- An upgrade activates at its height. -/
theorem activatesAt_of_upgradeHeight? (found : registry.upgradeHeight? upgrade = some height) :
    registry.ActivatesAt upgrade height := by
  refine ⟨fun now => ?_, fun now => ?_⟩
  all_goals have found : (registry.atHeight now).upgradeHeight? upgrade = some height := found
  · rw [isApplied, found]
    rfl
  · rw [isActivating, found]
    rfl

/-- A gate opens at its height. -/
theorem opensAt_of_gateHeight? (found : registry.gateHeight? gate = some height) :
    registry.OpensAt gate height := by
  cases gate with
  | store name =>
    refine ⟨fun now => ?_, fun other same now => ?_⟩
    · have found : (registry.atHeight now).storeHeight? name = some height := found
      rw [isOpen, hasStore, found]
      rfl
    · cases same
      have found : (registry.atHeight now).storeHeight? name = some height := found
      rw [isStoreStart, found]
      rfl
  | message kind =>
    refine ⟨fun now => ?_, fun _ same => absurd same (by simp)⟩
    have found : (registry.atHeight now).messageHeight? kind = some height := found
    rw [isOpen, acceptsMessage, found]
    rfl

variable {tied last : Height}

/-- A gate follows an upgrade exactly if it opens where the upgrade activates. -/
theorem OpensAt.gateFollows_iff (opens : registry.OpensAt gate tied)
    (activates : registry.ActivatesAt upgrade last) :
    registry.GateFollows gate upgrade ↔ tied = last := by
  constructor
  · intro follows
    have same (now : Height) : tied ≤ now ↔ last ≤ now := by
      rw [← decide_eq_decide, ← opens.isOpen, ← activates.isApplied, follows.isOpen]
    exact UInt64.le_antisymm ((same last).mpr UInt64.le_rfl) ((same tied).mp UInt64.le_rfl)
  · rintro rfl
    refine ⟨fun now => ?_, fun name isStore now => ?_⟩
    · rw [opens.isOpen, activates.isApplied]
    · rw [opens.isStart name isStore, activates.isActivating]

/-- A hook that runs at one height follows an upgrade exactly if the upgrade activates there. -/
theorem ActivatesAt.hookFollows_iff (activates : registry.ActivatesAt upgrade last)
    (runs : ∀ now, hook ∈ (registry.atHeight now).hooksDue phase ↔ now = tied) :
    registry.HookFollows phase hook upgrade ↔ tied = last := by
  simp only [HookFollows, runs, activates.isActivating, decide_eq_true_iff]
  exact ⟨fun same => (same tied).mp rfl, by rintro rfl now; exact Iff.rfl⟩

/-- The upgrade that a gate was tied to last had a height at that point, and this is where the gate
opens. -/
theorem exists_opensAt (done : empty.wireAll (past ++ call :: rest) = .ok registry)
    (ties : call.tie? gate = some upgrade) (latest : ∀ later ∈ rest, later.tie? gate = none) :
    ∃ tied, heightAfter past upgrade = some tied ∧ registry.OpensAt gate tied := by
  obtain ⟨middle, before, after⟩ := exists_of_wireAll_append done
  obtain ⟨next, step, after⟩ := exists_of_wireAll_cons after
  obtain ⟨tied, found, given⟩ := step.tied gate upgrade ties
  have wired := wiredBy_empty.wireAll before
  rw [List.nil_append] at wired
  refine ⟨tied, (wired.heights upgrade).symm.trans found, opensAt_of_gateHeight? ?_⟩
  rw [gateHeight?_of_untied after latest, given]

/-- The upgrade that a hook was tied to had a height at that point, and among the hooks that calls
add it stands with it. -/
theorem exists_hookings_eq (done : empty.wireAll (past ++ call :: rest) = .ok registry)
    (adds : call.hook? phase = some (upgrade, hook)) :
    ∃ tied, heightAfter past upgrade = some tied ∧
      hookings phase (past ++ call :: rest) =
        hookings phase past ++ (tied, hook) :: hookingsAfter phase (past ++ [call]) rest := by
  obtain ⟨middle, before, after⟩ := exists_of_wireAll_append done
  obtain ⟨next, step, after⟩ := exists_of_wireAll_cons after
  obtain ⟨tied, found, _⟩ := step.hooked phase upgrade hook adds
  have wired := wiredBy_empty.wireAll before
  rw [List.nil_append] at wired
  have registered : heightAfter past upgrade = some tied :=
    (wired.heights upgrade).symm.trans found
  refine ⟨tied, registered, ?_⟩
  rw [hookings, hookingsAfter_append]
  simp only [hookingsAfter, adds, registered, List.nil_append, Option.bind_some, Option.map_some,
    Option.toList_some, List.singleton_append, hookings]

/-- After calls without a fault, in whatever order and with whatever repetitions: a gate opens at
the height that its upgrade had when the gate was tied last, and the hooks of a block are those tied
to upgrades that had its height at that point, in the order in which they were added. Both follow
the upgrade at every height exactly if this is still its height after all calls. -/
theorem follows_iff_height_kept (done : empty.wireAll calls = .ok registry) :
    (∀ past call rest gate upgrade, calls = past ++ call :: rest →
      call.tie? gate = some upgrade → (∀ later ∈ rest, later.tie? gate = none) →
      ∃ tied last, heightAfter past upgrade = some tied ∧ heightAfter calls upgrade = some last ∧
        registry.OpensAt gate tied ∧ registry.ActivatesAt upgrade last ∧
        (registry.GateFollows gate upgrade ↔ tied = last)) ∧
    (∀ phase now, (registry.atHeight now).hooksDue phase = dueAt now (hookings phase calls)) ∧
    ∀ past call rest phase upgrade hook, calls = past ++ call :: rest →
      call.hook? phase = some (upgrade, hook) →
      (∀ other ∈ past ++ rest, ∀ another, other.hook? phase ≠ some (another, hook)) →
      ∃ tied last, heightAfter past upgrade = some tied ∧ heightAfter calls upgrade = some last ∧
        (∀ now, hook ∈ (registry.atHeight now).hooksDue phase ↔ now = tied) ∧
        registry.ActivatesAt upgrade last ∧
        (registry.HookFollows phase hook upgrade ↔ tied = last) := by
  have wired := wiredBy_empty.wireAll done
  rw [List.nil_append] at wired
  have due (phase : BlockPhase) (now : Height) :
      (registry.atHeight now).hooksDue phase = dueAt now (hookings phase calls) :=
    wired.hooks phase now
  refine ⟨?_, due, ?_⟩
  · rintro past call rest gate upgrade rfl ties latest
    obtain ⟨tied, registered, opens⟩ := exists_opensAt done ties latest
    obtain ⟨last, kept⟩ := exists_heightAfter_append registered (call :: rest)
    have activates := activatesAt_of_upgradeHeight? ((wired.heights upgrade).trans kept)
    exact ⟨tied, last, registered, kept, opens, activates, opens.gateFollows_iff activates⟩
  · rintro past call rest phase upgrade hook rfl adds once
    obtain ⟨tied, registered, split⟩ := exists_hookings_eq done adds
    obtain ⟨last, kept⟩ := exists_heightAfter_append registered (call :: rest)
    have activates := activatesAt_of_upgradeHeight? ((wired.heights upgrade).trans kept)
    have runs (now : Height) :
        hook ∈ (registry.atHeight now).hooksDue phase ↔ now = tied := by
      rw [due, mem_dueAt_iff, split, List.mem_append, List.mem_cons]
      constructor
      · rintro (before | here | after)
        · obtain ⟨other, inside, another, added⟩ := exists_of_mem_hookingsAfter before
          exact absurd added (once other (List.mem_append_left rest inside) another)
        · exact congrArg Prod.fst here
        · obtain ⟨other, inside, another, added⟩ := exists_of_mem_hookingsAfter after
          exact absurd added (once other (List.mem_append_right past inside) another)
      · rintro rfl
        exact .inr (.inl rfl)
    exact ⟨tied, last, registered, kept, runs, activates, activates.hookFollows_iff runs⟩

namespace Sample

/-- Calls that register another height for an upgrade after a store, a message kind and a hook have
been tied to it. -/
def moved : List (WiringCall Nat) :=
  [.setHeight .tokenIssue 5, .gateStores .tokenIssue [.asset], .gateMessages .tokenIssue [.issue],
    .addHook .beginFirst .tokenIssue 1, .setHeight .tokenIssue 10]

end Sample

/-- The store opens at the earlier height, the hook runs there, and the upgrade activates at the
later one. -/
theorem follows_iff_height_kept_sample : ∃ registry, empty.wireAll Sample.moved = .ok registry ∧
    registry.OpensAt (.store .asset) 5 ∧ registry.ActivatesAt .tokenIssue 10 ∧
    ∀ now, 1 ∈ (registry.atHeight now).hooksDue .beginFirst ↔ now = 5 := by
  obtain ⟨registry, done⟩ : ∃ registry, empty.wireAll Sample.moved = .ok registry := ⟨_, rfl⟩
  obtain ⟨gates, _, hooks⟩ := follows_iff_height_kept done
  obtain ⟨tied, last, before, after, opens, activates, _⟩ :=
    gates [.setHeight .tokenIssue 5] (.gateStores .tokenIssue [.asset]) _ (.store .asset) _ rfl rfl
      (by decide)
  obtain ⟨hooked, _, here, _, runs, _⟩ :=
    hooks [.setHeight .tokenIssue 5, .gateStores .tokenIssue [.asset],
      .gateMessages .tokenIssue [.issue]] (.addHook .beginFirst .tokenIssue 1) _ .beginFirst _ 1 rfl
      rfl (by simp [hook?])
  cases before
  cases after
  cases here
  exact ⟨registry, done, opens, activates, runs⟩

/-- Not everything follows the upgrade that it was tied to last: at the earlier of the heights in
these calls the upgrade is not active, but the store appears, the message kind is accepted and the
hook is due. -/
theorem exists_moved_apart : ∃ registry, empty.wireAll Sample.moved = .ok registry ∧
    let now := registry.atHeight 5
    now.isApplied .tokenIssue = false ∧ now.isActivating .tokenIssue = false ∧
      now.hasStore .asset = true ∧ now.isStoreStart .asset = true ∧
      now.acceptsMessage .issue = true ∧ now.hooksDue .beginFirst = [1] :=
  ⟨_, rfl, rfl, rfl, rfl, rfl, rfl, rfl⟩

end Registry

end TokenLedger
