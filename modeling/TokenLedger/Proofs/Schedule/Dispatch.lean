import Mathlib.Data.List.Basic
import TokenLedger.Proofs.Ledger.Runs
import TokenLedger.Proofs.Schedule.Registrations

/-!
# What a dispatch runs

The hooks that calls add to a phase, each with the height that its upgrade had at that point, say
everything about the dispatches of the phase: at a height those tied to it are carried out in the
order in which they were added, each in the context that the one before it leaves, and their number
is given. Over all heights every hook that was added is run once.
-/

namespace TokenLedger

variable {κ ε α : Type}

/-! ## Hooks one after the other -/

/-- Hooks that end in a result one after the other, each in the context that the one before it
leaves. -/
inductive Threaded (carryOut : κ → Action ε Unit) : List κ → Context → Context → Prop where
  /-- Without hooks the context stays. -/
  | nil {context : Context} : Threaded carryOut [] context context
  /-- The first hook leaves the context in which the others start. -/
  | cons {hook : κ} {rest : List κ} {before between after : Context}
    (first : (carryOut hook).perform before = (.ok (), between))
    (later : Threaded carryOut rest between after) : Threaded carryOut (hook :: rest) before after

/-- How hooks end that are carried out one after the other, up to one that ends without a result,
if they give a value in the end. -/
inductive CarriedOut (carryOut : κ → Action ε Unit) (hooks : List κ) (before : Context)
    (value : α) : Except (Stop ε) α × Context → Prop where
  /-- All of them end in a result. -/
  | done {after : Context} (all : Threaded carryOut hooks before after) :
    CarriedOut carryOut hooks before value (.ok value, after)
  /-- One of them ends without, and those behind it are not carried out. -/
  | stopped {earlier later : List κ} {hook : κ} {between after : Context} {stop : Stop ε}
    (split : hooks = earlier ++ hook :: later) (some : Threaded carryOut earlier before between)
    (stops : (carryOut hook).perform between = (.error stop, after)) :
    CarriedOut carryOut hooks before value (.error stop, after)

variable {carryOut : κ → Action ε Unit} {hooks : List κ} {before between : Context} {value : α}

/-- A hook in front that ends in a result leaves the context in which the others are carried out. -/
theorem CarriedOut.cons {hook : κ} {ended : Except (Stop ε) α × Context}
    (first : (carryOut hook).perform before = (.ok (), between))
    (others : CarriedOut carryOut hooks between value ended) :
    CarriedOut carryOut (hook :: hooks) before value ended := by
  cases others with
  | done all => exact .done (.cons first all)
  | stopped split some stops =>
    have split : hook :: hooks = (hook :: _) ++ _ := congrArg (hook :: ·) split
    exact .stopped split (.cons first some) stops

namespace Registry

open WiringCall

/-- Hooks are carried out one after the other. -/
theorem carriedOut_runHooks (carryOut : κ → Action ε Unit) (hooks : List κ) (before : Context) :
    CarriedOut carryOut hooks before () ((runHooks carryOut hooks).perform before) := by
  induction hooks generalizing before with
  | nil => exact .done .nil
  | cons hook rest ih =>
    unfold runHooks
    rw [Action.perform_bind]
    split
    · next value between first => exact .cons first (ih between)
    · next stop after stops => exact .stopped (List.nil_append _).symm .nil stops

/-- A dispatch carries out the hooks that are due one after the other and gives their number. -/
theorem carriedOut_dispatch (registry : Registry κ) (carryOut : κ → Action ε Unit)
    (phase : BlockPhase) (before : Context) :
    CarriedOut carryOut (registry.hooksDue phase) before (registry.hooksDue phase).length
      ((registry.dispatch carryOut phase).perform before) := by
  have ran := carriedOut_runHooks carryOut (registry.hooksDue phase) before
  unfold dispatch
  rw [Action.perform_bind]
  generalize (runHooks carryOut (registry.hooksDue phase)).perform before = ended at ran ⊢
  cases ran with
  | done all => exact .done all
  | stopped split some stops => exact .stopped split some stops

end Registry

/-! ## Hooks of all heights -/

namespace WiringCall

/-- The hooks that calls add to a phase. -/
def registered (phase : BlockPhase) (calls : List (WiringCall κ)) : List κ :=
  calls.filterMap fun call => (call.hook? phase).map Prod.snd

/-- Another call adds a hook to a phase, or none. -/
theorem registered_snoc (phase : BlockPhase) (calls : List (WiringCall κ)) (call : WiringCall κ) :
    registered phase (calls ++ [call]) =
      registered phase calls ++ ((call.hook? phase).map Prod.snd).toList := by
  rw [registered, List.filterMap_append]
  refine congrArg _ ?_
  rw [List.filterMap_cons]
  cases call.hook? phase <;> rfl

/-- Without the hooks of a height those of another one stay. -/
theorem dueAt_filter_ne {height other : Height} (differs : other ≠ height)
    (hookings : List (Height × κ)) :
    dueAt other (hookings.filter fun hooking => !decide (hooking.1 = height)) =
      dueAt other hookings := by
  unfold dueAt
  rw [List.filter_filter]
  refine congrArg _ (List.filter_congr fun hooking _ => ?_)
  by_cases same : hooking.1 = other
  · simp [same, differs]
  · simp [same]

/-- Different heights share out all hooks that are tied to one of them. -/
theorem perm_flatMap_dueAt {heights : List Height} (distinct : heights.Nodup)
    {hookings : List (Height × κ)} (covers : ∀ hooking ∈ hookings, hooking.1 ∈ heights) :
    (heights.flatMap fun height => dueAt height hookings).Perm (hookings.map Prod.snd) := by
  induction heights generalizing hookings with
  | nil =>
    have none : hookings = [] :=
      List.eq_nil_iff_forall_not_mem.mpr fun hooking member => nomatch covers hooking member
    rw [none]
    exact .refl _
  | cons height rest ih =>
    obtain ⟨absent, distinct⟩ := List.nodup_cons.mp distinct
    -- Without the hooks of this height the other heights share out the rest.
    let others := hookings.filter fun hooking => !decide (hooking.1 = height)
    have inside : ∀ hooking ∈ others, hooking.1 ∈ rest := fun hooking member => by
      obtain ⟨member, differs⟩ := List.mem_filter.mp member
      have differs : hooking.1 ≠ height := by simpa using differs
      exact (List.mem_cons.mp (covers hooking member)).resolve_left differs
    have same : (rest.flatMap fun later => dueAt later hookings) =
        rest.flatMap fun later => dueAt later others := by
      refine List.flatMap_congr fun later member => ?_
      have differs : later ≠ height := fun equal => absent (equal ▸ member)
      exact (dueAt_filter_ne differs hookings).symm
    have parts : (dueAt height hookings ++ others.map Prod.snd).Perm (hookings.map Prod.snd) := by
      rw [dueAt, ← List.map_append]
      exact (List.filter_append_perm _ hookings).map Prod.snd
    rw [List.flatMap_cons, same]
    exact ((ih distinct inside).append_left _).trans parts

end WiringCall

namespace Registry

open WiringCall

variable {registry next : Registry κ} {call : WiringCall κ} {calls past : List (WiringCall κ)}

/-- A registry that counts the hooks that calls add. -/
structure Counts (registry : Registry κ) (calls : List (WiringCall κ)) : Prop where
  /-- Its phases have the hooks that calls give them. -/
  wired : registry.WiredBy calls
  /-- No hook is left out for want of a height. -/
  hooks : ∀ phase, (hookings phase calls).map Prod.snd = registered phase calls
  /-- Over all heights there are as many hooks as were added. -/
  count : ∀ phase, registry.hookCount phase = (registered phase calls).length

/-- The registry before anything is registered counts no hooks. -/
theorem counts_empty : (empty : Registry κ).Counts [] :=
  ⟨wiredBy_empty, fun _ => rfl, fun _ => rfl⟩

/-- A step counts the hook that the call adds. -/
theorem WiringStep.counts (step : registry.WiringStep call next) (counts : registry.Counts past) :
    next.Counts (past ++ [call]) := by
  refine ⟨step.wiredBy counts.wired, fun phase => ?_, fun phase => ?_⟩
  · cases step.hookingStep counts.wired.heights phase with
    | unhooked added _ same =>
      rw [same, counts.hooks, registered_snoc, added]
      exact (List.append_nil _).symm
    | hooked added _ snoc =>
      rw [snoc, List.map_append, counts.hooks, registered_snoc, added]
      rfl
  · cases step.hookingStep counts.wired.heights phase with
    | unhooked added kept _ =>
      rw [registered_snoc, added]
      have kept : next.hookCount phase = registry.hookCount phase := by
        rw [hookCount, hookCount, kept]
      rw [kept, counts.count]
      exact congrArg _ (List.append_nil _).symm
    | hooked added pushed _ =>
      rw [registered_snoc, added, List.length_append, ← counts.count, hookCount, pushed,
        HookSchedule.count_push]
      rfl

/-- A registry counts the hooks that the calls of a run add. -/
theorem counts_of_wireAll (done : empty.wireAll calls = .ok registry) : registry.Counts calls :=
  of_wireAll (motive := Counts) (fun _ _ _ _ step => step.counts) counts_empty done

/-- After calls without a fault, in whatever order and over whatever phases and upgrades: a dispatch
at a height carries out, one after the other, the hooks of its phase that are tied to the height,
and gives their number. A hook that is added is tied to the height that its upgrade has at that
point, and there it stands behind those added before it and in front of those added after it. The
hooks of a phase are counted over all heights, and the heights share them out. -/
theorem dispatch_complete (done : empty.wireAll calls = .ok registry) (phase : BlockPhase) :
    let due (now : Height) : List κ := dueAt now (hookings phase calls)
    (∀ (ε : Type) (carryOut : κ → Action ε Unit) now before,
      CarriedOut carryOut (due now) before (due now).length
        (((registry.atHeight now).dispatch carryOut phase).perform before)) ∧
    (∀ past call rest upgrade hook, calls = past ++ call :: rest →
      call.hook? phase = some (upgrade, hook) →
      ∃ tied, heightAfter past upgrade = some tied ∧ ∀ now,
        due now = dueAt now (hookings phase past) ++ (if tied = now then [hook] else []) ++
          dueAt now (hookingsAfter phase (past ++ [call]) rest)) ∧
    registry.hookCount phase = (registered phase calls).length ∧
    ∀ heights : List Height, heights.Nodup → (∀ now, due now ≠ [] → now ∈ heights) →
      (heights.flatMap due).Perm (registered phase calls) := by
  have counts := counts_of_wireAll done
  intro due
  refine ⟨fun ε carryOut now before => ?_, ?_, counts.count phase, fun heights distinct all => ?_⟩
  · have atNow : (registry.atHeight now).hooksDue phase = due now := counts.wired.hooks phase now
    rw [← atNow]
    exact carriedOut_dispatch _ carryOut phase before
  · rintro past call rest upgrade hook rfl adds
    obtain ⟨tied, height, split⟩ := exists_hookings_eq done adds
    refine ⟨tied, height, fun now => ?_⟩
    have single : (tied, hook) :: hookingsAfter phase (past ++ [call]) rest =
        [(tied, hook)] ++ hookingsAfter phase (past ++ [call]) rest := rfl
    change dueAt now (hookings phase (past ++ call :: rest)) = _
    rw [split, single, dueAt_append, dueAt_append, dueAt_singleton, List.append_assoc]
  · rw [← counts.hooks]
    refine perm_flatMap_dueAt distinct fun hooking member => all hooking.1 ?_
    exact List.ne_nil_of_mem (mem_dueAt_iff.mpr member)

namespace Sample

/-- Calls that add hooks of two upgrades with one height in turn, and one more after one of the
upgrades has been given another height. -/
def shared : List (WiringCall String) :=
  [.setHeight .tokenIssue 5, .setHeight .symbolRules 5, .addHook .beginFirst .symbolRules "a",
    .addHook .endLast .tokenIssue "b", .addHook .beginFirst .tokenIssue "c",
    .setHeight .symbolRules 7, .addHook .beginFirst .symbolRules "d",
    .addHook .beginFirst .tokenIssue "e"]

end Sample

/-- At the height that is shared the hooks of both upgrades are carried out in the order in which
they were added; the one added later runs at the other height. -/
theorem dispatch_complete_sample : ∃ registry, empty.wireAll Sample.shared = .ok registry ∧
    (∀ (ε : Type) (carryOut : String → Action ε Unit) before,
      CarriedOut carryOut ["a", "c", "e"] before 3
        (((registry.atHeight 5).dispatch carryOut .beginFirst).perform before)) ∧
    registry.hookCount .beginFirst = 4 ∧
    ([5, 7].flatMap fun now => dueAt now (hookings .beginFirst Sample.shared)).Perm
      ["a", "c", "d", "e"] := by
  obtain ⟨registry, done⟩ : ∃ registry, empty.wireAll Sample.shared = .ok registry := ⟨_, rfl⟩
  obtain ⟨dispatched, _, count, shared⟩ := dispatch_complete done .beginFirst
  refine ⟨registry, done, fun ε carryOut before => dispatched ε carryOut 5 before, count,
    shared [5, 7] (by decide) fun now some => ?_⟩
  obtain ⟨hook, member⟩ := List.exists_mem_of_ne_nil _ some
  have tied : (now, hook) ∈ [((5 : Height), "a"), (5, "c"), (7, "d"), (5, "e")] :=
    mem_dueAt_iff.mp member
  simp only [List.mem_cons, Prod.mk.injEq, List.not_mem_nil, or_false] at tied ⊢
  tauto

end Registry

end TokenLedger
