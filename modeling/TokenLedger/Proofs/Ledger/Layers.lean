import TokenLedger.Issuance
import TokenLedger.Proofs.Ledger.Runs
import TokenLedger.Schedule

/-!
# Layers do not matter to actions

An action is transparent if what it gives, what it emits and what it does to the store are the same
whether writes are pending in layers above the store or carried out on it. Reads look through all
layers and writes go to the topmost one, so every action of the ledger is transparent: one that runs
in a layer which is merged in the end is one that runs on the store itself.
-/

namespace TokenLedger

variable {ε ε' α β : Type}

/-- The context with every pending write carried out on the store. -/
def Context.flat (context : Context) : Context :=
  { context with view := .base context.view.flatten }

/-- The context in a layer of its own, before any event. -/
def Context.branch (context : Context) : Context :=
  { context with view := context.view.branch, events := [] }

namespace Action

/-- An action that does the same whether writes are pending or carried out. -/
structure Transparent (action : Action ε α) : Prop where
  /-- It stays at its height. -/
  height : ∀ context, (action.perform context).2.height = context.height
  /-- It writes to the topmost layer. -/
  under : ∀ context, (action.perform context).2.view.under? = context.view.under?
  /-- With all writes carried out it ends as it ends otherwise, with all writes carried out. -/
  flat : ∀ context, action.perform context.flat =
    ((action.perform context).1, (action.perform context).2.flat)

/-- Run on a store itself, with no layer above it, an action gives a value, emits events and leaves
a store. -/
def Direct (action : Action ε α) (height : Height) (store : Store) (value : α)
    (events : List Event) (after : Store) : Prop :=
  action.perform ⟨.base store, height, []⟩ = (.ok value, ⟨.base after, height, events⟩)

/-- An action ends on a store in one way. -/
theorem Direct.unique {action : Action ε α} {height : Height} {store after other : Store}
    {value again : α} {events emitted : List Event}
    (first : action.Direct height store value events after)
    (second : action.Direct height store again emitted other) :
    value = again ∧ events = emitted ∧ after = other := by
  obtain ⟨values, contexts⟩ := Prod.mk.inj (first.symm.trans second)
  injection contexts with views _ events
  exact ⟨Except.ok.inj values, events, View.base.inj views⟩

/-! ## Building blocks -/

/-- A value by itself is transparent. -/
theorem transparent_pure (value : α) : (pure value : Action ε α).Transparent :=
  ⟨fun _ => rfl, fun _ => rfl, fun _ => rfl⟩

/-- A refusal is transparent. -/
theorem transparent_refuse (cause : ε) : (refuse cause : Action ε α).Transparent :=
  ⟨fun _ => rfl, fun _ => rfl, fun _ => rfl⟩

/-- A fault is transparent. -/
theorem transparent_fail (fault : Fault) : (fail fault : Action ε α).Transparent :=
  ⟨fun _ => rfl, fun _ => rfl, fun _ => rfl⟩

/-- Emitting an event is transparent. -/
theorem transparent_emit (event : Event) : (emit event : Action ε Unit).Transparent :=
  ⟨fun _ => rfl, fun _ => rfl, fun _ => rfl⟩

/-- One transparent action after another is transparent. -/
theorem Transparent.bind {action : Action ε α} {next : α → Action ε β}
    (first : action.Transparent) (rest : ∀ value, (next value).Transparent) :
    (action >>= next).Transparent where
  height context := by
    have stays := first.height context
    rw [perform_bind]
    generalize action.perform context = ended at stays ⊢
    rcases ended with ⟨stop | value, after⟩
    · exact stays
    · exact ((rest value).height after).trans stays
  under context := by
    have stays := first.under context
    rw [perform_bind]
    generalize action.perform context = ended at stays ⊢
    rcases ended with ⟨stop | value, after⟩
    · exact stays
    · exact ((rest value).under after).trans stays
  flat context := by
    rw [perform_bind, perform_bind, first.flat]
    rcases action.perform context with ⟨stop | value, after⟩
    · rfl
    · exact (rest value).flat after

/-- Either of two transparent actions is transparent. -/
theorem Transparent.ite {condition : Prop} [Decidable condition] {first second : Action ε α}
    (left : first.Transparent) (right : second.Transparent) :
    (if condition then first else second).Transparent := by
  split
  · exact left
  · exact right

/-- A check in front of a transparent action is transparent. -/
theorem Transparent.guard {condition : Prop} [Decidable condition] {cause : ε}
    {next : Unit → Action ε β} (rest : (next ()).Transparent) :
    (if condition then refuse cause >>= next else next ()).Transparent :=
  ((transparent_refuse cause).bind fun _ => rest).ite rest

/-- A computation that may be refused is transparent. -/
theorem transparent_ofExcept (computed : Except ε α) : (ofExcept computed).Transparent := by
  cases computed with
  | ok value => exact transparent_pure value
  | error cause => exact transparent_refuse cause

/-- A computation that may be faulty is transparent. -/
theorem transparent_ofFaulty (computed : Except Fault α) :
    (ofFaulty computed : Action ε α).Transparent := by
  cases computed with
  | ok value => exact transparent_pure value
  | error fault => exact transparent_fail fault

/-- An action that leaves what a transparent one leaves, and whose answer depends on the answer and
the events of that one, is transparent. -/
theorem Transparent.of_answers {action : Action ε α} {other : Action ε' β}
    (transparent : action.Transparent)
    (answer : Except (Stop ε) α → List Event → List Event → Except (Stop ε') β)
    (answers : ∀ context, other.perform context =
      (answer (action.perform context).1 context.events (action.perform context).2.events,
        (action.perform context).2)) : other.Transparent where
  height context := by
    rw [answers]
    exact transparent.height context
  under context := by
    rw [answers]
    exact transparent.under context
  flat context := by
    rw [answers, answers, transparent.flat]
    rfl

/-- Passing refusals on is transparent. -/
theorem Transparent.mapCause {action : Action ε α} (transparent : action.Transparent)
    (change : ε → ε') : (action.mapCause change).Transparent := by
  let answer : Except (Stop ε) α → Except (Stop ε') α
    | .ok value => .ok value
    | .error (.refused cause) => .error (.refused (change cause))
    | .error (.faulted fault) => .error (.faulted fault)
  refine transparent.of_answers (fun given _ _ => answer given) fun context => ?_
  simp only [Action.mapCause, perform, ExceptT.run]
  rcases action context with ⟨(cause | fault) | value, after⟩ <;> rfl

/-! ## Reads and writes -/

/-- What only looks at the store that the view amounts to is transparent. -/
theorem transparent_of_looks {action : Action ε α} (look : Store → α)
    (looks : ∀ context, action.perform context = (.ok (look context.view.flatten), context)) :
    action.Transparent where
  height context := by rw [looks]
  under context := by rw [looks]
  flat context := by
    rw [looks, looks]
    rfl

/-- What only writes to a key is transparent. -/
theorem transparent_of_writes {action : Action ε Unit} (pending : Bytes × Option Bytes)
    (writes : ∀ context : Context,
      action.perform context = (.ok (), { context with view := context.view.write pending })) :
    action.Transparent where
  height context := by rw [writes]
  under context := by
    rw [writes]
    exact View.under?_write context.view pending
  flat context := by
    rw [writes, writes]
    simp only [Context.flat, View.write_base, View.flatten_write]

/-- Reading a key is transparent. -/
theorem transparent_getKey (name : StoreName) (key : Bytes) :
    (getKey name key : Action ε (Option Bytes)).Transparent :=
  transparent_of_looks (fun store => store.find? (name.keyStart ++ key)) fun context => by
    rw [← View.get_eq_find?_flatten]
    rfl

/-- Asking for a key is transparent. -/
theorem transparent_hasKey (name : StoreName) (key : Bytes) :
    (hasKey name key : Action ε Bool).Transparent :=
  transparent_of_looks (fun store => (store.find? (name.keyStart ++ key)).isSome) fun context => by
    rw [← View.get_eq_find?_flatten]
    rfl

/-- Setting a key is transparent. -/
theorem transparent_setKey (name : StoreName) (key value : Bytes) :
    (setKey name key value : Action ε Unit).Transparent :=
  transparent_of_writes (name.keyStart ++ key, some value) fun _ => rfl

/-- Deleting a key is transparent. -/
theorem transparent_deleteKey (name : StoreName) (key : Bytes) :
    (deleteKey name key : Action ε Unit).Transparent :=
  transparent_of_writes (name.keyStart ++ key, none) fun _ => rfl

/-! ## Layers -/

/-- Performing an action on a layer of its own. -/
theorem perform_atomically (action : Action ε α) (context : Context) :
    (atomically action).perform context =
      match action.perform context.branch with
      | (.ok value, after) => (.ok value, { context with
          view := after.view.commit, events := context.events ++ after.events })
      | (.error stop, _) => (.error stop, context) := rfl

/-- If an action ends in a result on a layer of its own, that layer is merged. -/
theorem exists_of_perform_atomically {action : Action ε α} {context after : Context} {value : α}
    (performed : (atomically action).perform context = (.ok value, after)) :
    ∃ inner, action.perform context.branch = (.ok value, inner) ∧ after = { context with
      view := inner.view.commit, events := context.events ++ inner.events } := by
  rw [perform_atomically] at performed
  split at performed
  · next given inner first =>
    obtain ⟨values, contexts⟩ := Prod.mk.inj performed
    exact ⟨inner, values ▸ first, contexts.symm⟩
  · exact absurd (congrArg Prod.fst performed) (by rintro ⟨⟩)

/-- A transparent action on a layer of its own is transparent. -/
theorem Transparent.atomically {action : Action ε α} (transparent : action.Transparent) :
    (Action.atomically action).Transparent where
  height context := by
    rw [perform_atomically]
    rcases action.perform context.branch with ⟨stop | value, after⟩ <;> rfl
  under context := by
    have stays := transparent.under context.branch
    rw [perform_atomically]
    generalize action.perform context.branch = ended at stays ⊢
    rcases ended with ⟨stop | value, after⟩
    · rfl
    · obtain ⟨writes, layered⟩ := View.exists_layer_of_under? stays
      change after.view.commit.under? = context.view.under?
      rw [layered, View.under?_commit]
  flat context := by
    -- The layer over the store and the layer over the view amount to the same store.
    have one := transparent.flat context.flat.branch
    have other := transparent.flat context.branch
    have same := one.symm.trans other
    have stays := transparent.under context.flat.branch
    rw [perform_atomically, perform_atomically]
    generalize action.perform context.flat.branch = first at same stays ⊢
    generalize action.perform context.branch = second at same ⊢
    rcases first with ⟨stop | value, after⟩ <;> rcases second with ⟨stop' | value', after'⟩
    · injection same with results
      rw [Except.error.inj results]
    · injection same with results
      contradiction
    · injection same with results
      contradiction
    · injection same with results contexts
      have stores : after.view.flatten = after'.view.flatten :=
        congrArg (fun context => context.view.flatten) contexts
      have events : after.events = after'.events :=
        congrArg (fun context => context.events) contexts
      obtain ⟨writes, layered⟩ := View.exists_layer_of_under? stays
      have bottom : after.view.commit.under? = none := by
        rw [layered, View.under?_commit]
        rfl
      have merged : after.view.commit = .base after'.view.commit.flatten := by
        rw [View.eq_base_of_under? bottom, View.flatten_commit, View.flatten_commit, stores]
      simp only [Context.flat, Except.ok.inj results, events, merged]

/-- What a transparent action does through pending writes it does to the store itself. -/
theorem Transparent.direct {action : Action ε α} (transparent : action.Transparent) {view : View}
    {height : Height} {value : α} {after : Context}
    (ended : action.perform ⟨view, height, []⟩ = (.ok value, after)) :
    action.Direct height view.flatten value after.events after.view.flatten := by
  have stays := transparent.height ⟨view, height, []⟩
  have flat := transparent.flat ⟨view, height, []⟩
  rw [ended] at stays flat
  subst stays
  exact flat

/-- What a transparent action does to a store on a layer of its own it does without. -/
theorem Transparent.direct_of_atomically {action : Action ε α} (transparent : action.Transparent)
    {height : Height} {store after : Store} {value : α} {events : List Event}
    (direct : (Action.atomically action).Direct height store value events after) :
    action.Direct height store value events after := by
  obtain ⟨inner, ended, contexts⟩ := exists_of_perform_atomically direct
  have merged : View.base after = inner.view.commit := congrArg Context.view contexts
  have emitted : events = inner.events := congrArg Context.events contexts
  have left : after = inner.view.flatten := by
    rw [← View.flatten_commit, ← merged]
    rfl
  rw [emitted, left]
  exact transparent.direct ended

end Action

open TokenLedger.Action

/-! ## Parameters -/

namespace Subspace

/-- Checking a key is transparent. -/
theorem transparent_requireKey (space : Subspace) (key : String) :
    (space.requireKey key : Action ε Unit).Transparent :=
  (transparent_pure ()).ite (transparent_fail _)

/-- Reading a parameter that may be unset is transparent. -/
theorem transparent_get? [JsonForm α] (space : Subspace) (key : String) :
    (space.get? key : Action ε (Option α)).Transparent := by
  refine (space.transparent_requireKey key).bind fun _ =>
    (transparent_getKey .params (space.keyBytes key)).bind fun stored => ?_
  split
  · exact transparent_pure none
  split
  · exact transparent_pure _
  · exact transparent_fail _

/-- Reading a parameter is transparent. -/
theorem transparent_get [JsonForm α] (space : Subspace) (key : String) :
    (space.get key : Action ε α).Transparent := by
  refine (space.transparent_get? key).bind fun found => ?_
  split
  · exact transparent_pure _
  · exact transparent_fail _

/-- Setting a parameter is transparent. -/
theorem transparent_set [JsonForm α] (space : Subspace) (key : String) (value : α) :
    (space.set key value : Action ε Unit).Transparent :=
  (space.transparent_requireKey key).bind fun _ => transparent_setKey _ _ _

end Subspace

namespace Migration

/-- Migrations are transparent. -/
theorem transparent_carryOut (migration : Migration) :
    (carryOut migration : Action ε Unit).Transparent := by
  cases migration with
  | setParams =>
    exact (Subspace.transparent_set _ _ _).bind fun _ =>
      (Subspace.transparent_set _ _ _).bind fun _ => Subspace.transparent_set _ _ _
  | lowerFees =>
    exact (Subspace.transparent_set _ _ _).bind fun _ => Subspace.transparent_set _ _ _

/-- Hooks are transparent. -/
theorem transparent_runHooks (hooks : List Migration) :
    (Registry.runHooks carryOut hooks : Action ε Unit).Transparent := by
  induction hooks with
  | nil => exact transparent_pure ()
  | cons hook rest ih => exact (transparent_carryOut hook).bind fun _ => ih

/-- Running the hooks of a phase is transparent. -/
theorem transparent_dispatch (registry : Registry Migration) (phase : BlockPhase) :
    (registry.dispatch carryOut phase : Action ε Nat).Transparent :=
  (transparent_runHooks (registry.hooksDue phase)).bind fun _ => transparent_pure _

end Migration

/-! ## Supply -/

namespace Supply

/-- Reading coins is transparent. -/
theorem transparent_readCoins (key : Bytes) : (readCoins key : Action ε Coins).Transparent := by
  refine (transparent_getKey .supply key).bind fun record => ?_
  split
  · exact transparent_pure _
  · exact transparent_ofFaulty _

/-- Recording what an account holds is transparent. -/
theorem transparent_setBalance (address : Address) (coins : Coins) :
    (setBalance address coins : Action ε Unit).Transparent :=
  (transparent_deleteKey _ _).ite (transparent_setKey _ _ _)

/-- Adding up is transparent. -/
theorem transparent_sum (held added : Coins) : (sum held added).Transparent := by
  unfold sum
  split
  · exact transparent_pure _
  · exact transparent_refuse _

/-- Adding coins to an account is transparent. -/
theorem transparent_credit (address : Address) (amount : Coins) :
    (credit address amount).Transparent :=
  (transparent_readCoins _).bind fun _ =>
    (transparent_sum _ _).bind fun _ => transparent_setBalance _ _

/-- Taking coins from an account is transparent. -/
theorem transparent_debit (address : Address) (amount : Coins) :
    (debit address amount).Transparent := by
  refine (transparent_readCoins _).bind fun held => ?_
  split
  · exact transparent_setBalance _ _
  · exact transparent_refuse _

/-- Adding coins to the total supply is transparent. -/
theorem transparent_inflate (amount : Coins) : (inflate amount).Transparent :=
  (transparent_readCoins _).bind fun _ =>
    (transparent_sum _ _).bind fun _ => transparent_setKey _ _ _

/-- Checking a coin set is transparent. -/
theorem transparent_requireValid (amount : Coins) : (requireValid amount).Transparent :=
  (transparent_pure ()).ite (transparent_refuse _)

/-- Checking a module is transparent. -/
theorem transparent_requireModule (modules : ModuleAccounts) (name : String) :
    (requireModule modules name : Action ε Unit).Transparent := by
  unfold requireModule
  split
  · exact transparent_pure ()
  · exact transparent_fail _

/-- Moving coins is transparent. -/
theorem transparent_transfer (sender recipient : Address) (amount : Coins) :
    (transfer sender recipient amount).Transparent :=
  (transparent_requireValid amount).bind fun _ =>
    (transparent_debit sender amount).bind fun _ => transparent_credit recipient amount

/-- Moving coins to a module is transparent. -/
theorem transparent_sendToModule (modules : ModuleAccounts) (sender : Address) (recipient : String)
    (amount : Coins) : (sendToModule modules sender recipient amount).Transparent :=
  (transparent_requireModule modules recipient).bind fun _ => transparent_transfer _ _ _

/-- Moving coins from a module is transparent. -/
theorem transparent_sendFromModule (modules : ModuleAccounts) (sender : String)
    (recipient : Address) (amount : Coins) :
    (sendFromModule modules sender recipient amount).Transparent :=
  (transparent_requireModule modules sender).bind fun _ => transparent_transfer _ _ _

/-- Creating coins is transparent. -/
theorem transparent_mintToModule (modules : ModuleAccounts) (name : String) (amount : Coins) :
    (mintToModule modules name amount).Transparent := by
  refine (transparent_requireModule modules name).bind fun _ => .ite ?_ (transparent_fail _)
  exact (transparent_requireValid amount).bind fun _ =>
    (transparent_credit _ amount).bind fun _ => transparent_inflate amount

end Supply

/-! ## Tokens -/

namespace TokenBook

/-- Asking for a token is transparent. -/
theorem transparent_contains (symbol : String) : (contains symbol : Action ε Bool).Transparent :=
  transparent_hasKey _ _

/-- Storing a new token is transparent. -/
theorem transparent_create (token : Token) : (create token : Action ε Unit).Transparent :=
  (transparent_contains _).bind fun _ => (transparent_fail _).ite (transparent_setKey _ _ _)

/-- Storing a token in place of another is transparent. -/
theorem transparent_replace (token : Token) : (replace token : Action ε Unit).Transparent :=
  (transparent_contains _).bind fun _ => (transparent_setKey _ _ _).ite (transparent_fail _)

/-- Reading a token is transparent. -/
theorem transparent_find? (symbol : String) :
    (find? symbol : Action ε (Option Token)).Transparent := by
  refine (transparent_getKey _ _).bind fun record => ?_
  split
  · exact transparent_pure none
  · rw [map_eq_pure_bind]
    exact (transparent_ofFaulty _).bind fun _ => transparent_pure _

end TokenBook

/-! ## Messages -/

namespace Issuance

/-- Creating units is transparent. -/
theorem transparent_createUnits (modules : ModuleAccounts) (token : Token) (units : Int64)
    (key : String) : (createUnits modules token units key).Transparent :=
  (transparent_ofExcept _).bind fun _ =>
    ((Supply.transparent_mintToModule _ _ _).mapCause _).bind fun _ =>
      ((Supply.transparent_sendFromModule _ _ _ _).mapCause _).bind fun _ => transparent_emit _

/-- Collecting a fee is transparent. -/
theorem transparent_chargeFee (modules : ModuleAccounts) (sender : Address) (fee : Coins) :
    (supplying (Supply.sendToModule modules sender ModuleAccounts.feeCollector fee)).Transparent :=
  (Supply.transparent_sendToModule _ _ _ _).mapCause _

/-- Issuing is transparent. -/
theorem transparent_issueSteps (modules : ModuleAccounts) (regime : Regime) (msg : IssueMsg) :
    (issueSteps modules regime msg).Transparent := by
  refine (Subspace.transparent_get _ _).bind fun maxDecimal => .guard ?_
  refine (TokenBook.transparent_contains _).bind fun taken => .guard ?_
  -- The checks of name, symbol, description and supply.
  refine (transparent_ofExcept _).bind fun _ => (transparent_ofExcept _).bind fun _ => ?_
  refine (transparent_ofExcept _).bind fun _ => (transparent_ofExcept _).bind fun _ => ?_
  refine (TokenBook.transparent_create _).bind fun _ => ?_
  refine (Subspace.transparent_get _ _).bind fun fee => ?_
  exact (transparent_chargeFee _ _ _).bind fun _ => transparent_createUnits _ _ _ _

/-- Minting is transparent. -/
theorem transparent_mintSteps (modules : ModuleAccounts) (msg : MintMsg) :
    (mintSteps modules msg).Transparent := by
  refine (TokenBook.transparent_find? _).bind fun found => ?_
  split
  · exact transparent_refuse _
  · refine .guard (.guard ?_)
    refine (transparent_ofFaulty _).bind fun possible => .guard ?_
    refine (Subspace.transparent_get _ _).bind fun fee => ?_
    refine (transparent_chargeFee _ _ _).bind fun _ => ?_
    refine (transparent_ofFaulty _).bind fun totalSupply => ?_
    exact (TokenBook.transparent_replace _).bind fun _ => transparent_createUnits _ _ _ _

/-- The steps of a message are transparent. -/
theorem transparent_steps (modules : ModuleAccounts) (regime : Regime) (message : Message) :
    (steps modules regime message).Transparent := by
  cases message with
  | issue msg => exact transparent_issueSteps modules regime msg
  | mint msg => exact transparent_mintSteps modules msg

end Issuance

end TokenLedger
