import TokenLedger.Proofs.Ledger.Layers
import TokenLedger.Proofs.Ledger.Sound

/-!
# Which records a message writes

A message that is applied writes the record of its token, those of the balances of its signer, of
the collector of fees and of the token module, and that of the total supply, whatever else is stored
and pending. What is pending then is determined by the slots that are written and by the store that
the pending writes amount to: the order in which they were made leaves no trace.
-/

namespace TokenLedger

variable {ε ε' α β : Type}

namespace WriteSet

/-- Pending writes that are those before and writes to some slots. -/
def Adds (before after : WriteSet) (slots : List Slot) : Prop :=
  ∀ key, after.contains key = true ↔ before.contains key = true ∨ ∃ slot ∈ slots, slot.key = key

/-- A write is pending for a key if it is listed. -/
theorem contains_iff (writes : WriteSet) (key : Bytes) :
    writes.contains key = true ↔ ∃ entry ∈ writes.entries, entry.1 = key := by
  rw [KeyMap.contains, Option.isSome_iff_exists]
  simp only [KeyMap.find?_eq_some_iff]
  constructor
  · rintro ⟨change, member⟩
    exact ⟨_, member, rfl⟩
  · rintro ⟨⟨_, change⟩, member, rfl⟩
    exact ⟨change, member⟩

/-- Another write is pending for its own key. -/
theorem contains_insert (writes : WriteSet) (key other : Bytes) (change : Option Bytes) :
    (writes.insert key change).contains other = true ↔
      writes.contains other = true ∨ key = other := by
  rw [KeyMap.contains, KeyMap.contains, KeyMap.find?_insert]
  by_cases same : key = other <;> simp [same]

variable {first middle last : WriteSet} {slots more : List Slot}

/-- Nothing is added to what is pending. -/
theorem adds_nil (writes : WriteSet) : Adds writes writes [] := fun key => by simp

/-- What is added in two steps is added. -/
theorem Adds.append (before : Adds first middle slots) (later : Adds middle last more) :
    Adds first last (slots ++ more) := fun key => by
  rw [later key, before key, or_assoc]
  simp only [List.mem_append, or_and_right, exists_or]

/-- A write adds its slot. -/
theorem adds_insert (writes : WriteSet) (slot : Slot) (change : Option Bytes) :
    Adds writes (writes.insert slot.key change) [slot] := fun key => by
  rw [contains_insert]
  simp

/-- Only the slots matter. -/
theorem Adds.congr (adds : Adds first last slots) (same : ∀ slot, slot ∈ slots ↔ slot ∈ more) :
    Adds first last more := fun key => by
  simp only [adds key, same]

/-- Pending writes over one view are the same if they go to the same keys and amount to the same
store. -/
theorem eq_of_flatten {under : View} {left right : WriteSet}
    (keys : ∀ key, left.contains key = true ↔ right.contains key = true)
    (stores : (View.layer under left).flatten = (View.layer under right).flatten) :
    left = right := by
  refine KeyMap.ext_find? fun key => ?_
  have reads : (left.find? key).getD (under.get key) = (right.find? key).getD (under.get key) := by
    change (View.layer under left).get key = (View.layer under right).get key
    rw [View.get_eq_find?_flatten, View.get_eq_find?_flatten, stores]
  have bound := keys key
  simp only [KeyMap.contains] at bound
  cases here : left.find? key <;> cases there : right.find? key <;> simp_all

end WriteSet

open WriteSet

/-- Merging a layer adds its writes to those of the layer under it. -/
theorem View.exists_commit_eq (under : View) (writes inner : WriteSet) :
    ∃ merged, (View.layer (.layer under writes) inner).commit = .layer under merged ∧
      ∀ key, merged.contains key = true ↔
        writes.contains key = true ∨ inner.contains key = true := by
  have walk : ∀ (entries : List (Bytes × Option Bytes)) (start : WriteSet),
      ∃ merged, entries.foldl write (.layer under start) = .layer under merged ∧
        ∀ key, merged.contains key = true ↔
          start.contains key = true ∨ ∃ entry ∈ entries, entry.1 = key := by
    intro entries
    induction entries with
    | nil => exact fun start => ⟨start, rfl, fun key => by simp⟩
    | cons entry rest ih =>
      intro start
      have written : (View.layer under start).write entry =
          .layer under (start.insert entry.1 entry.2) := by
        obtain ⟨key, change⟩ := entry
        cases change <;> rfl
      obtain ⟨merged, folded, keys⟩ := ih (start.insert entry.1 entry.2)
      refine ⟨merged, ?_, fun key => ?_⟩
      · rw [List.foldl_cons, written, folded]
      · rw [keys, contains_insert, or_assoc]
        simp only [List.mem_cons, exists_eq_or_imp]
  obtain ⟨merged, folded, keys⟩ := walk inner.entries writes
  exact ⟨merged, folded, fun key => by rw [keys, contains_iff inner]⟩

namespace Action

/-- An action which, if it ends in a result, leaves pending writes to some slots besides those that
were pending in its context. -/
def WritesAt (action : Action ε α) (context : Context) (slots : List Slot) : Prop :=
  ∀ under writes value after, context.view = .layer under writes →
    action.perform context = (.ok value, after) →
      ∃ merged, after.view = .layer under merged ∧ Adds writes merged slots

/-- An action that does so in every context. -/
def Writes (action : Action ε α) (slots : List Slot) : Prop :=
  ∀ context, action.WritesAt context slots

variable {slots more : List Slot}

/-! ## Building blocks -/

/-- What leaves the view as it is writes nothing. -/
theorem writes_of_keeps {action : Action ε α}
    (keeps : ∀ context, (action.perform context).2.view = context.view) : action.Writes [] := by
  intro context under writes value after layered ended
  have kept := keeps context
  rw [ended, layered] at kept
  exact ⟨writes, kept, adds_nil writes⟩

/-- What never ends in a result writes whatever is asked for. -/
theorem writes_of_stops {action : Action ε α}
    (stops : ∀ context value after, action.perform context ≠ (.ok value, after)) :
    action.Writes slots :=
  fun context _ _ value after _ ended => absurd ended (stops context value after)

/-- A value by itself writes nothing. -/
theorem writes_pure (value : α) : (pure value : Action ε α).Writes [] :=
  writes_of_keeps fun _ => rfl

/-- A refusal ends in no result. -/
theorem writes_refuse (cause : ε) : (refuse cause : Action ε α).Writes slots :=
  writes_of_stops fun _ _ _ => by rintro ⟨⟩

/-- A fault ends in no result. -/
theorem writes_fail (fault : Fault) : (fail fault : Action ε α).Writes slots :=
  writes_of_stops fun _ _ _ => by rintro ⟨⟩

/-- Emitting an event writes nothing. -/
theorem writes_emit (event : Event) : (emit event : Action ε Unit).Writes [] :=
  writes_of_keeps fun _ => rfl

/-- Reading a key writes nothing. -/
theorem writes_getKey (name : StoreName) (key : Bytes) :
    (getKey name key : Action ε (Option Bytes)).Writes [] :=
  writes_of_keeps fun _ => rfl

/-- Asking for a key writes nothing. -/
theorem writes_hasKey (name : StoreName) (key : Bytes) :
    (hasKey name key : Action ε Bool).Writes [] :=
  writes_of_keeps fun _ => rfl

/-- What writes to a slot writes to that slot. -/
theorem writes_of_writing {action : Action ε Unit} (slot : Slot) (change : Option Bytes)
    (writing : ∀ context : Context, action.perform context =
      (.ok (), { context with view := context.view.write (slot.key, change) })) :
    action.Writes [slot] := by
  intro context under writes value after layered ended
  rw [writing] at ended
  have left : after.view = context.view.write (slot.key, change) :=
    (congrArg (fun final => final.2.view) ended).symm
  refine ⟨writes.insert slot.key change, ?_, adds_insert writes slot change⟩
  rw [left, layered]
  cases change <;> rfl

/-- A value is set in a slot. -/
theorem writes_setKey (slot : Slot) (value : Bytes) :
    (setKey slot.storeName slot.localKey value : Action ε Unit).Writes [slot] :=
  writes_of_writing slot (some value) fun _ => rfl

/-- The record in a slot is deleted. -/
theorem writes_deleteKey (slot : Slot) :
    (deleteKey slot.storeName slot.localKey : Action ε Unit).Writes [slot] :=
  writes_of_writing slot none fun _ => rfl

/-- One action after another writes what both write. -/
theorem Writes.bind {action : Action ε α} {next : α → Action ε β} (first : action.Writes slots)
    (rest : ∀ value, (next value).Writes more) : (action >>= next).Writes (slots ++ more) := by
  intro context under writes value after layered ended
  obtain ⟨given, middle, performed, ended⟩ := exists_of_perform_bind ended
  obtain ⟨between, here, before⟩ := first context under writes given middle layered performed
  obtain ⟨merged, there, later⟩ := rest given middle under between value after here ended
  exact ⟨merged, there, before.append later⟩

/-- What comes after a read writes what it writes with the value that is read. -/
theorem WritesAt.bind_of_read {action : Action ε α} {next : α → Action ε β} {context : Context}
    {value : α} (read : action.perform context = (.ok value, context))
    (rest : (next value).WritesAt context slots) : (action >>= next).WritesAt context slots := by
  intro under writes given after layered ended
  rw [perform_bind, read] at ended
  exact rest under writes given after layered ended

/-- Only the slots matter. -/
theorem WritesAt.congr {action : Action ε α} {context : Context}
    (writes : action.WritesAt context slots) (same : ∀ slot, slot ∈ slots ↔ slot ∈ more) :
    action.WritesAt context more := by
  intro under before value after layered ended
  obtain ⟨merged, left, adds⟩ := writes under before value after layered ended
  exact ⟨merged, left, adds.congr same⟩

/-- Either of two actions that write some slots writes them. -/
theorem Writes.ite {condition : Prop} [Decidable condition] {first second : Action ε α}
    (left : first.Writes slots) (right : second.Writes slots) :
    (if condition then first else second).Writes slots := by
  split
  · exact left
  · exact right

/-- A condition for a refusal in front of more steps. -/
theorem Writes.guard {condition : Prop} [Decidable condition] {cause : ε}
    {next : Unit → Action ε β} (rest : ¬ condition → (next ()).Writes slots) :
    (if condition then refuse cause >>= next else next ()).Writes slots := by
  split
  · exact writes_of_stops fun _ _ _ => by rintro ⟨⟩
  · next unmet => exact rest unmet

/-- A computation that may be refused writes nothing. -/
theorem writes_ofExcept (computed : Except ε α) : (ofExcept computed).Writes [] := by
  cases computed with
  | ok value => exact writes_pure value
  | error cause => exact writes_refuse cause

/-- A computation that may be faulty writes nothing. -/
theorem writes_ofFaulty (computed : Except Fault α) :
    (ofFaulty computed : Action ε α).Writes [] := by
  cases computed with
  | ok value => exact writes_pure value
  | error fault => exact writes_fail fault

/-- Passing refusals on writes nothing more. -/
theorem Writes.mapCause {action : Action ε α} (writes : action.Writes slots) (change : ε → ε') :
    (action.mapCause change).Writes slots := by
  intro context under before value after layered ended
  have performed : action.perform context = (.ok value, after) := by
    simp only [Action.mapCause, perform, ExceptT.run] at ended ⊢
    generalize action context = ran at ended ⊢
    rcases ran with ⟨(cause | fault) | given, left⟩
    · exact absurd (congrArg Prod.fst ended) (by rintro ⟨⟩)
    · exact absurd (congrArg Prod.fst ended) (by rintro ⟨⟩)
    · obtain ⟨values, contexts⟩ := Prod.mk.inj ended
      rw [Except.ok.inj values, contexts]
  exact writes context under before value after layered performed

/-- On a layer of its own an action writes what it writes anyway. -/
theorem WritesAt.atomically {action : Action ε α} {context : Context}
    (writes : action.WritesAt context.branch slots) :
    (Action.atomically action).WritesAt context slots := by
  intro under before value after layered ended
  obtain ⟨inner, performed, rfl⟩ := exists_of_perform_atomically ended
  have branched : context.branch.view = .layer (.layer under before) ∅ := by
    rw [← layered]
    rfl
  obtain ⟨pending, left, adds⟩ := writes _ ∅ value inner branched performed
  obtain ⟨merged, commits, keys⟩ := View.exists_commit_eq under before pending
  refine ⟨merged, ?_, fun key => ?_⟩
  · change inner.view.commit = _
    rw [left, commits]
  · have nothing : ¬ (∅ : WriteSet).contains key = true := by rintro ⟨⟩
    rw [keys, adds key]
    simp only [nothing, Bool.false_eq_true, false_or]

/-- A transparent action that writes some slots leaves the record of every other slot. -/
theorem Writes.get_eq {action : Action ε α} (writes : action.Writes slots)
    (transparent : action.Transparent) {context after : Context} {value : α}
    (performed : action.perform context = (.ok value, after)) {slot : Slot}
    (apart : slot ∉ slots) : after.view.get slot.key = context.view.get slot.key := by
  -- Over a store of its own with nothing pending, what is written is told from what is pending.
  obtain ⟨alone, fresh, same⟩ : ∃ alone : Context,
      alone.view = .layer (.base context.view.flatten) ∅ ∧ alone.flat = context.flat :=
    ⟨{ context with view := (View.base context.view.flatten).branch }, rfl, rfl⟩
  have flat := transparent.flat context
  have flatAlone := transparent.flat alone
  rw [performed] at flat
  rw [same, flat] at flatAlone
  obtain ⟨answer, inner, performedAlone⟩ : ∃ answer inner,
      action.perform alone = (answer, inner) := ⟨_, _, rfl⟩
  rw [performedAlone] at flatAlone
  obtain ⟨answers, contexts⟩ := Prod.mk.inj flatAlone
  rw [← show Except.ok value = answer from answers] at performedAlone
  have stores : after.view.flatten = inner.view.flatten :=
    congrArg (fun context => context.view.flatten) contexts
  obtain ⟨merged, layered, adds⟩ :=
    writes alone (.base context.view.flatten) ∅ value inner fresh performedAlone
  have untouched : merged.find? slot.key = none := by
    by_contra pending
    have bound : merged.contains slot.key = true := Option.isSome_iff_ne_none.mpr pending
    rcases (adds slot.key).mp bound with before | ⟨other, member, named⟩
    · contradiction
    · exact apart (Slot.key_injective named ▸ member)
  rw [View.get_eq_find?_flatten, stores, layered, ← View.get_eq_find?_flatten, View.get, untouched]
  exact (View.get_eq_find?_flatten context.view slot.key).symm

end Action

open TokenLedger.Action

/-! ## Parameters -/

namespace Subspace

/-- Checking a key writes nothing. -/
theorem writes_requireKey (space : Subspace) (key : String) :
    (space.requireKey key : Action ε Unit).Writes [] :=
  (writes_pure ()).ite (writes_fail _)

/-- Reading a parameter writes nothing. -/
theorem writes_get [JsonForm α] (space : Subspace) (key : String) :
    (space.get key : Action ε α).Writes [] := by
  have looking : (space.get? key : Action ε (Option α)).Writes [] := by
    refine (space.writes_requireKey key).bind fun _ => (writes_getKey _ _).bind fun stored => ?_
    split
    · exact writes_pure none
    split
    · exact writes_pure _
    · exact writes_fail _
  refine looking.bind fun found => ?_
  split
  · exact writes_pure _
  · exact writes_fail _

end Subspace

/-! ## Supply -/

namespace Supply

/-- Reading coins writes nothing. -/
theorem writes_readCoins (key : Bytes) : (readCoins key : Action ε Coins).Writes [] := by
  refine (writes_getKey .supply key).bind fun record => ?_
  split
  · exact writes_pure _
  · exact writes_ofFaulty _

/-- Adding up writes nothing. -/
theorem writes_sum (held added : Coins) : (sum held added).Writes [] := by
  unfold sum
  split
  · exact writes_pure _
  · exact writes_refuse _

/-- What an account holds is recorded in its slot. -/
theorem writes_setBalance (address : Address) (coins : Coins) :
    (setBalance address coins : Action ε Unit).Writes [.balance address] :=
  (writes_deleteKey (.balance address)).ite (writes_setKey (.balance address) _)

/-- A credit writes the balance. -/
theorem writes_credit (address : Address) (amount : Coins) :
    (credit address amount).Writes [.balance address] :=
  (writes_readCoins _).bind fun _ => (writes_sum _ _).bind fun _ => writes_setBalance _ _

/-- A debit writes the balance. -/
theorem writes_debit (address : Address) (amount : Coins) :
    (debit address amount).Writes [.balance address] := by
  refine (writes_readCoins _).bind fun held => ?_
  split
  · exact writes_setBalance _ _
  · exact writes_refuse _

/-- An inflation writes the total supply. -/
theorem writes_inflate (amount : Coins) : (inflate amount).Writes [.total] :=
  (writes_readCoins _).bind fun _ => (writes_sum _ _).bind fun _ => writes_setKey .total _

/-- Checking a coin set writes nothing. -/
theorem writes_requireValid (amount : Coins) : (requireValid amount).Writes [] :=
  (writes_pure ()).ite (writes_refuse _)

/-- Checking a module writes nothing. -/
theorem writes_requireModule (modules : ModuleAccounts) (name : String) :
    (requireModule modules name : Action ε Unit).Writes [] := by
  unfold requireModule
  split
  · exact writes_pure ()
  · exact writes_fail _

/-- A transfer writes both balances. -/
theorem writes_transfer (sender recipient : Address) (amount : Coins) :
    (transfer sender recipient amount).Writes [.balance sender, .balance recipient] :=
  (writes_requireValid amount).bind fun _ =>
    (writes_debit sender amount).bind fun _ => writes_credit recipient amount

/-- So does one to a module. -/
theorem writes_sendToModule (modules : ModuleAccounts) (sender : Address) (recipient : String)
    (amount : Coins) : (sendToModule modules sender recipient amount).Writes
      [.balance sender, .balance (Address.ofModule recipient)] :=
  (writes_requireModule modules recipient).bind fun _ => writes_transfer _ _ _

/-- So does one from a module. -/
theorem writes_sendFromModule (modules : ModuleAccounts) (sender : String) (recipient : Address)
    (amount : Coins) : (sendFromModule modules sender recipient amount).Writes
      [.balance (Address.ofModule sender), .balance recipient] :=
  (writes_requireModule modules sender).bind fun _ => writes_transfer _ _ _

/-- Creating coins writes the balance of the module and the total supply. -/
theorem writes_mintToModule (modules : ModuleAccounts) (name : String) (amount : Coins) :
    (mintToModule modules name amount).Writes [.balance (Address.ofModule name), .total] := by
  refine (writes_requireModule modules name).bind fun _ => .ite ?_ (writes_fail _)
  exact (writes_requireValid amount).bind fun _ =>
    (writes_credit _ amount).bind fun _ => writes_inflate amount

end Supply

/-! ## Tokens -/

namespace TokenBook

/-- A new token is stored in the slot of its symbol. -/
theorem writes_create (token : Token) :
    (create token : Action ε Unit).Writes [.token token.symbol] :=
  (writes_hasKey _ _).bind fun _ => (writes_fail _).ite (writes_setKey (.token token.symbol) _)

/-- So is one in place of another. -/
theorem writes_replace (token : Token) :
    (replace token : Action ε Unit).Writes [.token token.symbol] :=
  (writes_hasKey _ _).bind fun _ => (writes_setKey (.token token.symbol) _).ite (writes_fail _)

end TokenBook

/-! ## Messages -/

/-- The symbol under which a message finds or stores its token. -/
def Message.tokenSymbol : Message → String
  | .issue msg => msg.storedSymbol
  | .mint msg => msg.symbol

/-- The slots that a message writes if it is applied. -/
def Message.slots (message : Message) : List Slot :=
  [.token message.tokenSymbol, .balance message.signer,
    .balance (Address.ofModule ModuleAccounts.feeCollector),
    .balance (Address.ofModule ModuleAccounts.asset), .total]

namespace Issuance

variable {ledger : Ledger} {params : Params}

/-- Creating units writes the balances of the token module and of the owner and the total supply. -/
theorem writes_createUnits (modules : ModuleAccounts) (token : Token) (units : Int64)
    (key : String) : (createUnits modules token units key).Writes
      [.balance (Address.ofModule ModuleAccounts.asset), .total,
        .balance (Address.ofModule ModuleAccounts.asset), .balance token.owner] :=
  (writes_ofExcept _).bind fun _ =>
    ((Supply.writes_mintToModule _ _ _).mapCause _).bind fun _ =>
      ((Supply.writes_sendFromModule _ _ _ _).mapCause _).bind fun _ => writes_emit _

/-- A fee writes the balances of its payer and of its collector. -/
theorem writes_chargeFee (modules : ModuleAccounts) (sender : Address) (fee : Coins) :
    (supplying (Supply.sendToModule modules sender ModuleAccounts.feeCollector fee)).Writes
      [.balance sender, .balance (Address.ofModule ModuleAccounts.feeCollector)] :=
  (Supply.writes_sendToModule _ _ _ _).mapCause _

/-- Issuing writes the token, the balances and the total supply. -/
theorem writes_issueSteps (modules : ModuleAccounts) (regime : Regime) (msg : IssueMsg) :
    (issueSteps modules regime msg).Writes
      ([.token msg.storedSymbol] ++ ([.balance msg.sender,
        .balance (Address.ofModule ModuleAccounts.feeCollector)] ++
        [.balance (Address.ofModule ModuleAccounts.asset), .total,
          .balance (Address.ofModule ModuleAccounts.asset), .balance msg.sender])) := by
  refine (Subspace.writes_get _ _).bind fun maxDecimal => .guard fun _ => ?_
  refine (writes_hasKey _ _).bind fun taken => .guard fun _ => ?_
  -- The checks of name, symbol, description and supply.
  refine (writes_ofExcept _).bind fun _ => (writes_ofExcept _).bind fun _ => ?_
  refine (writes_ofExcept _).bind fun _ => (writes_ofExcept _).bind fun _ => ?_
  refine (TokenBook.writes_create msg.token).bind fun _ => ?_
  refine (Subspace.writes_get _ _).bind fun fee => ?_
  exact (writes_chargeFee _ _ _).bind fun _ => writes_createUnits _ msg.token _ _

/-- Growing a token writes the token, the balances and the total supply. -/
theorem writes_growUnits (modules : ModuleAccounts) {token : Token} {symbol : String}
    {owner : Address} (named : token.symbol = symbol) (owned : token.owner = owner)
    (amount : Int64) (key : String) :
    (TokenBook.replace token >>= fun _ => createUnits modules token amount key).Writes
      ([.token symbol] ++ [.balance (Address.ofModule ModuleAccounts.asset), .total,
        .balance (Address.ofModule ModuleAccounts.asset), .balance owner]) := by
  subst named owned
  exact (TokenBook.writes_replace token).bind fun _ => writes_createUnits modules token amount key

/-- Minting writes the token, the balances and the total supply. -/
theorem writesAt_mintSteps (modules : ModuleAccounts) (registered : ledger.Registered)
    (msg : MintMsg) {context : Context} (holds : context.view.flatten.Holds ledger) :
    (mintSteps modules msg).WritesAt context
      ([.balance msg.sender, .balance (Address.ofModule ModuleAccounts.feeCollector)] ++
        ([.token msg.symbol] ++
          [.balance (Address.ofModule ModuleAccounts.asset), .total,
            .balance (Address.ofModule ModuleAccounts.asset), .balance msg.sender])) := by
  refine WritesAt.bind_of_read ((registered.holdsTokens holds).perform_find? msg.symbol) ?_
  split
  · exact writes_refuse _ context
  next token found =>
  obtain ⟨named, _⟩ := registered msg.symbol token found
  refine Writes.guard (fun _ => .guard fun notForeign => ?_) context
  have owned : token.owner = msg.sender := by simpa using notForeign
  refine (writes_ofFaulty _).bind fun possible => .guard fun _ => ?_
  refine (Subspace.writes_get _ _).bind fun fee => (writes_chargeFee _ _ _).bind fun _ => ?_
  refine (writes_ofFaulty _).bind fun totalSupply => ?_
  have same : ({ token with totalSupply } : Token).symbol = msg.symbol := named
  have mine : ({ token with totalSupply } : Token).owner = msg.sender := owned
  exact writes_growUnits modules same mine msg.amount mintedKey

/-- The steps of a message write its slots. -/
theorem writesAt_steps (modules : ModuleAccounts) (regime : Regime)
    (registered : ledger.Registered) (message : Message) {context : Context}
    (holds : context.view.flatten.Holds ledger) :
    (steps modules regime message).WritesAt context message.slots := by
  cases message with
  | issue msg =>
    refine (writes_issueSteps modules regime msg context).congr fun slot => ?_
    simp only [Message.slots, Message.tokenSymbol, Message.signer, List.mem_append, List.mem_cons,
      List.not_mem_nil]
    generalize Address.ofModule ModuleAccounts.asset = bank
    generalize Address.ofModule ModuleAccounts.feeCollector = collector
    tauto
  | mint msg =>
    refine (writesAt_mintSteps modules registered msg holds).congr fun slot => ?_
    simp only [Message.slots, Message.tokenSymbol, Message.signer, List.mem_append, List.mem_cons,
      List.not_mem_nil]
    generalize Address.ofModule ModuleAccounts.asset = bank
    generalize Address.ofModule ModuleAccounts.feeCollector = collector
    tauto

/-- A message that is applied writes its slots. -/
theorem writesAt_handle (modules : ModuleAccounts) (regime : Regime)
    (registered : ledger.Registered) (message : Message) {context : Context}
    (holds : context.view.flatten.Holds ledger) :
    (handle modules regime message).WritesAt context message.slots :=
  WritesAt.atomically (writesAt_steps modules regime registered message holds)

end Issuance

end TokenLedger
