import TokenLedger.Proofs.Ledger.Issuance
import TokenLedger.Proofs.Ledger.Migrations

/-!
# What the work on an open block does

Over an open block that holds a ledger in use, hooks and messages run without faults. Hooks leave
the ledger with the parameters of their migrations. A message is either applied, with the effect of
its transition, or rejected for the first check that fails, and a rejected one leaves the chain as
it was, pending writes included.
-/

namespace TokenLedger

open TokenLedger.Action

/-- The store through the writes of an open block. -/
def OpenBlock.view (block : OpenBlock) (committed : Store) : View :=
  .layer (.base committed) block.writes

namespace Issuance

variable {ledger : Ledger} {params : Params} {regime : Regime}

/-- What a message that is applied leaves of a ledger. -/
inductive Applied (ledger : Ledger) (params : Params) (regime : Regime) : Message → Ledger → Prop
  /-- A token is issued. -/
  | issue {msg : IssueMsg} {after : Ledger} (issued : Issued ledger params regime msg after) :
    Applied ledger params regime (.issue msg) after
  /-- Units of a token are minted. -/
  | mint {msg : MintMsg} {token : Token} {after : Ledger}
    (minted : Minted ledger params msg token after) :
    Applied ledger params regime (.mint msg) after

/-- Why a message is refused by its transition. -/
inductive Refused (ledger : Ledger) (params : Params) (regime : Regime) :
    Message → AssetError → Prop
  /-- The token is not issued. -/
  | issue {msg : IssueMsg} {cause : AssetError}
    (reason : IssueRefused ledger params regime msg cause) :
    Refused ledger params regime (.issue msg) cause
  /-- No units are minted. -/
  | mint {msg : MintMsg} {cause : AssetError} (reason : MintRefused ledger params msg cause) :
    Refused ledger params regime (.mint msg) cause

/-- The event of a message that is applied. -/
def createdEvent : Message → Event
  | .issue msg => mintedEvent issuedKey (unitsCoin msg.storedSymbol msg.totalSupply)
  | .mint msg => mintedEvent mintedKey (unitsCoin msg.symbol msg.amount)

/-- A message is applied to a ledger in use, or refused by its transition. -/
theorem runs_handle (sound : ledger.Sound params) (regime : Regime) (message : Message) :
    (handle Chain.modules regime message).Runs ledger
      (fun _ after emitted => Applied ledger params regime message after ∧
        emitted = [createdEvent message])
      (Refused ledger params regime message) := by
  apply Runs.atomically
  cases message with
  | issue msg =>
    refine (runs_issueSteps sound regime msg).mono ?_ fun _ reason => .issue reason
    rintro _ after _ ⟨issued, rfl⟩
    exact ⟨.issue issued, rfl⟩
  | mint msg =>
    refine (runs_mintSteps sound msg).mono ?_ fun _ reason => .mint reason
    rintro _ after _ ⟨⟨token, minted⟩, rfl⟩
    exact ⟨.mint minted, rfl⟩

/-- A message that passed its own checks leaves a ledger in use. -/
theorem Applied.sound {message : Message} {after : Ledger}
    (applied : Applied ledger params regime message after) (sound : ledger.Sound params)
    (passed : message.checkBasic regime = .ok ()) : after.Sound params := by
  cases applied with
  | issue issued => exact issued.sound sound (Token.storable_of_checkBasic passed)
  | mint minted => exact minted.sound sound

end Issuance

namespace Chain

variable {chain : Chain} {block : OpenBlock} {ledger : Ledger} {params : Params}

/-- A chain with an open block that holds a ledger. -/
structure Processes (chain : Chain) (block : OpenBlock) (ledger : Ledger) : Prop where
  /-- The block is open. -/
  isOpen : chain.block = some block
  /-- Through its writes the store holds the ledger. -/
  holds : (block.view chain.committed).flatten.Holds ledger

/-- The chain with other pending writes in its open block. -/
def withWrites (chain : Chain) (block : OpenBlock) (writes : WriteSet) : Chain :=
  { chain with block := some { block with writes } }

/-- Work on the open block changes its writes and nothing else. -/
theorem exists_inBlock {α : Type} (chain : Chain) (action : Action Empty α) :
    ∃ writes, (chain.inBlock action).2 =
      { chain with block := chain.block.map fun block => { block with writes } } := by
  unfold inBlock
  cases isOpen : chain.block with
  | none =>
    have unchanged : chain = { chain with block := none } := by rw [← isOpen]
    exact ⟨∅, unchanged⟩
  | some block =>
    simp only
    split
    · exact ⟨_, rfl⟩
    · exact ⟨_, rfl⟩
    · next cause _ _ => exact nomatch cause

/-- Work on the open block that ends in a result was performed over its writes. -/
theorem exists_perform_of_inBlock {α : Type} {action : Action Empty α} {value : α}
    {events : List Event} {next : Chain} (isOpen : chain.block = some block)
    (ran : chain.inBlock action = (.ok (value, events), next)) :
    ∃ after, action.perform ⟨block.view chain.committed, block.height, []⟩ = (.ok value, after) ∧
      after.events = events ∧ next = chain.withWrites block after.view.pending := by
  unfold inBlock at ran
  rw [isOpen] at ran
  simp only at ran
  split at ran
  · next given after performed =>
    injection ran with answers chains
    obtain ⟨rfl, emitted⟩ := Prod.mk.inj (Except.ok.inj answers)
    exact ⟨after, performed, emitted, chains.symm⟩
  · exact absurd (congrArg Prod.fst ran) (by rintro ⟨⟩)
  · next cause _ _ => exact cause.elim

/-- An action without refusals that runs over the open block leaves what it leaves of the ledger. -/
theorem inBlock_of_runs {α : Type} (processes : chain.Processes block ledger)
    {action : Action Empty α} {done : α → Ledger → List Event → Prop} {refused : Empty → Prop}
    (runs : action.Runs ledger done refused) :
    ∃ value after emitted writes, done value after emitted ∧
      chain.inBlock action = (.ok (value, emitted), chain.withWrites block writes) ∧
      (chain.withWrites block writes).Processes { block with writes } after := by
  have ended := runs (.base chain.committed) block.writes block.height [] processes.holds
  unfold inBlock
  rw [processes.isOpen]
  simp only
  generalize action.perform _ = final at ended ⊢
  cases ended with
  | @refused cause context reason => exact nomatch cause
  | @done value after emitted writes holds result =>
    exact ⟨value, after, emitted, writes, result, rfl, rfl, holds⟩

/-- An action that reads the committed store ends as described of the ledger in it. -/
theorem read_of_runs {ε α : Type} (holds : chain.committed.Holds ledger) {action : Action ε α}
    {done : α → Ledger → List Event → Prop} {refused : ε → Prop}
    (runs : action.Runs ledger done refused) :
    (∃ value after emitted, chain.read action = .ok value ∧ done value after emitted) ∨
      ∃ cause, chain.read action = .error (.refused cause) ∧ refused cause := by
  have ended := runs (.base chain.committed) ∅ chain.lastHeight [] holds
  unfold read
  simp only [View.branch]
  generalize action.perform _ = final at ended ⊢
  cases ended with
  | refused reason => exact .inr ⟨_, rfl, reason⟩
  | done _ _ result => exact .inl ⟨_, _, _, rfl, result⟩

/-- An action that yields a value reads it from the committed store. -/
theorem read_of_yields {ε α : Type} (holds : chain.committed.Holds ledger) {action : Action ε α}
    {value : α} {after : Ledger} (yields : action.Yields ledger value after) :
    chain.read action = .ok value := by
  rcases read_of_runs holds yields with ⟨_, _, _, answered, rfl, _⟩ | ⟨_, _, never⟩
  · exact answered
  · exact never.elim

/-- A read that runs into a fault ends with it. -/
theorem read_of_faults {ε α : Type} (holds : chain.committed.Holds ledger) {action : Action ε α}
    {fault : Fault} (faults : action.Faults ledger fault) :
    chain.read action = .error (.faulted fault) := by
  obtain ⟨_, ended⟩ := faults (.base chain.committed) ∅ chain.lastHeight [] holds
  exact congrArg Prod.fst ended

/-- The hooks of two phases, one after the other. -/
def phaseHooks (registry : Registry Migration) (first last : BlockPhase) :
    Action Empty (Nat × Nat) := do
  let first ← registry.dispatch Migration.carryOut first
  let last ← registry.dispatch Migration.carryOut last
  return (first, last)

/-- Running the hooks of two phases is work on the open block. -/
theorem runPhases_eq (chain : Chain) (first last : BlockPhase) :
    chain.runPhases first last =
      ((chain.inBlock (phaseHooks chain.registry first last)).1.map fun (counts, events) =>
        ⟨counts.1, counts.2, events⟩,
        (chain.inBlock (phaseHooks chain.registry first last)).2) := by
  unfold runPhases phaseHooks
  simp only
  generalize chain.inBlock _ = ran
  rcases ran with ⟨stop | ⟨⟨_, _⟩, _⟩, _⟩ <;> rfl

/-- Delivering a message is work on the open block. -/
theorem deliver_eq (chain : Chain) (message : Message) :
    chain.deliver message =
      ((chain.inBlock (deliverAction chain.registry message)).1.map Prod.fst,
        (chain.inBlock (deliverAction chain.registry message)).2) := by
  unfold deliver
  rcases chain.inBlock (deliverAction chain.registry message) with ⟨stop | ⟨_, _⟩, _⟩ <;> rfl

/-- What is made of an answer is made of a result if it is one. -/
theorem exists_of_map_eq_ok {ε α β : Type} {worked : Except ε α × Chain} {make : α → β} {result : β}
    {next : Chain} (made : (worked.1.map make, worked.2) = (.ok result, next)) :
    ∃ value, worked = (.ok value, next) ∧ make value = result := by
  obtain ⟨answer, left⟩ := worked
  injection made with answers chains
  subst chains
  cases answer with
  | error stop => exact absurd answers (by rintro ⟨⟩)
  | ok value => exact ⟨value, rfl, Except.ok.inj answers⟩

/-- The hooks of two phases run over the open block, and emit nothing. -/
theorem exists_runPhases (processes : chain.Processes block ledger)
    (configured : ledger.Configured params) (first last : BlockPhase) :
    ∃ writes, chain.runPhases first last =
        (.ok ⟨(chain.registry.hooksDue first).length, (chain.registry.hooksDue last).length, []⟩,
          chain.withWrites block writes) ∧
      (chain.withWrites block writes).Processes { block with writes }
        (ledger.setParams (Migration.applyAll params
          (chain.registry.hooksDue first ++ chain.registry.hooksDue last))) := by
  have early := Migration.yields_dispatch (ε := Empty) configured chain.registry first
  have late := Migration.yields_dispatch (ε := Empty) (ledger.configured_setParams
    (Migration.applyAll params (chain.registry.hooksDue first))) chain.registry last
  have both : (do
      let first ← chain.registry.dispatch Migration.carryOut first
      let last ← chain.registry.dispatch Migration.carryOut last
      return (first, last) : Action Empty (Nat × Nat)).Yields ledger
        ((chain.registry.hooksDue first).length, (chain.registry.hooksDue last).length)
        (ledger.setParams (Migration.applyAll params
          (chain.registry.hooksDue first ++ chain.registry.hooksDue last))) := by
    rw [Migration.applyAll_append]
    exact early.then (late.then (yields_pure _ _))
  obtain ⟨_, after, _, writes, ⟨rfl, rfl, rfl⟩, ran, left⟩ := inBlock_of_runs processes both
  refine ⟨writes, ?_, left⟩
  simp only [runPhases, ran]

/-! ## Messages -/

/-- What a message has to pass before it is applied: the gate of its kind, and its own checks. -/
def admission (registry : Registry Migration) (message : Message) : Except AssetError Unit :=
  if registry.acceptsMessage message.kind then message.checkBasic (Regime.ofRegistry registry)
  else .error (.supply (.messageNotSupported message.kind registry.height))

/-- A message that is admitted passed its own checks. -/
theorem checkBasic_of_admission {registry : Registry Migration} {message : Message}
    (admitted : admission registry message = .ok ()) :
    message.checkBasic (Regime.ofRegistry registry) = .ok () := by
  unfold admission at admitted
  split at admitted
  · exact admitted
  · contradiction

/-- A message that is not admitted is rejected, and one that is admitted ends as its transition
does. -/
theorem perform_deliverAction (registry : Registry Migration) (message : Message)
    (context : Context) :
    (deliverAction registry message).perform context =
      match admission registry message with
      | .error cause => (.ok (.rejected cause), context)
      | .ok () =>
        match (Issuance.handle modules (Regime.ofRegistry registry) message).perform context with
        | (.ok (), after) => (.ok (.accepted (after.events.drop context.events.length)), after)
        | (.error (.refused cause), after) => (.ok (.rejected cause), after)
        | (.error (.faulted fault), after) => (.error (.faulted fault), after) := by
  unfold deliverAction admission
  cases registry.acceptsMessage message.kind with
  | false => rfl
  | true =>
    simp only [Bool.not_true, Bool.false_eq_true, if_true, if_false]
    rcases message.checkBasic (Regime.ofRegistry registry) with cause | ⟨⟨⟩⟩
    · rfl
    · -- Counting the events so far neither fails nor changes anything.
      change ((answering (Issuance.handle modules (Regime.ofRegistry registry) message)) >>=
        fun _ => _).perform context = _
      rw [perform_bind]
      unfold answering
      simp only [perform, ExceptT.run]
      rcases Issuance.handle modules (Regime.ofRegistry registry) message context with
        ⟨(cause | fault) | ⟨⟨⟩⟩, after⟩ <;> rfl

/-- The code of a cause is that of no message that was applied. -/
theorem code_rejected_ne_zero (cause : AssetError) : (TxResult.rejected cause).code ≠ 0 :=
  cause.code_ne_zero

/-- The code of a message that was rejected tells so. -/
theorem isAccepted_rejected (cause : AssetError) : (TxResult.rejected cause).isAccepted = false :=
  decide_eq_false (code_rejected_ne_zero cause)

/-- A message that is accepted was handled, and is answered with the events of its handling. -/
theorem handled_of_accepted {registry : Registry Migration} {message : Message}
    {context after : Context} {result : TxResult}
    (delivered : (deliverAction registry message).perform context = (.ok result, after))
    (success : result.isAccepted = true) :
    (Issuance.handle modules (Regime.ofRegistry registry) message).perform context =
      (.ok (), after) ∧ result = .accepted (after.events.drop context.events.length) := by
  have notRejected (cause : AssetError) : TxResult.rejected cause ≠ result := by
    rintro rfl
    rw [isAccepted_rejected] at success
    contradiction
  rw [perform_deliverAction] at delivered
  split at delivered
  · next cause _ => exact absurd (Except.ok.inj (congrArg Prod.fst delivered)) (notRejected cause)
  split at delivered
  · next left handled =>
    injection delivered with results contexts
    subst contexts
    exact ⟨handled, (Except.ok.inj results).symm⟩
  · next cause _ _ =>
    exact absurd (Except.ok.inj (congrArg Prod.fst delivered)) (notRejected cause)
  · exact absurd (congrArg Prod.fst delivered) (by rintro ⟨⟩)

/-- Why a message is rejected where the open block holds a ledger. -/
inductive Rejected (registry : Registry Migration) (ledger : Ledger) (params : Params)
    (message : Message) (cause : AssetError) : Prop
  /-- It is not admitted. -/
  | admission (broken : admission registry message = .error cause)
  /-- Its transition refuses it. -/
  | transition (admitted : admission registry message = .ok ())
    (reason : Issuance.Refused ledger params (Regime.ofRegistry registry) message cause)

/-- A message is rejected, which leaves the chain as it was, or it is applied. -/
theorem deliver_cases (processes : chain.Processes block ledger) (sound : ledger.Sound params)
    (message : Message) :
    (∃ cause, Rejected chain.registry ledger params message cause ∧
      chain.deliver message = (.ok (.rejected cause), chain)) ∨
    ∃ after writes, admission chain.registry message = .ok () ∧
      Issuance.Applied ledger params (Regime.ofRegistry chain.registry) message after ∧
      chain.deliver message =
        (.ok (.accepted [Issuance.createdEvent message]), chain.withWrites block writes) ∧
      (chain.withWrites block writes).Processes { block with writes } after := by
  have unchanged : chain.withWrites block block.writes = chain := by
    rw [withWrites, ← processes.isOpen]
  have performed := perform_deliverAction chain.registry message
    ⟨.layer (.base chain.committed) block.writes, block.height, []⟩
  unfold deliver inBlock
  rw [processes.isOpen]
  simp only
  obtain ⟨verdict, admitted⟩ : ∃ verdict, admission chain.registry message = verdict := ⟨_, rfl⟩
  cases verdict with
  | error cause =>
    simp only [admitted] at performed
    simp only [performed]
    exact .inl ⟨cause, .admission admitted, congrArg (Prod.mk _) unchanged⟩
  | ok passed =>
    have ended := Issuance.runs_handle sound (Regime.ofRegistry chain.registry) message
      (.base chain.committed) block.writes block.height [] processes.holds
    simp only [admitted] at performed
    generalize handled :
      (Issuance.handle modules (Regime.ofRegistry chain.registry) message).perform
        ⟨.layer (.base chain.committed) block.writes, block.height, []⟩ = final at ended performed
    cases ended with
    | @refused cause context reason =>
      have same := atomically_stopped handled
      subst same
      simp only [performed]
      exact .inl ⟨cause, .transition admitted reason, congrArg (Prod.mk _) unchanged⟩
    | @done value after emitted writes holds result =>
      obtain ⟨applied, rfl⟩ := result
      simp only [performed]
      exact .inr ⟨after, writes, admitted, applied, rfl, rfl, holds⟩

end Chain

end TokenLedger
