import TokenLedger.Proofs.Chain.Conservation

/-!
# What a call does

The store of a chain at a point of a run is the committed one through the writes of the open block.
It holds a ledger: the empty one before the genesis document, and a ledger in use from there on. A
call takes a step from that ledger to another one, and the steps list everything that a call can
answer and change, with the conditions under which it does. What a run does follows from its steps.
-/

namespace TokenLedger.Chain

variable {chain : Chain} {block : OpenBlock} {ledger : Ledger} {params : Params}

/-- What a call of the life cycle answers. -/
inductive Reply where
  /-- To loading a genesis document or merging a block. -/
  | committed (answer : Except (Stop ChainError) CommitResult)
  /-- To the begin or the end of a block. -/
  | ran (answer : Except (Stop ChainError) HookRun)
  /-- To a message. -/
  | delivered (answer : Except (Stop ChainError) TxResult)

/-- The fault in an answer, if it is one. -/
def faultOf? {ε α : Type} : Except (Stop ε) α → Option Fault
  | .error (.faulted fault) => some fault
  | .error (.refused _) | .ok _ => none

/-- The fault that a call ran into, if it did. -/
def Reply.fault? : Reply → Option Fault
  | .committed answer => faultOf? answer
  | .ran answer => faultOf? answer
  | .delivered answer => faultOf? answer

/-- The answer to a call. -/
def reply (chain : Chain) : Call → Reply
  | .initChain genesis => .committed (chain.initChain genesis).1
  | .beginBlock height => .ran (chain.beginBlock height).1
  | .deliver message => .delivered (chain.deliver message).1
  | .endBlock => .ran chain.endBlock.1
  | .commit => .committed chain.commit.1

namespace Call

/-- The answer that refuses a call. -/
def refusal (cause : ChainError) : Call → Reply
  | .initChain _ | .commit => .committed (.error (.refused cause))
  | .beginBlock _ | .endBlock => .ran (.error (.refused cause))
  | .deliver _ => .delivered (.error (.refused cause))

/-- Whether a call works on the open block. -/
def needsBlock : Call → Bool
  | .initChain _ | .beginBlock _ => false
  | .deliver _ | .endBlock | .commit => true

end Call

/-- Why a call is refused without looking at its message or document. -/
inductive Refuses (chain : Chain) : Call → ChainError → Prop
  /-- A genesis document was loaded before. -/
  | loaded {genesis : Genesis} (initialized : chain.initialized = true) :
    Refuses chain (.initChain genesis) .alreadyInitialized
  /-- No genesis document was loaded. -/
  | notLoaded {height : Height} (fresh : chain.initialized = false) :
    Refuses chain (.beginBlock height) .notInitialized
  /-- The chain has halted. -/
  | halted {height : Height} (initialized : chain.initialized = true)
    (stopped : chain.halted = true) : Refuses chain (.beginBlock height) (.halted chain.lastHeight)
  /-- A block is open. -/
  | inProgress {height : Height} {block : OpenBlock} (initialized : chain.initialized = true)
    (running : chain.halted = false) (isOpen : chain.block = some block) :
    Refuses chain (.beginBlock height) (.blockInProgress block.height)
  /-- The height is not the next one. -/
  | height {height : Height} (initialized : chain.initialized = true)
    (running : chain.halted = false) (closed : chain.block = none)
    (apart : chain.lastHeight.toNat + 1 ≠ height.toNat) :
    Refuses chain (.beginBlock height) (.unexpectedHeight chain.lastHeight height)
  /-- No block is open. -/
  | noBlock {call : Call} (needed : call.needsBlock = true) (closed : chain.block = none) :
    Refuses chain call .noOpenBlock

/-! ## The latest store -/

/-- The store at a point of a run: through the writes of the open block, if there is one. -/
def latest (chain : Chain) : View :=
  match chain.block with
  | none => .base chain.committed
  | some block => block.view chain.committed

/-- With no block open the latest store is the committed one. -/
theorem latest_of_closed (closed : chain.block = none) : chain.latest = .base chain.committed := by
  rw [latest, closed]

/-- With a block open the latest store is seen through its writes. -/
theorem latest_of_open (isOpen : chain.block = some block) :
    chain.latest = block.view chain.committed := by
  rw [latest, isOpen]

/-- The latest store is one of the views of a chain. -/
theorem shows_latest (chain : Chain) : chain.Shows chain.latest := by
  cases isOpen : chain.block with
  | none =>
    rw [latest_of_closed isOpen]
    exact .committed
  | some block =>
    rw [latest_of_open isOpen]
    exact .pending isOpen

/-- A chain whose latest store holds a ledger. -/
structure Carries (chain : Chain) (ledger : Ledger) : Prop where
  /-- The store holds the ledger. -/
  holds : chain.latest.flatten.Holds ledger
  /-- Before the genesis document nothing is stored, and no block is open. -/
  unloaded : chain.initialized = false →
    ledger = Ledger.empty ∧ chain.committed = ∅ ∧ chain.block = none
  /-- From there on the ledger is in use. -/
  inUse : chain.initialized = true → ∃ params, ledger.Sound params

/-- A sound chain carries a ledger. -/
theorem Sound.exists_carries (sound : chain.Sound) : ∃ ledger, chain.Carries ledger := by
  cases isOpen : chain.block with
  | some block =>
    obtain ⟨ledger, params, processes, ledgerSound⟩ := sound.pending block isOpen
    refine ⟨ledger, ?_, fun unloaded => ?_, fun _ => ⟨params, ledgerSound⟩⟩
    · rw [latest_of_open isOpen]
      exact processes.holds
    · rw [(sound.unloaded unloaded).2] at isOpen
      contradiction
  | none =>
    have latest := latest_of_closed isOpen
    cases initialized : chain.initialized with
    | false =>
      obtain ⟨empty, _⟩ := sound.unloaded initialized
      refine ⟨Ledger.empty, ?_, fun _ => ⟨rfl, empty, isOpen⟩, fun loaded => ?_⟩
      · rw [latest, empty]
        exact Store.holds_empty
      · rw [initialized] at loaded
        contradiction
    | true =>
      obtain ⟨ledger, params, holds, ledgerSound⟩ := sound.committed initialized
      refine ⟨ledger, ?_, fun unloaded => ?_, fun _ => ⟨params, ledgerSound⟩⟩
      · rw [latest]
        exact holds
      · rw [initialized] at unloaded
        contradiction

/-- An open block of a chain holds the ledger that the chain carries. -/
theorem Carries.processes (carries : chain.Carries ledger) (isOpen : chain.block = some block) :
    chain.Processes block ledger where
  isOpen := isOpen
  holds := by
    have holds := carries.holds
    rwa [latest_of_open isOpen] at holds

/-- With a block open the ledger is in use. -/
theorem Carries.exists_sound (carries : chain.Carries ledger) (isOpen : chain.block = some block) :
    chain.initialized = true ∧ ∃ params, ledger.Sound params := by
  cases initialized : chain.initialized with
  | true => exact ⟨rfl, carries.inUse initialized⟩
  | false =>
    rw [(carries.unloaded initialized).2.2] at isOpen
    contradiction

/-- Tokens stand under their symbols in the ledger that a chain carries. -/
theorem Carries.registered (carries : chain.Carries ledger) : ledger.Registered := by
  cases initialized : chain.initialized with
  | true =>
    obtain ⟨_, sound⟩ := carries.inUse initialized
    exact sound.registered
  | false =>
    obtain ⟨rfl, _⟩ := carries.unloaded initialized
    exact fun _ _ found => nomatch found

/-- A chain with an open block carries the ledger in use that the block holds. -/
theorem Processes.carries (processes : chain.Processes block ledger)
    (initialized : chain.initialized = true) (sound : ledger.Sound params) :
    chain.Carries ledger where
  holds := by
    rw [latest_of_open processes.isOpen]
    exact processes.holds
  unloaded unloaded := by
    rw [initialized] at unloaded
    contradiction
  inUse _ := ⟨params, sound⟩

/-! ## Steps -/

/-- The parameters after the hooks of two phases. -/
def migrated (chain : Chain) (params : Params) (first last : BlockPhase) : Params :=
  Migration.applyAll params (chain.registry.hooksDue first ++ chain.registry.hooksDue last)

/-- The chain with its open block merged into the committed store. -/
def merged (chain : Chain) (block : OpenBlock) : Chain :=
  let committed := (block.view chain.committed).commit.flatten
  { chain with
    committed
    block := none
    lastHeight := block.height
    lastHash := commitment chain.registry committed
    halted := chain.haltHeight ≠ 0 && chain.haltHeight = block.height }

/-- What a call answers and what it leaves of the chain and of the ledger that the chain carries. -/
inductive Step (chain : Chain) (ledger : Ledger) : Call → Reply → Chain → Ledger → Prop
  /-- It is refused. -/
  | refused {call : Call} {cause : ChainError} (reason : chain.Refuses call cause) :
    Step chain ledger call (call.refusal cause) chain ledger
  /-- A genesis document is refused. -/
  | notLoaded {genesis : Genesis} {cause : ChainError} (fresh : chain.initialized = false)
    (reason : InitRefused chain.chainId genesis cause) :
    Step chain ledger (.initChain genesis) (.committed (.error (.refused cause))) chain.atGenesis
      ledger
  /-- A genesis document is loaded. -/
  | loaded {genesis : Genesis} {committed : Store} {result : CommitResult} {after : Ledger}
    (fresh : chain.initialized = false) (passed : genesis.validate chain.chainId = .ok ())
    (given : genesis.Loaded after) :
    Step chain ledger (.initChain genesis) (.committed (.ok result)) (chain.loaded committed) after
  /-- A block is opened, and the hooks at its begin are run. -/
  | opened {params : Params} {height : Height} {run : HookRun} {writes : WriteSet}
    (sound : ledger.Sound params) (initialized : chain.initialized = true)
    (running : chain.halted = false) (closed : chain.block = none)
    (next : chain.lastHeight.toNat + 1 = height.toNat) :
    Step chain ledger (.beginBlock height) (.ran (.ok run))
      ((chain.opened height).withWrites ⟨height, ∅⟩ writes)
      (ledger.setParams ((chain.opened height).migrated params .beginFirst .beginLast))
  /-- A message is rejected. -/
  | rejected {params : Params} {block : OpenBlock} {message : Message} {cause : AssetError}
    (sound : ledger.Sound params) (isOpen : chain.block = some block)
    (reason : Rejected chain.registry ledger params message cause) :
    Step chain ledger (.deliver message) (.delivered (.ok (.rejected cause))) chain ledger
  /-- A message is applied. -/
  | applied {params : Params} {block : OpenBlock} {message : Message} {writes : WriteSet}
    {after : Ledger} (sound : ledger.Sound params) (isOpen : chain.block = some block)
    (admitted : admission chain.registry message = .ok ())
    (transition : Issuance.Applied ledger params (Regime.ofRegistry chain.registry) message after) :
    Step chain ledger (.deliver message)
      (.delivered (.ok (.accepted [Issuance.createdEvent message]))) (chain.withWrites block writes)
      after
  /-- The hooks at the end of a block are run. -/
  | ended {params : Params} {block : OpenBlock} {run : HookRun} {writes : WriteSet}
    (sound : ledger.Sound params) (isOpen : chain.block = some block) :
    Step chain ledger .endBlock (.ran (.ok run)) (chain.withWrites block writes)
      (ledger.setParams (chain.migrated params .endFirst .endLast))
  /-- The open block is merged. -/
  | merged {block : OpenBlock} {result : CommitResult} (isOpen : chain.block = some block) :
    Step chain ledger .commit (.committed (.ok result)) (chain.merged block) ledger

/-- A call that is refused says so and changes nothing. -/
theorem Refuses.unchanged {call : Call} {cause : ChainError} (reason : chain.Refuses call cause) :
    chain.reply call = call.refusal cause ∧ chain.after call = chain := by
  cases reason with
  | loaded initialized => simp [reply, after, Call.refusal, initChain, initialized]
  | notLoaded fresh => simp [reply, after, Call.refusal, beginBlock, fresh]
  | halted initialized stopped =>
    simp [reply, after, Call.refusal, beginBlock, initialized, stopped]
  | inProgress initialized running isOpen =>
    simp [reply, after, Call.refusal, beginBlock, initialized, running, isOpen]
  | height initialized running closed apart =>
    simp [reply, after, Call.refusal, beginBlock, initialized, running, closed, apart]
  | noBlock needed closed =>
    cases call with
    | initChain | beginBlock => contradiction
    | deliver message => simp [reply, after, Call.refusal, deliver, inBlock, closed]
    | endBlock => simp [reply, after, Call.refusal, endBlock, runPhases, inBlock, closed]
    | commit => simp [reply, after, Call.refusal, commit, closed]

/-- The begin of a block is refused, or the block is the one to be opened next. -/
theorem refuses_beginBlock_or (chain : Chain) (height : Height) :
    (∃ cause, chain.Refuses (.beginBlock height) cause) ∨
      chain.initialized = true ∧ chain.halted = false ∧ chain.block = none ∧
        chain.lastHeight.toNat + 1 = height.toNat := by
  cases initialized : chain.initialized with
  | false => exact .inl ⟨_, .notLoaded initialized⟩
  | true =>
  cases halted : chain.halted with
  | true => exact .inl ⟨_, .halted initialized halted⟩
  | false =>
  cases isOpen : chain.block with
  | some block => exact .inl ⟨_, .inProgress initialized halted isOpen⟩
  | none =>
  by_cases next : chain.lastHeight.toNat + 1 = height.toNat
  · exact .inr ⟨rfl, rfl, rfl, next⟩
  · exact .inl ⟨_, .height initialized halted isOpen next⟩

/-- A block that begins is the one to be opened next. -/
theorem ready_of_begun {height : Height} {run : HookRun} {next : Chain}
    (begun : chain.beginBlock height = (.ok run, next)) :
    chain.initialized = true ∧ chain.halted = false ∧ chain.block = none ∧
      chain.lastHeight.toNat + 1 = height.toNat := by
  rcases chain.refuses_beginBlock_or height with ⟨cause, reason⟩ | ready
  · have refused : Reply.ran (chain.beginBlock height).1 = .ran (.error (.refused cause)) :=
      reason.unchanged.1
    rw [begun] at refused
    cases refused
  · exact ready

/-- No step runs into a fault. -/
theorem Step.fault?_eq_none {call : Call} {reply : Reply} {next : Chain} {after : Ledger}
    (step : chain.Step ledger call reply next after) : reply.fault? = none := by
  cases step with
  | refused => cases call <;> rfl
  | _ => rfl

/-- After the genesis a step goes on from it. -/
theorem Step.initialized {call : Call} {reply : Reply} {next : Chain} {after : Ledger}
    (step : chain.Step ledger call reply next after) (initialized : chain.initialized = true) :
    next.initialized = true := by
  cases step with
  | loaded => rfl
  | _ => exact initialized

/-- Hooks leave a ledger in use. -/
theorem sound_migrated (sound : ledger.Sound params) (chain : Chain) (first last : BlockPhase) :
    (ledger.setParams (chain.migrated params first last)).Sound
      (chain.migrated params first last) :=
  sound.setParams (Migration.validate_applyAll sound.usable _)

/-- An open block is merged. -/
theorem exists_commit (isOpen : chain.block = some block) :
    ∃ result, chain.commit = (.ok result, chain.merged block) := by
  rw [commit, isOpen]
  exact ⟨_, rfl⟩

/-- A call takes a step from the ledger that the chain carries to the one that it carries then. -/
def Steps (chain : Chain) (ledger : Ledger) (call : Call) : Prop :=
  ∃ after, chain.Step ledger call (chain.reply call) (chain.after call) after ∧
    (chain.after call).Carries after

namespace Carries

/-- A call that is refused takes a step. -/
theorem steps_refused (carries : chain.Carries ledger) {call : Call} {cause : ChainError}
    (reason : chain.Refuses call cause) : chain.Steps ledger call := by
  obtain ⟨answered, same⟩ := reason.unchanged
  rw [Steps, answered, same]
  exact ⟨ledger, .refused reason, carries⟩

/-- A genesis document takes a step. -/
theorem steps_initChain (carries : chain.Carries ledger) (genesis : Genesis) :
    chain.Steps ledger (.initChain genesis) := by
  cases initialized : chain.initialized with
  | true => exact carries.steps_refused (.loaded initialized)
  | false =>
    obtain ⟨rfl, empty, closed⟩ := carries.unloaded initialized
    rcases initChain_cases initialized empty genesis with
      ⟨cause, reason, refused⟩ | ⟨committed, ledger, result, passed, holds, given, done⟩
    · rw [Steps, reply, after, refused]
      exact ⟨_, .notLoaded initialized reason, carries.holds, carries.unloaded, carries.inUse⟩
    · rw [Steps, reply, after, done]
      have latest : (chain.loaded committed).latest = .base committed := latest_of_closed closed
      have afterwards : (chain.loaded committed).initialized = true := rfl
      refine ⟨ledger, .loaded initialized passed given, ?_, fun unloaded => ?_,
        fun _ => ⟨_, given.sound⟩⟩
      · change (chain.loaded committed).latest.flatten.Holds ledger
        rw [latest]
        exact holds
      · rw [afterwards] at unloaded
        contradiction

/-- The begin of a block takes a step. -/
theorem steps_beginBlock (carries : chain.Carries ledger) (height : Height) :
    chain.Steps ledger (.beginBlock height) := by
  rcases chain.refuses_beginBlock_or height with
    ⟨cause, reason⟩ | ⟨initialized, running, closed, next⟩
  · exact carries.steps_refused reason
  · obtain ⟨params, sound⟩ := carries.inUse initialized
    have holds := carries.holds
    rw [latest_of_closed closed] at holds
    obtain ⟨run, writes, begun, processes⟩ :=
      exists_beginBlock chain holds sound initialized running closed height next
    have migratedSound := sound_migrated sound (chain.opened height) .beginFirst .beginLast
    rw [Steps, reply, after, begun]
    exact ⟨_, .opened sound initialized running closed next,
      processes.carries initialized migratedSound⟩

/-- A message takes a step. -/
theorem steps_deliver (carries : chain.Carries ledger) (message : Message) :
    chain.Steps ledger (.deliver message) := by
  cases isOpen : chain.block with
  | none => exact carries.steps_refused (.noBlock rfl isOpen)
  | some block =>
    obtain ⟨initialized, params, sound⟩ := carries.exists_sound isOpen
    rcases deliver_cases (carries.processes isOpen) sound message with
      ⟨cause, reason, rejected⟩ | ⟨left, writes, admitted, transition, applied, processes⟩
    · rw [Steps, reply, after, rejected]
      exact ⟨ledger, .rejected sound isOpen reason, carries⟩
    · have leftSound := transition.sound sound (checkBasic_of_admission admitted)
      rw [Steps, reply, after, applied]
      exact ⟨left, .applied sound isOpen admitted transition,
        processes.carries initialized leftSound⟩

/-- The end of a block takes a step. -/
theorem steps_endBlock (carries : chain.Carries ledger) : chain.Steps ledger .endBlock := by
  cases isOpen : chain.block with
  | none => exact carries.steps_refused (.noBlock rfl isOpen)
  | some block =>
    obtain ⟨initialized, params, sound⟩ := carries.exists_sound isOpen
    obtain ⟨writes, ran, processes⟩ :=
      exists_runPhases (carries.processes isOpen) sound.configured .endFirst .endLast
    have migratedSound := sound_migrated sound chain .endFirst .endLast
    rw [Steps, reply, after, endBlock, ran]
    exact ⟨_, .ended sound isOpen, processes.carries initialized migratedSound⟩

/-- A commit takes a step. -/
theorem steps_commit (carries : chain.Carries ledger) : chain.Steps ledger .commit := by
  cases isOpen : chain.block with
  | none => exact carries.steps_refused (.noBlock rfl isOpen)
  | some block =>
    obtain ⟨initialized, params, sound⟩ := carries.exists_sound isOpen
    obtain ⟨result, done⟩ := exists_commit isOpen
    have stillInitialized : (chain.merged block).initialized = true := initialized
    rw [Steps, reply, after, done]
    refine ⟨ledger, .merged isOpen, ?_, fun unloaded => ?_, fun _ => ⟨params, sound⟩⟩
    · change (block.view chain.committed).commit.flatten.Holds ledger
      rw [View.flatten_commit]
      exact (carries.processes isOpen).holds
    · rw [stillInitialized] at unloaded
      contradiction

/-- Every call takes a step. -/
theorem steps (carries : chain.Carries ledger) (call : Call) : chain.Steps ledger call := by
  cases call with
  | initChain genesis => exact carries.steps_initChain genesis
  | beginBlock height => exact carries.steps_beginBlock height
  | deliver message => exact carries.steps_deliver message
  | endBlock => exact carries.steps_endBlock
  | commit => exact carries.steps_commit

/-- What a call answers and leaves is what its step does. -/
theorem exists_step (carries : chain.Carries ledger) {call : Call} {reply : Reply} {next : Chain}
    (answered : chain.reply call = reply) (reached : chain.after call = next) :
    ∃ after, chain.Step ledger call reply next after ∧ next.Carries after := by
  subst answered reached
  exact carries.steps call

/-- What every step keeps, every run keeps. -/
theorem run (kept : Chain → Ledger → Prop)
    (step : ∀ {chain : Chain} {ledger : Ledger} {call : Call} {reply : Reply} {next : Chain}
      {after : Ledger}, chain.Carries ledger → chain.Step ledger call reply next after →
        kept chain ledger → kept next after)
    (carries : chain.Carries ledger) (start : kept chain ledger) (calls : List Call) :
    ∃ after, (chain.run calls).Carries after ∧ kept (chain.run calls) after := by
  induction calls generalizing chain ledger with
  | nil => exact ⟨ledger, carries, start⟩
  | cons call rest ih =>
    obtain ⟨middle, taken, left⟩ := carries.steps call
    exact ih left (step carries taken start)

end Carries

/-- A call to a sound chain takes a step from the ledger that the chain carries. -/
theorem Sound.exists_step (sound : chain.Sound) (call : Call) :
    ∃ ledger after, chain.Carries ledger ∧
      chain.Step ledger call (chain.reply call) (chain.after call) after := by
  obtain ⟨ledger, carries⟩ := sound.exists_carries
  obtain ⟨after, step, _⟩ := carries.steps call
  exact ⟨ledger, after, carries, step⟩

/-- A genesis document that is loaded leaves a sound chain with no block open, which carries what
the document lists. -/
theorem Sound.exists_started (sound : chain.Sound) {genesis : Genesis} {result : CommitResult}
    {start : Chain} (loaded : chain.initChain genesis = (.ok result, start)) :
    start.Sound ∧ start.initialized = true ∧ start.block = none ∧
      ∃ after, start.Carries after ∧ genesis.Loaded after := by
  have reached : chain.after (.initChain genesis) = start := congrArg Prod.snd loaded
  have answered : chain.reply (.initChain genesis) = .committed (.ok result) := by
    rw [reply, loaded]
  have startSound := sound.after (.initChain genesis)
  rw [reached] at startSound
  obtain ⟨_, carries⟩ := sound.exists_carries
  obtain ⟨after, step, left⟩ := carries.exists_step answered reached
  cases step with
  | loaded fresh _ given =>
    exact ⟨startSound, rfl, (carries.unloaded fresh).2.2, after, left, given⟩

/-- After the genesis a run goes on from it. -/
theorem Sound.initialized_run (sound : chain.Sound) (initialized : chain.initialized = true)
    (calls : List Call) : (chain.run calls).initialized = true := by
  obtain ⟨_, carries⟩ := sound.exists_carries
  obtain ⟨_, _, kept⟩ := carries.run (fun chain _ => chain.initialized = true)
    (fun _ step initialized => step.initialized initialized) initialized calls
  exact kept

/-! ## Points of a run -/

/-- Calls one after the other are all of them. -/
theorem run_append (chain : Chain) (first last : List Call) :
    chain.run (first ++ last) = (chain.run first).run last :=
  List.foldl_append

/-- The run of one message leaves what its delivery leaves. -/
theorem run_deliver {message : Message} {answer : Except (Stop ChainError) TxResult} {next : Chain}
    (delivered : chain.deliver message = (answer, next)) : chain.run [.deliver message] = next :=
  congrArg Prod.snd delivered

/-- A step leaves the committed store as it was, or leaves no block open. -/
theorem Step.committed_eq_or {call : Call} {reply : Reply} {next : Chain} {after : Ledger}
    (step : chain.Step ledger call reply next after) (carries : chain.Carries ledger) :
    next.committed = chain.committed ∨ next.block = none := by
  cases step with
  | loaded fresh => exact .inr (carries.unloaded fresh).2.2
  | merged => exact .inr rfl
  | _ => exact .inl rfl

/-- Over a run the committed store stays as it was, or it is the latest store at some point. -/
theorem Sound.committed_eq_or (sound : chain.Sound) (calls : List Call) :
    (chain.run calls).committed = chain.committed ∨
      ∃ past rest, calls = past ++ rest ∧
        (chain.run past).latest = .base (chain.run calls).committed := by
  -- From the end: only the last call can have made another store the committed one.
  induction calls using List.reverseRecOn with
  | nil => exact .inl rfl
  | append_singleton calls call ih =>
    obtain ⟨_, _, carries, step⟩ := (sound.run calls).exists_step call
    have last : chain.run (calls ++ [call]) = (chain.run calls).after call :=
      run_append chain calls [call]
    rcases step.committed_eq_or carries with same | closed
    · rw [last, same]
      rcases ih with unchanged | ⟨past, rest, rfl, latest⟩
      · exact .inl unchanged
      · exact .inr ⟨past, rest ++ [call], List.append_assoc past rest [call], latest⟩
    · rw [last]
      refine .inr ⟨calls ++ [call], [], (List.append_nil _).symm, ?_⟩
      rw [last]
      exact latest_of_closed closed

/-- A store that a chain shows in a run that starts with no block open is the latest one at some
point of the run. -/
theorem Sound.exists_point (sound : chain.Sound) (closed : chain.block = none) {calls : List Call}
    {view : View} (shown : (chain.run calls).Shows view) :
    ∃ past rest, calls = past ++ rest ∧ (chain.run past).latest = view := by
  cases shown with
  | committed =>
    rcases sound.committed_eq_or calls with same | point
    · rw [same]
      exact ⟨[], calls, rfl, latest_of_closed closed⟩
    · exact point
  | pending isOpen => exact ⟨calls, [], (List.append_nil calls).symm, latest_of_open isOpen⟩

/-- The committed stores of two points of a run that starts with no block open are the latest ones
at two points, in the same order. -/
theorem Sound.exists_points (sound : chain.Sound) (closed : chain.block = none)
    (calls more : List Call) :
    ∃ past between rest, calls ++ more = past ++ between ++ rest ∧ past <+: calls ∧
      (chain.run past).latest = .base (chain.run calls).committed ∧
      (chain.run (past ++ between)).latest = .base (chain.run (calls ++ more)).committed := by
  have shown : (chain.run calls).Shows (.base (chain.run calls).committed) := .committed
  obtain ⟨past, rest, rfl, here⟩ := sound.exists_point closed shown
  have started := List.prefix_append past rest
  rw [run_append chain (past ++ rest)]
  rcases (sound.run (past ++ rest)).committed_eq_or more with same | ⟨first, last, rfl, there⟩
  · rw [same]
    refine ⟨past, [], rest ++ more, ?_, started, here, ?_⟩
    · rw [List.append_nil, List.append_assoc]
    · rw [List.append_nil, here]
  · refine ⟨past, rest ++ first, last, ?_, started, here, ?_⟩
    · simp only [List.append_assoc]
    · rw [← List.append_assoc, run_append chain (past ++ rest), there]

end TokenLedger.Chain
