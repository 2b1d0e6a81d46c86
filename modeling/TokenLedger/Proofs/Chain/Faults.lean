import TokenLedger.Proofs.Chain.Reads
import TokenLedger.Proofs.Chain.Restart

/-!
# No request runs into a fault

A fault is a broken invariant, and the invariant of a chain is never broken. Settings are refused or
wired; and once a genesis document is loaded, no call and no read runs into a fault, whatever came
before and whatever its arguments are.
-/

namespace TokenLedger.Chain

variable {chain : Chain} {ledger : Ledger} {params : Params}

/-- What may be asked of a chain: a call of the life cycle, or something to be read. -/
inductive Request where
  /-- A call. -/
  | call (call : Call)
  /-- A query. -/
  | query (path : String) (body : Bytes)
  /-- The genesis document of the committed state. -/
  | exportGenesis
  /-- What an account holds. -/
  | balance (address : Address)
  /-- The total supply. -/
  | totalSupply
  /-- The token of a symbol. -/
  | token (symbol : String)

/-- The fault that a request runs into, if it does. -/
def fault? (chain : Chain) : Request → Option Fault
  | .call call => (chain.reply call).fault?
  | .query path body => faultOf? (chain.query path body)
  | .exportGenesis => faultOf? chain.exportGenesis
  | .balance address => faultOf? (chain.balance address)
  | .totalSupply => faultOf? chain.totalSupply
  | .token symbol => faultOf? (chain.token symbol)

/-- The chain after a request; reads leave it as it is. -/
def afterRequest (chain : Chain) : Request → Chain
  | .call call => chain.after call
  | .query .. | .exportGenesis | .balance _ | .totalSupply | .token _ => chain

/-- The chain after requests in order. -/
def serve (chain : Chain) (requests : List Request) : Chain := requests.foldl afterRequest chain

/-- The call that a request makes, if it is no read. -/
def Request.call? : Request → Option Call
  | .call made => some made
  | .query .. | .exportGenesis | .balance _ | .totalSupply | .token _ => none

/-- Requests leave what their calls leave. -/
theorem serve_eq_run (chain : Chain) (requests : List Request) :
    chain.serve requests = chain.run (requests.filterMap Request.call?) := by
  induction requests generalizing chain with
  | nil => rfl
  | cons request rest ih =>
    cases request with
    | call call => exact ih (chain.after call)
    | query | exportGenesis | balance | totalSupply | token => exact ih chain

/-- There are calls that leave what requests leave. -/
theorem exists_serve_eq_run (chain : Chain) (requests : List Request) :
    ∃ calls, chain.serve requests = chain.run calls :=
  ⟨_, serve_eq_run chain requests⟩

/-- A request keeps a chain sound. -/
theorem Sound.afterRequest (sound : chain.Sound) (request : Request) :
    (chain.afterRequest request).Sound := by
  cases request with
  | call call => exact sound.after call
  | query | exportGenesis | balance | totalSupply | token => exact sound

/-- Requests keep a chain sound. -/
theorem Sound.serve (sound : chain.Sound) (requests : List Request) :
    (chain.serve requests).Sound := by
  obtain ⟨calls, same⟩ := exists_serve_eq_run chain requests
  rw [same]
  exact sound.run calls

/-- Requests one after the other are all of them. -/
theorem serve_append (chain : Chain) (first last : List Request) :
    chain.serve (first ++ last) = (chain.serve first).serve last :=
  List.foldl_append

/-- Settings are refused or wired. -/
theorem create_ne_faulted (config : NodeConfig) (fault : Fault) :
    create config ≠ .error (.faulted fault) := by
  intro faulted
  unfold create at faulted
  split at faulted
  · cases faulted
  next valid =>
  obtain ⟨registry, wires, _⟩ := UpgradeHeights.exists_wire (NodeConfig.positive_of_validate valid)
  rw [wires] at faulted
  contradiction

/-- A read that is described runs into no fault. -/
theorem faultOf?_read {ε α : Type} (holds : chain.committed.Holds ledger) {action : Action ε α}
    {done : α → Ledger → List Event → Prop} {refused : ε → Prop}
    (runs : action.Runs ledger done refused) : faultOf? (chain.read action) = none := by
  rcases read_of_runs holds runs with ⟨_, _, _, answered, _⟩ | ⟨_, answered, _⟩ <;>
    rw [answered] <;> rfl

/-- With a ledger in use in its committed store, an export runs into no fault. -/
theorem faultOf?_exportGenesis (holds : chain.committed.Holds ledger)
    (sound : ledger.Sound params) : faultOf? chain.exportGenesis = none := by
  cases closed : chain.block with
  | some block =>
    rw [exportGenesis, closed]
    rfl
  | none =>
    obtain ⟨_, exported, _⟩ := exists_exportGenesis holds sound closed
    rw [exported]
    rfl

/-- A sound chain that has loaded a genesis document runs into no fault. -/
theorem Sound.fault?_eq_none (sound : chain.Sound) (initialized : chain.initialized = true)
    (request : Request) : chain.fault? request = none := by
  obtain ⟨ledger, params, holds, ledgerSound⟩ := sound.committed initialized
  have registered := ledgerSound.registered
  cases request with
  | call call =>
    obtain ⟨_, _, _, step⟩ := sound.exists_step call
    exact step.fault?_eq_none
  | query path body =>
    exact faultOf?_read holds (Query.runs_route registered ledgerSound.configured _ path body)
  | exportGenesis => exact faultOf?_exportGenesis holds ledgerSound
  | balance address => exact faultOf?_read holds (Supply.yields_balance ledger address)
  | totalSupply => exact faultOf?_read holds (Supply.yields_total ledger)
  | token symbol =>
    exact faultOf?_read holds (TokenBook.yields_find? fun token found =>
      (registered symbol token found).2)

/-- No settings run into a fault: they are refused, or a chain is created. After any requests to a
chain that was created, once a genesis document is loaded, no request runs into a fault, whatever
requests come before it. The window of a page always lies inside the list that it is taken from. -/
theorem serve_never_faults :
    (∀ config fault, create config ≠ .error (.faulted fault)) ∧
    (∀ (config : NodeConfig) (fresh : Chain), create config = .ok fresh →
      ∀ (early : List Request) (genesis : Genesis) (result : CommitResult) (start : Chain),
        (fresh.serve early).initChain genesis = (.ok result, start) →
          ∀ (requests : List Request) (request : Request),
            (start.serve requests).fault? request = none) ∧
    ∀ length page limit window,
      Query.window? length page limit Query.defaultLimit = some window →
        window.start ≤ window.stop ∧ window.stop ≤ length := by
  refine ⟨create_ne_faulted, ?_, fun _ _ _ _ found => Query.window?_inside found⟩
  intro config fresh created early genesis result start loaded requests request
  obtain ⟨earlyCalls, reached⟩ := exists_serve_eq_run fresh early
  obtain ⟨calls, same⟩ := exists_serve_eq_run start requests
  rw [reached] at loaded
  obtain ⟨sound, initialized, _⟩ := ((sound_create created).run earlyCalls).exists_started loaded
  rw [same]
  exact (sound.run calls).fault?_eq_none (sound.initialized_run initialized calls) request

/-- In the first block of a small chain a list of tokens can be asked for. -/
theorem serve_never_faults_sample : create Sample.config = .ok Sample.fresh ∧
    ∃ result start, Sample.fresh.initChain Sample.genesis = (.ok result, start) ∧
      (start.serve [.call (.beginBlock 1), .totalSupply]).fault?
        (.query "custom/asset/list" [123, 125]) = none := by
  obtain ⟨_, _, result, _, _, loaded⟩ :=
    Sample.exists_initChain_genesis Sample.fresh rfl rfl rfl
  have served := serve_never_faults.2.1 Sample.config Sample.fresh Sample.created [] Sample.genesis
    result _ loaded [.call (.beginBlock 1), .totalSupply] (.query "custom/asset/list" [123, 125])
  exact ⟨Sample.created, result, _, loaded, served⟩

end TokenLedger.Chain
