import TokenLedger.Proofs.Chain.Refusals

/-!
# Before a genesis document is loaded

Until a genesis document is loaded a chain stays as it was created, whatever is asked of it. Only
the begin of a block looks at whether one is loaded. The calls that work on a block are refused
because none is open. Queries about tokens are refused by the gate of the token upgrade, which
activates in the first block at the earliest, and what is read without parameters is empty. Nothing
of this holds back an export: it reads parameters that were never set, and runs into a fault.
-/

namespace TokenLedger.Chain

variable {chain fresh : Chain} {config : NodeConfig}

/-! ## Loading -/

/-- Whether one of some requests loads a genesis document. -/
def Loads (chain : Chain) (requests : List Request) : Prop :=
  ∃ early genesis result start, early ++ [.call (.initChain genesis)] <+: requests ∧
    (chain.serve early).initChain genesis = (.ok result, start)

/-- A chain that has loaded no document is changed by a request only if that loads one. -/
theorem Paced.afterRequest_or_loads (paced : Paced config chain) (sound : chain.Sound)
    (unloaded : chain.initialized = false) (request : Request) :
    chain.afterRequest request = chain ∨ ∃ genesis result start,
      request = .call (.initChain genesis) ∧ chain.initChain genesis = (.ok result, start) := by
  obtain ⟨empty, closed⟩ := sound.unloaded unloaded
  have kept (call : Call) {cause : ChainError} (reason : chain.Refuses call cause) :
      chain.afterRequest (.call call) = chain := reason.unchanged.2
  cases request with
  | query | exportGenesis | balance | totalSupply | token => exact .inl rfl
  | call call =>
    cases call with
    | initChain genesis =>
      rcases initChain_cases unloaded empty genesis with
        ⟨_, _, refused⟩ | ⟨_, _, _, _, _, _, loaded⟩
      · exact .inl ((congrArg Prod.snd refused).trans (paced.atGenesis_eq unloaded))
      · exact .inr ⟨genesis, _, _, rfl, loaded⟩
    | beginBlock height => exact .inl (kept (.beginBlock height) (.notLoaded unloaded))
    | deliver message => exact .inl (kept (.deliver message) (.noBlock rfl closed))
    | endBlock => exact .inl (kept .endBlock (.noBlock rfl closed))
    | commit => exact .inl (kept .commit (.noBlock rfl closed))

/-- Requests of which none loads a document change nothing. -/
theorem Paced.serve_of_not_loads (paced : Paced config chain) (sound : chain.Sound)
    (unloaded : chain.initialized = false) {requests : List Request}
    (never : ¬ chain.Loads requests) : chain.serve requests = chain := by
  induction requests with
  | nil => rfl
  | cons request rest ih =>
    rcases paced.afterRequest_or_loads sound unloaded request with
      same | ⟨genesis, result, start, rfl, loaded⟩
    · have later : ¬ chain.Loads rest := by
        rintro ⟨early, genesis, result, start, early_prefix, loaded⟩
        refine never ⟨request :: early, genesis, result, start,
          (List.prefix_cons_inj request).mpr early_prefix, ?_⟩
        change ((chain.afterRequest request).serve early).initChain genesis = _
        rw [same]
        exact loaded
      change (chain.afterRequest request).serve rest = chain
      rw [same]
      exact ih later
    · exact absurd ⟨[], genesis, result, start, List.prefix_append [_] rest, loaded⟩ never

/-- A chain that was created is initialized exactly if one of the requests has loaded a
document. -/
theorem initialized_iff_loads (created : create config = .ok fresh) (requests : List Request) :
    (fresh.serve requests).initialized = true ↔ fresh.Loads requests := by
  have sound := sound_create created
  have unloaded := initialized_create created
  constructor
  · intro initialized
    by_contra never
    rw [(paced_create created).serve_of_not_loads sound unloaded never, unloaded] at initialized
    contradiction
  · rintro ⟨early, genesis, result, start, ⟨rest, rfl⟩, loaded⟩
    obtain ⟨startSound, initialized, _⟩ := (sound.serve early).exists_started loaded
    have reached : fresh.serve (early ++ [.call (.initChain genesis)]) = start := by
      rw [serve_append]
      exact congrArg Prod.snd loaded
    rw [serve_append, reached, serve_eq_run]
    exact startSound.initialized_run initialized _

/-! ## What is answered -/

/-- A chain that waits for its genesis document. -/
structure Waits (chain : Chain) : Prop where
  /-- No block can be opened. -/
  begins : ∀ height, chain.beginBlock height = (.error (.refused .notInitialized), chain)
  /-- Nothing can be done in one. -/
  works : ∀ call, call.needsBlock = true →
    chain.reply call = call.refusal .noOpenBlock ∧ chain.after call = chain
  /-- Queries are refused. -/
  queries : ∀ path body, ∃ cause, chain.query path body = .error (.refused cause) ∧
    (cause = .queryNotSupported ∨ cause = .unknownPath path)
  /-- Accounts hold nothing. -/
  balance : ∀ address, chain.balance address = .ok .empty
  /-- So the total supply is empty. -/
  totalSupply : chain.totalSupply = .ok .empty
  /-- There are no tokens. -/
  token : ∀ symbol, chain.token symbol = .ok none
  /-- An export runs into a fault. -/
  exports : chain.exportGenesis =
    .error (.faulted (.unsetParameter Params.maxDecimalKey Params.subspace.name))

/-- Without the token upgrade every query is refused. -/
theorem exists_read_route_refused (chain : Chain) (path : String) (body : Bytes) :
    ∃ cause, chain.read (Query.route false path body) = .error (.refused cause) ∧
      (cause = .queryNotSupported ∨ cause = .unknownPath path) := by
  unfold Query.route
  split
  · exact ⟨.queryNotSupported, rfl, .inl rfl⟩
  · exact ⟨.unknownPath path, rfl, .inr rfl⟩

/-- The token upgrade is not active in a chain that was created. -/
theorem isApplied_tokenIssue_create (created : create config = .ok fresh) :
    fresh.registry.isApplied .tokenIssue = false := by
  have gate : fresh.registry.isApplied .tokenIssue =
      decide (config.upgrades.tokenIssue ≤ fresh.currentHeight) :=
    (aligned_run created []).isApplied_eq .tokenIssue
  obtain ⟨valid, _, _, rfl⟩ := eq_beginning_of_create created
  have positive : config.upgrades.tokenIssue ≠ 0 :=
    NodeConfig.positive_of_validate valid .tokenIssue
  rw [gate]
  refine decide_eq_false fun reached => positive (UInt64.le_zero_iff.mp reached)

/-- A chain that was created waits for its genesis document. -/
theorem waits_create (created : create config = .ok fresh) : fresh.Waits := by
  have gate := isApplied_tokenIssue_create created
  obtain ⟨_, registry, _, rfl⟩ := eq_beginning_of_create created
  have holds : (beginning config registry).committed.Holds Ledger.empty := Store.holds_empty
  refine ⟨fun _ => rfl, fun call needed => ?_, fun path body => ?_, fun address => ?_, ?_,
    fun symbol => ?_, ?_⟩
  · exact (Refuses.noBlock needed rfl).unchanged
  · rw [query, gate]
    exact exists_read_route_refused _ path body
  · exact read_of_yields holds (Supply.yields_balance Ledger.empty address)
  · exact read_of_yields holds (Supply.yields_total Ledger.empty)
  · exact read_of_yields holds (TokenBook.yields_find? fun _ found =>
      absurd found.symm (Option.some_ne_none _))
  · exact read_of_faults holds (Genesis.faults_save rfl config.chainId)

/-- Of all requests to a chain that waits for its document only an export runs into a fault. -/
theorem Waits.fault?_eq_none_iff (waits : chain.Waits) (sound : chain.Sound) (request : Request) :
    chain.fault? request = none ↔ request ≠ .exportGenesis := by
  cases request with
  | call call =>
    obtain ⟨_, _, _, step⟩ := sound.exists_step call
    exact iff_of_true step.fault?_eq_none nofun
  | query path body =>
    obtain ⟨_, refused, _⟩ := waits.queries path body
    exact iff_of_true (by rw [fault?, refused]; rfl) nofun
  | exportGenesis =>
    refine iff_of_false (fun harmless => ?_) fun other => other rfl
    rw [fault?, waits.exports] at harmless
    contradiction
  | balance address => exact iff_of_true (by rw [fault?, waits.balance]; rfl) nofun
  | totalSupply => exact iff_of_true (by rw [fault?, waits.totalSupply]; rfl) nofun
  | token symbol => exact iff_of_true (by rw [fault?, waits.token]; rfl) nofun

/-- After any requests to a chain that was created of which none has loaded a genesis document, and
however many documents were refused: every call that works on a block or opens one is refused and
changes nothing, every query is refused, balances and the total supply are empty, and there are no
tokens. An export, though, runs into a fault, and it is the only request that does. -/
theorem waits_of_not_loads (created : create config = .ok fresh) (requests : List Request)
    (never : ¬ fresh.Loads requests) :
    (fresh.serve requests).Waits ∧
      ∀ request, (fresh.serve requests).fault? request = none ↔ request ≠ .exportGenesis := by
  have sound := sound_create created
  have waits := waits_create created
  have unloaded := initialized_create created
  rw [(paced_create created).serve_of_not_loads sound unloaded never]
  exact ⟨waits, waits.fault?_eq_none_iff sound⟩

/-- A document that is refused in the middle of its accounts loads nothing. -/
theorem waits_of_not_loads_sample : create Sample.config = .ok Sample.fresh ∧
    ¬ Sample.fresh.Loads [.call (.initChain Sample.overfunded)] ∧
    (Sample.fresh.serve [.call (.initChain Sample.overfunded)]).Waits := by
  have never : ¬ Sample.fresh.Loads [.call (.initChain Sample.overfunded)] := by
    have left : Sample.fresh.serve [.call (.initChain Sample.overfunded)] =
        Sample.fresh.atGenesis := by
      rw [serve, List.foldl_cons, List.foldl_nil, Chain.afterRequest, Chain.after,
        Sample.initChain_overfunded]
    rw [← initialized_iff_loads Sample.created, left]
    exact Bool.false_ne_true
  exact ⟨Sample.created, never, (waits_of_not_loads Sample.created _ never).1⟩

/-- An export of a chain that has loaded no document is not refused: it runs into a fault. -/
theorem exportGenesis_faults_unloaded :
    Sample.fresh.fault? .exportGenesis =
      some (.unsetParameter Params.maxDecimalKey Params.subspace.name) ∧
    ∀ cause, Sample.fresh.exportGenesis ≠ .error (.refused cause) := by
  have exported := (waits_create Sample.created).exports
  rw [fault?, exported]
  exact ⟨rfl, nofun⟩

end TokenLedger.Chain
