import TokenLedger.Proofs.Chain.Agreement
import TokenLedger.Proofs.Chain.Denominations
import TokenLedger.Proofs.Chain.Heights

/-!
# Refused requests

A call of the life cycle, or an export, that is refused leaves the whole chain as it was: its
stores, the open block, its heights and those of its gates, the commitment and the flags. Loading a
genesis document is the one call that touches the chain before it looks at its argument: it moves
the gates to height zero. That is where they stand before any document is loaded. So a chain behaves
as if the requests that it refuses had not been made.
-/

namespace TokenLedger.Chain

variable {chain next fresh : Chain} {ledger after : Ledger} {config : NodeConfig}

/-! ## What is refused -/

/-- The cause in an answer that is a refusal. -/
def refusalOf? {ε α : Type} : Except (Stop ε) α → Option ε
  | .error (.refused cause) => some cause
  | .error (.faulted _) | .ok _ => none

/-- The cause for which a call was refused, if it was. -/
def Reply.refusal? : Reply → Option ChainError
  | .committed answer => refusalOf? answer
  | .ran answer => refusalOf? answer
  | .delivered answer => refusalOf? answer

/-- The cause for which a call or an export was refused, if it was. -/
def Response.refusal? : Response → Option ChainError
  | .replied reply => reply.refusal?
  | .exported answer => refusalOf? answer
  | .queried _ | .held _ | .found _ => none

/-- The requests that are not refused, in order. -/
def heeded (chain : Chain) : List Request → List Request
  | [] => []
  | request :: rest =>
    let later := (chain.afterRequest request).heeded rest
    if (chain.response request).refusal?.isNone then request :: later else later

/-! ## What a refusal leaves -/

/-- Before a genesis document is loaded the gates stand at height zero. -/
theorem Paced.atGenesis_eq (paced : Paced config chain) (unloaded : chain.initialized = false) :
    chain.atGenesis = chain := by
  obtain ⟨zero, closed⟩ := paced.unloaded unloaded
  have height : chain.registry.height = 0 := (paced.closed closed).trans zero
  unfold atGenesis
  rw [← height]
  rfl

/-- A step that answers with a refusal changes nothing. -/
theorem Step.eq_of_refused {call : Call} {reply : Reply} {cause : ChainError}
    (step : chain.Step ledger call reply next after) (paced : Paced config chain)
    (refused : reply.refusal? = some cause) : next = chain := by
  cases step with
  | refused => rfl
  | notLoaded unloaded => exact paced.atGenesis_eq unloaded
  | loaded | opened | rejected | applied | ended | merged => contradiction

/-- A request that is refused changes nothing. -/
theorem Paced.afterRequest_of_refused (paced : Paced config chain) (sound : chain.Sound)
    {request : Request} {cause : ChainError}
    (refused : (chain.response request).refusal? = some cause) :
    chain.afterRequest request = chain := by
  cases request with
  | query | exportGenesis | balance | totalSupply | token => rfl
  | call call =>
    obtain ⟨_, _, _, step⟩ := sound.exists_step call
    exact step.eq_of_refused paced refused

/-- Without the requests that are refused, all others leave the same chain and are answered
alike. -/
theorem Paced.serve_heeded (paced : Paced config chain) (sound : chain.Sound)
    (requests : List Request) :
    chain.serve (chain.heeded requests) = chain.serve requests ∧
      chain.responses (chain.heeded requests) =
        (chain.responses requests).filter (·.refusal?.isNone) := by
  induction requests generalizing chain with
  | nil => exact ⟨rfl, rfl⟩
  | cons request rest ih =>
    obtain ⟨same, answers⟩ := ih (paced.afterRequest sound request) (sound.afterRequest request)
    rw [heeded, responses, List.filter_cons]
    cases refused : (chain.response request).refusal? with
    | none =>
      simp only [Option.isNone_none, if_true]
      exact ⟨same, congrArg (chain.response request :: ·) answers⟩
    | some cause =>
      have unchanged := paced.afterRequest_of_refused sound refused
      simp only [Option.isNone_some, Bool.false_eq_true, if_false]
      rw [unchanged] at same answers ⊢
      refine ⟨same.trans ?_, answers⟩
      exact congrArg (·.serve rest) unchanged.symm

/-! ## Runs -/

/-- After any requests to a chain that was created, a call of the life cycle or an export that is
refused, for whatever cause and with whatever arguments, leaves the chain as it was. So the requests
that are refused can be left out: all others leave the same chain, and are answered alike. -/
theorem refusals_change_nothing (created : create config = .ok fresh) (requests : List Request) :
    let now := fresh.serve requests
    (∀ request cause, (now.response request).refusal? = some cause →
      now.afterRequest request = now) ∧
    fresh.serve (fresh.heeded requests) = now ∧
    fresh.responses (fresh.heeded requests) =
      (fresh.responses requests).filter (·.refusal?.isNone) := by
  have sound := sound_create created
  have left := (paced_create created).serve_heeded sound requests
  refine ⟨fun request cause refused => ?_, left⟩
  exact (paced_serve created requests).afterRequest_of_refused (sound.serve requests) refused

namespace Sample

/-- A document whose second account does not fit into the total supply any more. -/
def overfunded : Genesis :=
  ⟨"", [⟨holder, Params.nativeFee ⟨340282366920938463463374607431768211455, by decide⟩⟩,
    ⟨⟨List.replicate 20 8, rfl⟩, funds⟩], AssetGenesis.default⟩

/-- What it lists. -/
theorem listedTotal_overfunded (denom : String) :
    Genesis.listedTotal overfunded.balances denom =
      if nativeDenom = denom then 340282366920938463463374607431768211455 + 100000000000 else 0 := by
  rw [Genesis.listedTotal, overfunded, funds, List.map_cons, List.map_cons, List.map_nil,
    List.sum_cons, List.sum_cons, List.sum_nil, units_nativeFee, units_nativeFee]
  by_cases native : nativeDenom = denom
  · rw [if_pos native, if_pos native, if_pos native]
    rfl
  · rw [if_neg native, if_neg native, if_neg native, Nat.zero_add, Nat.zero_add]

/-- The document is refused after the first account was funded. -/
theorem initChain_overfunded : Sample.fresh.initChain overfunded =
    (.error (.refused (.funding (.invalidCoins (.overflow nativeDenom)))),
      Sample.fresh.atGenesis) := by
  have passed : overfunded.validate Sample.fresh.chainId = .ok () := by decide
  rcases initChain_cases (show Sample.fresh.initialized = false from rfl) rfl overfunded with
    ⟨cause, reason, refused⟩ | ⟨_, ledger, _, _, _, loaded, _⟩
  · cases reason with
    | genesis broken =>
      rw [passed] at broken
      contradiction
    | funding _ denom exceeds =>
      have native : nativeDenom = denom := by
        by_contra other
        rw [listedTotal_overfunded, if_neg other] at exceeds
        exact absurd exceeds (by decide)
      rw [refused, native]
  · have fits : ledger.supply nativeDenom < 2 ^ 128 := ledger.total.units_lt nativeDenom
    rw [loaded.supply, listedTotal_overfunded, if_pos rfl] at fits
    exact absurd fits (by decide)

/-- Refused in the middle of its accounts, the document leaves the chain as it was, and another one
can be loaded. -/
theorem refusals_change_nothing_sample : create Sample.config = .ok Sample.fresh ∧
    (Sample.fresh.response (.call (.initChain overfunded))).refusal? =
      some (.funding (.invalidCoins (.overflow nativeDenom))) ∧
    Sample.fresh.afterRequest (.call (.initChain overfunded)) = Sample.fresh ∧
    (Sample.fresh.serve
      [.call (.initChain overfunded), .call (.initChain genesis)]).initialized = true := by
  have refused : (Sample.fresh.response (.call (.initChain overfunded))).refusal? =
      some (.funding (.invalidCoins (.overflow nativeDenom))) := by
    rw [response, reply, initChain_overfunded]
    rfl
  have same : Sample.fresh.afterRequest (.call (.initChain overfunded)) = Sample.fresh :=
    (refusals_change_nothing created []).1 _ _ refused
  obtain ⟨committed, _, _, _, ran⟩ := exists_loaded
  have reached :
      Sample.fresh.serve [.call (.initChain overfunded), .call (.initChain genesis)] =
        Sample.fresh.loaded committed := by
    change (Sample.fresh.afterRequest (.call (.initChain overfunded))).run [.initChain genesis] = _
    rw [same, ran]
  refine ⟨created, refused, same, ?_⟩
  rw [reached]
  rfl

end Sample

end TokenLedger.Chain
