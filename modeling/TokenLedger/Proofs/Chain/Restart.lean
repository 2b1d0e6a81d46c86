import TokenLedger.Proofs.Chain.Denominations
import TokenLedger.Proofs.Chain.Steps

/-!
# Restarting a chain from its own export

A chain with no block open exports a document that a chain with the same settings accepts, and that
puts the same records into its store: those of the total supply, too, which the document does not
carry.
-/

namespace TokenLedger.Chain

open TokenLedger.Action

variable {chain : Chain} {ledger : Ledger} {params : Params}

/-- With no block open, the document of the committed ledger is exported. -/
theorem exists_exportGenesis (holds : chain.committed.Holds ledger) (sound : ledger.Sound params)
    (closed : chain.block = none) :
    ∃ genesis, chain.exportGenesis = .ok genesis ∧ genesis.Describes chain.chainId ledger ∧
      genesis.asset.params = params := by
  rcases read_of_runs holds (Genesis.runs_save (ε := ChainError) sound chain.chainId) with
    ⟨genesis, _, _, exported, describes, same, _⟩ | ⟨_, _, never⟩
  · unfold exportGenesis
    rw [closed]
    exact ⟨genesis, exported, describes, same⟩
  · exact never.elim

/-- After any run of a chain that has loaded a genesis document, with no block open, the export is a
document that passes its checks, that a chain of the same settings loads, and that leaves the store
which was exported. -/
theorem initChain_exportGenesis {config : NodeConfig} {fresh : Chain}
    (created : create config = .ok fresh) (calls : List Call)
    (initialized : (fresh.run calls).initialized = true) (closed : (fresh.run calls).block = none) :
    ∃ genesis result restarted, (fresh.run calls).exportGenesis = .ok genesis ∧
      genesis.validate config.chainId = .ok () ∧
      fresh.initChain genesis = (.ok result, restarted) ∧
      restarted.committed = (fresh.run calls).committed := by
  obtain ⟨ledger, params, holds, sound⟩ := ((sound_create created).run calls).committed initialized
  obtain ⟨genesis, exported, describes, same⟩ := exists_exportGenesis holds sound closed
  rw [chainId_run] at describes
  obtain ⟨_, registry, _, rfl⟩ := eq_beginning_of_create created
  have passed : genesis.validate config.chainId = .ok () :=
    (Genesis.validate_eq_ok_iff _ _).mpr ⟨.inr describes.chainId, describes.loadable sound same⟩
  have fits : ∀ denom, Genesis.listedTotal genesis.balances denom < 2 ^ 128 := fun denom => by
    rw [describes.balances.listedTotal_eq sound.balanced]
    exact ledger.total.units_lt denom
  obtain ⟨committed, loaded, result, loadedHolds, given, done⟩ :=
    exists_initChain (beginning config registry) rfl rfl passed fits
  refine ⟨genesis, result, _, exported, passed, done, ?_⟩
  rw [describes.loaded_eq sound given] at loadedHolds
  exact loadedHolds.eq holds

namespace Sample

/-- The calls of a block in which a token of a thousand units is issued, before its commit. -/
def barkBlock : List Call := [.beginBlock 1, .deliver (.issue barkIssue), .endBlock]

/-- With its document loaded first and a commit made last, the chain can be exported, whatever it
worked on in between. -/
theorem settled (work : List Call) :
    (fresh.run ([.initChain genesis] ++ work ++ [.commit])).initialized = true ∧
      (fresh.run ([.initChain genesis] ++ work ++ [.commit])).block = none := by
  obtain ⟨committed, _, _, _, ran⟩ := exists_loaded
  have sound := (sound_create created).run [.initChain genesis]
  have loaded : (fresh.run [.initChain genesis]).initialized = true := by
    rw [ran]
    rfl
  constructor
  · rw [List.append_assoc, run_append]
    exact sound.initialized_run loaded (work ++ [.commit])
  · rw [run_append]
    exact block_after_commit (fresh.run ([.initChain genesis] ++ work))

end Sample

/-- A chain that has committed a block in which a token was issued can be restarted. -/
theorem initChain_exportGenesis_sample :
    let calls := [.initChain Sample.genesis] ++ Sample.barkBlock ++ [.commit]
    (∃ issued, Sample.inFirstBlock.deliver (.issue Sample.barkIssue) =
      (.ok (.accepted [Issuance.createdEvent (.issue Sample.barkIssue)]), issued)) ∧
    (Sample.fresh.run calls).initialized = true ∧ (Sample.fresh.run calls).block = none ∧
    ∃ genesis result restarted, (Sample.fresh.run calls).exportGenesis = .ok genesis ∧
      genesis.validate Sample.config.chainId = .ok () ∧
      Sample.fresh.initChain genesis = (.ok result, restarted) ∧
      restarted.committed = (Sample.fresh.run calls).committed := by
  obtain ⟨_, _, _, delivered⟩ := Sample.exists_deliver_barkIssue
  obtain ⟨initialized, closed⟩ := Sample.settled Sample.barkBlock
  exact ⟨⟨_, delivered⟩, initialized, closed,
    initChain_exportGenesis Sample.created _ initialized closed⟩

end TokenLedger.Chain
