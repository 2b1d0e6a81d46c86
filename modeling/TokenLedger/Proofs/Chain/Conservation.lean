import TokenLedger.Proofs.Chain.Invariant
import TokenLedger.Proofs.Ledger.Readings

/-!
# Conservation of coins in every run

Stated of the records themselves, as bytes under their keys: in whatever run of a chain, with calls
that succeed and calls that fail, the records of balances sum to the record of the total supply, for
each denomination. All of them are well-formed coin sets, and no record stands for an empty one.
-/

namespace TokenLedger

variable {ledger : Ledger}

namespace View

/-- What the supply records of a view read as: the total supply, which is empty without a record,
and the balances that are recorded. -/
structure Records (view : View) (total : Coins) (balances : List AccountBalance) : Prop where
  /-- The record of the total supply. -/
  total : view.totalSupply = .ok total
  /-- The records of balances. -/
  balances : Supply.decodeBalances
    (view.scanIn StoreName.supply.keyStart Supply.balanceStart) = .ok balances

/-- Supply records in which no coin is lost or made up. -/
structure Conserves (view : View) (total : Coins) (balances : List AccountBalance) : Prop where
  /-- This is what they read as. -/
  records : view.Records total balances
  /-- The total supply is well-formed. -/
  totalFormed : total.WellFormed
  /-- Each balance is well-formed. -/
  balancesFormed : ∀ balance ∈ balances, balance.coins.WellFormed
  /-- No balance is empty. -/
  filled : ∀ balance ∈ balances, balance.coins.isEmpty = false
  /-- No account is recorded twice. -/
  accounts : balances.Pairwise fun left right => left.address ≠ right.address
  /-- The balances sum to the total supply. -/
  sum_units : ∀ denom,
    (balances.map fun balance => balance.coins.units denom).sum = total.units denom

/-- The supply records of a ledger read as its balances and its total supply. -/
theorem exists_records {view : View} (holds : view.flatten.Holds ledger) :
    ∃ balances, ledger.Balances balances ∧ view.Records ledger.total balances := by
  obtain ⟨balances, listed, decoded⟩ := exists_balances holds
  exact ⟨balances, listed, totalSupply_eq holds, decoded⟩

/-- The supply records of a balanced ledger conserve coins. -/
theorem exists_conserves {view : View} (holds : view.flatten.Holds ledger)
    (balanced : ledger.Balanced) : ∃ total balances, view.Conserves total balances := by
  obtain ⟨balances, listed, records⟩ := exists_records holds
  have held : ∀ balance ∈ balances, balance.coins = ledger.balance balance.address ∧
      balance.coins.isEmpty = false := fun balance member => (listed.mem_iff balance).mp member
  refine ⟨ledger.total, balances, records, balanced.formed.total, fun balance member => ?_,
    fun balance member => (held balance member).2, listed.accounts, listed.listedTotal_eq balanced⟩
  rw [(held balance member).1]
  exact balanced.formed.balance balance.address

end View

namespace Chain

variable {chain : Chain}

/-- The views of a chain: its committed store, and that store through the writes of the open
block. -/
inductive Shows (chain : Chain) : View → Prop
  /-- The committed store. -/
  | committed : chain.Shows (.base chain.committed)
  /-- The store through the open block. -/
  | pending {block : OpenBlock} (isOpen : chain.block = some block) :
    chain.Shows (block.view chain.committed)

/-- The views of a sound chain hold the empty ledger or ledgers in use. -/
theorem Sound.exists_ledger (sound : chain.Sound) {view : View} (shown : chain.Shows view) :
    ∃ ledger, view.flatten.Holds ledger ∧
      (ledger = Ledger.empty ∨ ∃ params, ledger.Sound params) := by
  cases shown with
  | committed =>
    cases initialized : chain.initialized with
    | false =>
      rw [(sound.unloaded initialized).1]
      exact ⟨Ledger.empty, Store.holds_empty, .inl rfl⟩
    | true =>
      obtain ⟨ledger, params, holds, ledgerSound⟩ := sound.committed initialized
      exact ⟨ledger, holds, .inr ⟨params, ledgerSound⟩⟩
  | pending isOpen =>
    obtain ⟨ledger, params, processes, ledgerSound⟩ := sound.pending _ isOpen
    exact ⟨ledger, processes.holds, .inr ⟨params, ledgerSound⟩⟩

/-- The views of a sound chain hold balanced ledgers. -/
theorem Sound.exists_balanced (sound : chain.Sound) {view : View} (shown : chain.Shows view) :
    ∃ ledger, view.flatten.Holds ledger ∧ ledger.Balanced := by
  obtain ⟨ledger, holds, rfl | ⟨params, ledgerSound⟩⟩ := sound.exists_ledger shown
  · exact ⟨Ledger.empty, holds, Ledger.balanced_empty⟩
  · exact ⟨ledger, holds, ledgerSound.balanced⟩

/-- In every run of a chain that was created, the committed store and the store through the open
block conserve coins. -/
theorem conserves_of_shows {config : NodeConfig} {fresh : Chain}
    (created : create config = .ok fresh) (calls : List Call) {view : View}
    (shown : (fresh.run calls).Shows view) :
    ∃ total balances, view.Conserves total balances := by
  obtain ⟨ledger, holds, balanced⟩ := ((sound_create created).run calls).exists_balanced shown
  exact View.exists_conserves holds balanced

/-- Blocks with a rejected message conserve coins. -/
theorem conserves_sample_committed : ∃ total balances, (View.base (Sample.fresh.run
    [.initChain Sample.genesis, .beginBlock 1, .deliver (.issue Sample.shortIssue),
      .deliver (.mint Sample.shortMint), .endBlock, .commit]).committed).Conserves total balances :=
  conserves_of_shows Sample.created _ .committed

end Chain

end TokenLedger
