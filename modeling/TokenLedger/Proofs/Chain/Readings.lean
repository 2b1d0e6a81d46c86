import TokenLedger.Proofs.Chain.Parameters
import TokenLedger.Proofs.Ledger.Readings

/-!
# Everything that a view reads as

Balances, the total supply, the tokens and the parameters are all that a view has to tell. In every
reachable open block all of its records can be read, and each in one way, so what a message does can
be told by what the block reads as before and afterwards.
-/

namespace TokenLedger

/-- What the records of a view read as. -/
structure Reading where
  /-- What each account holds. -/
  balance : Address → Coins
  /-- The total supply. -/
  total : Coins
  /-- The token of each symbol, if there is one. -/
  token : String → Option Token
  /-- The parameters. -/
  params : Params

/-- Every record of a view can be read, and reads as told. -/
structure View.ReadsAs (view : View) (reading : Reading) : Prop where
  /-- The balances. -/
  balance : ∀ address, view.balance address = .ok (reading.balance address)
  /-- The total supply. -/
  total : view.totalSupply = .ok reading.total
  /-- The tokens. -/
  token : ∀ symbol, view.token symbol = .ok (reading.token symbol)
  /-- The parameters. -/
  params : view.params = .ok reading.params

/-- A view reads in one way. -/
theorem View.ReadsAs.unique {view : View} {first second : Reading} (left : view.ReadsAs first)
    (right : view.ReadsAs second) : first = second := by
  have balance : first.balance = second.balance := funext fun address =>
    Except.ok.inj ((left.balance address).symm.trans (right.balance address))
  have total : first.total = second.total := Except.ok.inj (left.total.symm.trans right.total)
  have token : first.token = second.token := funext fun symbol =>
    Except.ok.inj ((left.token symbol).symm.trans (right.token symbol))
  have params : first.params = second.params :=
    Except.ok.inj (left.params.symm.trans right.params)
  cases first
  cases second
  simp_all

/-- What a ledger with some parameters reads as. -/
def Ledger.reading (ledger : Ledger) (params : Params) : Reading where
  balance := ledger.balance
  total := ledger.total
  token := ledger.token
  params

/-- A view that holds a ledger in use reads as the ledger. -/
theorem Ledger.Sound.readsAs {view : View} {ledger : Ledger} {params : Params}
    (sound : ledger.Sound params) (holds : view.flatten.Holds ledger) :
    view.ReadsAs (ledger.reading params) where
  balance := View.balance_eq holds
  total := View.totalSupply_eq holds
  token := View.token_eq holds sound.registered
  params := View.params_eq holds sound.configured

namespace Chain

/-- After any requests to a chain that was created, an open block holds a ledger in use, and the
registry is that of the schedule at the height of the block. -/
theorem exists_open_of_serve {config : NodeConfig} {fresh : Chain}
    (created : create config = .ok fresh) (requests : List Request) {block : OpenBlock}
    (isOpen : (fresh.serve requests).block = some block) :
    ∃ ledger params, (fresh.serve requests).Processes block ledger ∧ ledger.Sound params ∧
      (fresh.serve requests).registry = config.upgrades.registry.atHeight block.height := by
  obtain ⟨ledger, params, processes, sound⟩ :=
    ((sound_create created).serve requests).pending block isOpen
  refine ⟨ledger, params, processes, sound, ?_⟩
  rw [← currentHeight_of_open isOpen]
  obtain ⟨calls, same⟩ := exists_serve_eq_run fresh requests
  rw [same]
  exact registry_run created calls

end Chain

end TokenLedger
