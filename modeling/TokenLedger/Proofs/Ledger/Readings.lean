import TokenLedger.Proofs.Ledger.Listing
import TokenLedger.Proofs.Ledger.Balances

/-!
# What the records of a view read as

A view of a store gives bytes. Read as the ledger reads them, its records of tokens, of balances and
of the total supply are those of the ledger that the view holds.
-/

namespace TokenLedger.View

variable {view : View} {ledger : Ledger}

/-- The token that the record under a symbol reads as, if there is one. -/
def token (view : View) (symbol : String) : Except Fault (Option Token) :=
  match view.getIn StoreName.asset.keyStart (TokenBook.keyOf symbol) with
  | none => .ok none
  | some record => (Token.decode record).map some

/-- The coin set that the record of the total supply reads as; without a record it is empty. -/
def totalSupply (view : View) : Except Fault Coins :=
  match view.getIn StoreName.supply.keyStart Supply.totalKey with
  | none => .ok .empty
  | some record => Supply.decodeCoins record

/-- The coin set that the record of an account reads as; without a record it is empty. -/
def balance (view : View) (address : Address) : Except Fault Coins :=
  match view.getIn StoreName.supply.keyStart (Supply.balanceKey address) with
  | none => .ok .empty
  | some record => Supply.decodeCoins record

/-- The token that is read under a symbol is that of the ledger, if tokens stand under their
symbols. -/
theorem token_eq (holds : view.flatten.Holds ledger) (registered : ledger.Registered)
    (symbol : String) : view.token symbol = .ok (ledger.token symbol) := by
  have read : view.getIn StoreName.asset.keyStart (TokenBook.keyOf symbol) =
      (ledger.token symbol).map Token.encode := getIn_slot holds (.token symbol)
  rw [token, read]
  cases found : ledger.token symbol with
  | none => rfl
  | some stored =>
    have storable := (registered symbol stored found).2
    simp only [Option.map_some, storable.decode_encode]
    rfl

/-- The total supply that is read is that of the ledger. -/
theorem totalSupply_eq (holds : view.flatten.Holds ledger) :
    view.totalSupply = .ok ledger.total := by
  have read : view.getIn StoreName.supply.keyStart Supply.totalKey =
      Ledger.coinsRecord? ledger.total := getIn_slot holds .total
  rw [totalSupply, read]
  exact Supply.decode_coinsRecord? ledger.total

/-- What is read of an account is what the account holds. -/
theorem balance_eq (holds : view.flatten.Holds ledger) (address : Address) :
    view.balance address = .ok (ledger.balance address) := by
  have read : view.getIn StoreName.supply.keyStart (Supply.balanceKey address) =
      Ledger.coinsRecord? (ledger.balance address) := getIn_slot holds (.balance address)
  rw [balance, read]
  exact Supply.decode_coinsRecord? (ledger.balance address)

end TokenLedger.View
