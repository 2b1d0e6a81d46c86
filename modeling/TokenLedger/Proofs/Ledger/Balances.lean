import TokenLedger.Proofs.Coins.Arithmetic
import TokenLedger.Proofs.Ledger.Runs

/-!
# What the supply ledger does to balances

Each operation of the supply ledger by the units it moves. From a ledger whose coin sets are
well-formed, a credit, a debit and a transfer leave such a ledger, change the units of the accounts
they name and nothing else, and are refused exactly when units are missing or a sum does not fit.
-/

namespace TokenLedger

/-- A well-formed set has units exactly if it is not empty. -/
theorem Coins.WellFormed.isEmpty_eq_false_iff {coins : Coins} (formed : coins.WellFormed) :
    coins.isEmpty = false ↔ ∃ denom, 0 < coins.units denom := by
  rw [← Bool.not_eq_true, formed.isEmpty_iff, not_forall]
  refine exists_congr fun denom => ?_
  rw [Coins.units, Nat.pos_iff_ne_zero, not_iff_not, Amount.ext_iff]
  rfl

namespace Ledger

/-- The units of a denomination in an account. -/
def units (ledger : Ledger) (address : Address) (denom : String) : Nat :=
  (ledger.balance address).units denom

/-- The units of a denomination in the total supply. -/
def supply (ledger : Ledger) (denom : String) : Nat := ledger.total.units denom

/-- A ledger of well-formed coin sets. -/
structure Formed (ledger : Ledger) : Prop where
  /-- Every balance is well-formed. -/
  balance : ∀ address, (ledger.balance address).WellFormed
  /-- The total supply is well-formed. -/
  total : ledger.total.WellFormed

/-- A well-formed balance in place of another keeps the ledger well-formed. -/
theorem Formed.setBalance {ledger : Ledger} (formed : ledger.Formed) (address : Address)
    {coins : Coins} (coinsFormed : coins.WellFormed) :
    (ledger.setBalance address coins).Formed where
  balance other := by
    rw [balance_setBalance]
    split
    · exact coinsFormed
    · exact formed.balance other
  total := formed.total

/-- A balance set is the balance of its account and of no other. -/
theorem units_setBalance (ledger : Ledger) (address other : Address) (coins : Coins)
    (denom : String) : (ledger.setBalance address coins).units other denom =
      if other = address then coins.units denom else ledger.units other denom := by
  rw [units, balance_setBalance]
  split <;> rfl

end Ledger

namespace Supply

open TokenLedger.Action

variable {ε : Type} {ledger : Ledger}

/-- The record of a coin set reads as the set, and no record as the empty one. -/
theorem decode_coinsRecord? (coins : Coins) :
    (match Ledger.coinsRecord? coins with
      | none => .ok .empty
      | some record => decodeCoins record) = Except.ok coins := by
  unfold Ledger.coinsRecord?
  cases nothing : coins.isEmpty with
  | true =>
    have same : coins = .empty := by
      cases coins
      simpa [Coins.isEmpty, Coins.empty] using nothing
    rw [same]
    rfl
  | false =>
    change decodeCoins (JsonForm.writeBytes coins) = .ok coins
    rw [decodeCoins, (JsonForm.keeps_coins coins).readBytes?_writeBytes]

/-- Reading the record of a coin set yields the set. -/
theorem yields_record (ledger : Ledger) (coins : Coins) :
    (match Ledger.coinsRecord? coins with
      | none => pure .empty
      | some record => Action.ofFaulty (decodeCoins record) : Action ε Coins).Yields ledger coins
        ledger := by
  have decoded := decode_coinsRecord? coins
  cases present : Ledger.coinsRecord? coins with
  | none =>
    rw [present] at decoded
    injection decoded with same
    rw [← same]
    exact yields_pure ledger _
  | some record =>
    rw [present] at decoded
    exact yields_ofFaulty decoded

/-- The balance of an account is what the ledger says. -/
theorem yields_balance (ledger : Ledger) (address : Address) :
    (balance address : Action ε Coins).Yields ledger (ledger.balance address) ledger :=
  (yields_getKey ledger (.balance address)).then (yields_record ledger _)

/-- The total supply is what the ledger says. -/
theorem yields_total (ledger : Ledger) :
    (total : Action ε Coins).Yields ledger ledger.total ledger :=
  (yields_getKey ledger .total).then (yields_record ledger _)

/-- A balance is recorded under its account. -/
theorem yields_setBalance (ledger : Ledger) (address : Address) (coins : Coins) :
    (setBalance address coins : Action ε Unit).Yields ledger ()
      (ledger.setBalance address coins) := by
  have records := ledger.record?_setBalance address coins
  unfold Ledger.coinsRecord? at records
  unfold setBalance
  split
  · next nothing =>
    simp only [nothing, if_true] at records
    exact yields_deleteKey (.balance address) records
  · next filled =>
    simp only [filled] at records
    exact yields_setKey (.balance address) _ records

/-- A sum of coin sets is given or refused. -/
theorem runs_sum (ledger : Ledger) (held added : Coins) :
    (sum held added).Runs ledger
      (fun coins after emitted => held.add added = .ok coins ∧ ledger = after ∧ emitted = [])
      (fun cause => ∃ reason, held.add added = .error reason ∧ cause = .invalidCoins reason) := by
  unfold sum
  cases result : held.add added with
  | ok coins => exact (yields_pure ledger coins).runs ⟨rfl, rfl, rfl⟩
  | error reason => exact runs_refuse ⟨reason, rfl, rfl⟩

/-- A set of coins passes the check for well-formed ones, or is refused. -/
theorem runs_requireValid (ledger : Ledger) (amount : Coins) :
    (requireValid amount).Runs ledger
      (fun _ after emitted => amount.isValid = true ∧ ledger = after ∧ emitted = [])
      (fun cause => amount.isValid = false ∧ cause = .malformedCoins amount) := by
  unfold requireValid
  split
  · next valid => exact (yields_pure ledger ()).runs ⟨valid, rfl, rfl⟩
  · next invalid => exact runs_refuse ⟨by simpa using invalid, rfl⟩

/-! ## Crediting and debiting -/

/-- A credit adds units to an account; it is refused if some sum does not fit. -/
theorem runs_credit (formed : ledger.Formed) (address : Address) {amount : Coins}
    (valid : amount.isValid = true) :
    (credit address amount).Runs ledger
      (fun _ after emitted => emitted = [] ∧ after.Formed ∧
        ∃ coins, after = ledger.setBalance address coins ∧ ∀ denom,
          coins.units denom = ledger.units address denom + amount.units denom)
      (fun cause => ∃ denom, cause = .invalidCoins (.overflow denom) ∧
        2 ^ 128 ≤ ledger.units address denom + amount.units denom) := by
  unfold credit
  refine (yields_balance ledger address).bind ((runs_sum ledger _ amount).bind_refused ?_ ?_)
  · rintro cause ⟨reason, failed, rfl⟩
    obtain ⟨denom, rfl, exceeds⟩ := Coins.add_eq_error (formed.balance address).isValid valid failed
    exact ⟨denom, rfl, exceeds⟩
  · rintro coins _ _ ⟨added, rfl, rfl⟩
    obtain ⟨coinsFormed, units⟩ := Coins.add_eq_ok (formed.balance address).isValid valid added
    have left := formed.setBalance address coinsFormed
    exact (yields_setBalance ledger address coins).runs ⟨rfl, left, coins, rfl, units⟩

/-- A debit takes units from an account; it is refused if the account does not have them. -/
theorem runs_debit (formed : ledger.Formed) (address : Address) {amount : Coins}
    (valid : amount.isValid = true) :
    (debit address amount).Runs ledger
      (fun _ after emitted => emitted = [] ∧ after.Formed ∧
        ∃ rest, after = ledger.setBalance address rest ∧ ∀ denom,
          rest.units denom + amount.units denom = ledger.units address denom)
      (fun cause => (ledger.balance address).sub? amount = none ∧
        cause = .insufficientCoins (ledger.balance address) amount) := by
  unfold debit
  apply (yields_balance ledger address).bind
  cases result : (ledger.balance address).sub? amount with
  | none => exact runs_refuse ⟨rfl, rfl⟩
  | some rest =>
    obtain ⟨restFormed, units⟩ := Coins.sub?_eq_some (formed.balance address).isValid valid result
    have left := formed.setBalance address restFormed
    exact (yields_setBalance ledger address rest).runs ⟨rfl, left, rest, rfl, units⟩

/-- An inflation adds units to the total supply, of which there have to be some afterwards; it is
refused if some sum does not fit. -/
theorem runs_inflate (formed : ledger.Formed) {amount : Coins} (valid : amount.isValid = true)
    (filled : ∃ denom, 0 < ledger.supply denom + amount.units denom) :
    (inflate amount).Runs ledger
      (fun _ after emitted => emitted = [] ∧ after.Formed ∧
        ∃ coins, after = ledger.setTotal coins ∧ ∀ denom,
          coins.units denom = ledger.supply denom + amount.units denom)
      (fun cause => ∃ denom, cause = .invalidCoins (.overflow denom) ∧
        2 ^ 128 ≤ ledger.supply denom + amount.units denom) := by
  unfold inflate
  refine (yields_total ledger).bind ((runs_sum ledger _ amount).bind_refused ?_ ?_)
  · rintro cause ⟨reason, failed, rfl⟩
    obtain ⟨denom, rfl, exceeds⟩ := Coins.add_eq_error formed.total.isValid valid failed
    exact ⟨denom, rfl, exceeds⟩
  · rintro coins _ _ ⟨added, rfl, rfl⟩
    obtain ⟨coinsFormed, units⟩ := Coins.add_eq_ok formed.total.isValid valid added
    have held : coins.isEmpty = false := by
      obtain ⟨denom, positive⟩ := filled
      refine coinsFormed.isEmpty_eq_false_iff.mpr ⟨denom, ?_⟩
      rw [Coins.units, units]
      exact positive
    have records := ledger.record?_setTotal coins
    simp only [Ledger.coinsRecord?, held] at records
    have left : (ledger.setTotal coins).Formed := ⟨formed.balance, coinsFormed⟩
    exact (yields_setKey .total _ records).runs ⟨rfl, left, coins, rfl, units⟩

end Supply

end TokenLedger
