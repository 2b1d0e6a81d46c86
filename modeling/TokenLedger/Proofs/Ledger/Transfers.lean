import TokenLedger.Proofs.Ledger.Conservation
import TokenLedger.Proofs.Ledger.Readings

/-!
# Transfers are whole

A transfer writes the sender's balance before it adds up the recipient's. Where the balances sum to
the total supply that sum cannot leave its range, whatever else the store holds: with what was
taken, the two accounts held no more than there is, and what there is fits. So a transfer that takes
coins also gives them, and one that takes none changes nothing.
-/

namespace TokenLedger

/-- The records of a view say what each account holds, in valid coin sets. -/
structure View.Lists (view : View) (held : Address → Coins) : Prop where
  /-- Each account's record reads as what it holds. -/
  balance_eq : ∀ address, view.balance address = .ok (held address)
  /-- What an account holds is sorted and names denominations only, each once. -/
  valid : ∀ address, (held address).isValid = true

/-- They also say what there is, and the accounts hold all of it. -/
structure View.Sums (view : View) (held : Address → Coins) (total : Coins) : Prop
    extends view.Lists held where
  /-- The record of the total supply reads as what there is. -/
  totalSupply_eq : view.totalSupply = .ok total
  /-- What the accounts hold sums to what there is. -/
  conserves : ∀ denom, ∑ address, (held address).units denom = total.units denom

/-- A view of a balanced ledger says so. -/
theorem View.sums_of_holds {view : View} {ledger : Ledger} (holds : view.flatten.Holds ledger)
    (balanced : ledger.Balanced) : view.Sums ledger.balance ledger.total where
  balance_eq := balance_eq holds
  valid address := (balanced.formed.balance address).isValid
  totalSupply_eq := totalSupply_eq holds
  conserves := balanced.conserves

/-- The context after another balance of an account is recorded. -/
def Context.setBalance (context : Context) (address : Address) (coins : Coins) : Context :=
  { context with
    view := context.view.write ((Slot.balance address).key, Ledger.coinsRecord? coins) }

/-- Only the record of the account is written. -/
theorem Context.get_setBalance (context : Context) {address : Address} (coins : Coins) {key : Bytes}
    (other : (Slot.balance address).key ≠ key) :
    (context.setBalance address coins).view.get key = context.view.get key := by
  rw [setBalance, View.get_write, if_neg other]

/-- The record in the slot of the account is that of the balance; in other slots it has not changed. -/
theorem Context.getIn_setBalance (context : Context) (address : Address) (coins : Coins)
    (slot : Slot) :
    (context.setBalance address coins).view.getIn slot.storeName.keyStart slot.localKey =
      if Slot.balance address = slot then Ledger.coinsRecord? coins
      else context.view.getIn slot.storeName.keyStart slot.localKey := by
  by_cases same : Slot.balance address = slot
  · rw [if_pos same]
    exact (context.view.get_write _ slot.key).trans (if_pos (congrArg Slot.key same))
  · have keys : (Slot.balance address).key ≠ slot.key := fun equal =>
      same (Slot.key_injective equal)
    rw [if_neg same]
    exact context.get_setBalance coins keys

/-- The account's record reads as the balance recorded, and every other one as before. -/
theorem Context.lists_setBalance {context : Context} {held : Address → Coins}
    (lists : context.view.Lists held) (address : Address) {coins : Coins}
    (valid : coins.isValid = true) :
    (context.setBalance address coins).view.Lists (Function.update held address coins) where
  balance_eq other := by
    have read : (context.setBalance address coins).view.getIn StoreName.supply.keyStart
        (Supply.balanceKey other) = _ := context.getIn_setBalance address coins (.balance other)
    rw [View.balance, read, Function.update_apply]
    by_cases same : other = address
    · rw [if_pos (congrArg Slot.balance same.symm), if_pos same]
      exact Supply.decode_coinsRecord? coins
    · rw [if_neg fun slots => same (Slot.balance.inj slots).symm, if_neg same]
      exact lists.balance_eq other
  valid := (Function.forall_update_iff held fun _ coins => coins.isValid = true).mpr
    ⟨valid, fun other _ => lists.valid other⟩

/-- The record of the total supply is not that of an account. -/
theorem Context.totalSupply_setBalance (context : Context) (address : Address) (coins : Coins) :
    (context.setBalance address coins).view.totalSupply = context.view.totalSupply := by
  have read : (context.setBalance address coins).view.getIn StoreName.supply.keyStart
      Supply.totalKey = _ := context.getIn_setBalance address coins .total
  rw [View.totalSupply, read, if_neg Slot.noConfusion]
  rfl

namespace Supply

open TokenLedger.Action

variable {ε : Type} {context : Context} {address : Address} {held : Coins}

/-- Reading a balance gives what its record reads as. -/
theorem perform_balance (reads : context.view.balance address = .ok held) :
    (balance address : Action ε Coins).perform context = (.ok held, context) := by
  unfold View.balance at reads
  unfold balance readCoins
  rw [perform_bind_ok (perform_getKey .supply (balanceKey address) context)]
  generalize context.view.getIn StoreName.supply.keyStart (balanceKey address) = found at reads ⊢
  cases found with
  | none =>
    injection reads with same
    rw [← same]
    rfl
  | some record =>
    change decodeCoins record = .ok held at reads
    simp only [reads]
    rfl

/-- Recording a balance is one write. -/
theorem perform_setBalance (context : Context) (address : Address) (coins : Coins) :
    (setBalance address coins : Action ε Unit).perform context =
      (.ok (), context.setBalance address coins) := by
  unfold setBalance Context.setBalance Ledger.coinsRecord?
  split <;> rfl

/-- A debit of what the account has records what is left. -/
theorem perform_debit (reads : context.view.balance address = .ok held) {amount rest : Coins}
    (taken : held.sub? amount = some rest) :
    (debit address amount).perform context = (.ok (), context.setBalance address rest) := by
  unfold debit
  rw [perform_bind_ok (perform_balance reads), taken]
  exact perform_setBalance context address rest

/-- A debit of what the account does not have is refused and leaves everything. -/
theorem perform_debit_refused (reads : context.view.balance address = .ok held) {amount : Coins}
    (missing : held.sub? amount = none) :
    (debit address amount).perform context =
      (.error (.refused (.insufficientCoins held amount)), context) := by
  unfold debit
  rw [perform_bind_ok (perform_balance reads), missing]
  rfl

/-- A credit records the sum if there is one. -/
theorem perform_credit (reads : context.view.balance address = .ok held) {amount coins : Coins}
    (added : held.add amount = .ok coins) :
    (credit address amount).perform context = (.ok (), context.setBalance address coins) := by
  have summed : (sum held amount).perform context = (.ok coins, context) := by
    unfold sum
    rw [added]
    rfl
  unfold credit
  rw [perform_bind_ok (perform_balance reads), perform_bind_ok summed]
  exact perform_setBalance context address coins

/-! ## Transfers -/

/-- How a transfer of coins ends in a context where these are held. -/
inductive Transferred (context : Context) (held : Address → Coins) (total : Coins)
    (sender recipient : Address) (amount : Coins) : Except (Stop BaseError) Unit × Context → Prop
  /-- It is refused, and everything is as before. -/
  | refused {cause : BaseError} (reason : TransferRefused (held sender) amount cause) :
    Transferred context held total sender recipient amount (.error (.refused cause), context)
  /-- The sender has that much less and the recipient that much more; if they are the same account,
  it has what it had. No other record has changed. -/
  | moved {left : Address → Coins} {after : Context} (valid : amount.isValid = true)
    (sums : after.view.Sums left total)
    (units : ∀ address denom,
      (left address).units denom + Ledger.only sender amount.units address denom =
        (held address).units denom + Ledger.only recipient amount.units address denom)
    (records : ∀ key, (Slot.balance sender).key ≠ key → (Slot.balance recipient).key ≠ key →
      after.view.get key = context.view.get key)
    (height : after.height = context.height) (events : after.events = context.events) :
    Transferred context held total sender recipient amount (.ok (), after)

variable {holdings : Address → Coins} {total amount rest : Coins} {sender recipient : Address}

/-- What was taken from one account can be added to any account, be it the same. -/
theorem exists_credited (sums : context.view.Sums holdings total) (valid : amount.isValid = true)
    (taken : ∀ denom, rest.units denom + amount.units denom = (holdings sender).units denom)
    (debited : (context.setBalance sender rest).view.Lists (Function.update holdings sender rest))
    (recipient : Address) :
    ∃ coins, (Function.update holdings sender rest recipient).add amount = .ok coins ∧
      coins.isValid = true ∧ ∀ denom, coins.units denom =
        (Function.update holdings sender rest recipient).units denom + amount.units denom := by
  have fits := fun denom => units_add_lt (sums.conserves denom) sender recipient (taken denom)
  obtain ⟨coins, added⟩ := Coins.exists_add (debited.valid recipient) valid fits
  obtain ⟨formed, units⟩ := Coins.add_eq_ok (debited.valid recipient) valid added
  exact ⟨coins, added, formed.isValid, units⟩

/-- A credit after a debit of the same amount is not refused, and the amount has moved. -/
theorem exists_moved (sums : context.view.Sums holdings total) (valid : amount.isValid = true)
    (taken : (holdings sender).sub? amount = some rest) (recipient : Address) :
    ∃ after, (credit recipient amount).perform (context.setBalance sender rest) = (.ok (), after) ∧
      Transferred context holdings total sender recipient amount (.ok (), after) := by
  obtain ⟨restFormed, takenUnits⟩ := Coins.sub?_eq_some (sums.valid sender) valid taken
  have debited := Context.lists_setBalance sums.toLists sender restFormed.isValid
  obtain ⟨coins, added, coinsValid, addedUnits⟩ :=
    exists_credited sums valid takenUnits debited recipient
  have credited := Context.lists_setBalance debited recipient coinsValid
  have units := units_of_taken_added takenUnits addedUnits
  have still : ((context.setBalance sender rest).setBalance recipient coins).view.Sums
      (Function.update (Function.update holdings sender rest) recipient coins) total := by
    refine ⟨credited, ?_, fun denom => ?_⟩
    · rw [Context.totalSupply_setBalance, Context.totalSupply_setBalance]
      exact sums.totalSupply_eq
    · have moved := Finset.sum_congr rfl fun address (_ : address ∈ Finset.univ) =>
        units address denom
      rw [Finset.sum_add_distrib, Finset.sum_add_distrib, Ledger.sum_only, Ledger.sum_only,
        sums.conserves] at moved
      exact Nat.add_right_cancel moved
  refine ⟨_, perform_credit (debited.balance_eq recipient) added,
    .moved valid still units ?_ rfl rfl⟩
  intro key notSender notRecipient
  rw [Context.get_setBalance _ coins notRecipient, Context.get_setBalance _ rest notSender]

/-- A transfer is refused and leaves everything, or moves the amount. -/
theorem transferred (sums : context.view.Sums holdings total) (sender recipient : Address)
    (amount : Coins) : Transferred context holdings total sender recipient amount
      ((transfer sender recipient amount).perform context) := by
  have checks : (requireValid amount).perform context =
      if amount.isValid then (.ok (), context)
      else (.error (.refused (.malformedCoins amount)), context) := by
    unfold requireValid
    split <;> rfl
  unfold transfer
  cases valid : amount.isValid with
  | false =>
    rw [valid] at checks
    rw [perform_bind_error checks]
    exact .refused (.malformed valid)
  | true =>
    rw [valid] at checks
    rw [perform_bind_ok checks]
    cases taken : (holdings sender).sub? amount with
    | none =>
      have refused := perform_debit_refused (sums.balance_eq sender) taken
      rw [perform_bind_error refused]
      exact .refused (.insufficient valid taken)
    | some rest =>
      have debited := perform_debit (sums.balance_eq sender) taken
      obtain ⟨after, credited, moved⟩ := exists_moved sums valid taken recipient
      rw [perform_bind_ok debited, credited]
      exact moved

/-- Where the balances sum to the total supply, no transfer between an account and a declared module
loses coins, even if the account is the module's own. It is refused, for its amount or for lack of
coins, and everything is as before; or it moves exactly the amount, and no other record changes.
Once coins have been taken from an account, adding them to another one is not refused. -/
theorem transfers_whole {modules : ModuleAccounts} {name : String}
    {permissions : List ModulePermission} (declared : modules.permissions? name = some permissions)
    (sums : context.view.Sums holdings total) (account : Address) (amount : Coins) :
    Transferred context holdings total account (Address.ofModule name) amount
        ((sendToModule modules account name amount).perform context) ∧
      Transferred context holdings total (Address.ofModule name) account amount
        ((sendFromModule modules name account amount).perform context) ∧
      ∀ sender recipient debited, amount.isValid = true →
        (debit sender amount).perform context = (.ok (), debited) →
        ∃ after, (credit recipient amount).perform debited = (.ok (), after) := by
  rw [sendToModule_eq_transfer declared, sendFromModule_eq_transfer declared]
  refine ⟨transferred sums _ _ _, transferred sums _ _ _, ?_⟩
  intro sender recipient debited valid performed
  cases taken : (holdings sender).sub? amount with
  | none =>
    rw [perform_debit_refused (sums.balance_eq sender) taken] at performed
    exact absurd (congrArg Prod.fst performed) (by rintro ⟨⟩)
  | some rest =>
    rw [perform_debit (sums.balance_eq sender) taken] at performed
    obtain ⟨after, credited, _⟩ := exists_moved sums valid taken recipient
    rw [← (Prod.mk.inj performed).2]
    exact ⟨after, credited⟩

/-- An account can be funded from nothing. -/
theorem exists_funded (address : Address) {coins : Coins} (formed : coins.WellFormed)
    (filled : coins.isEmpty = false) : ∃ context : Context, ∃ ledger : Ledger,
      context.view.flatten.Holds ledger ∧ ledger.Balanced ∧
        ∀ denom, ledger.units address denom = coins.units denom := by
  have nothing : ∀ denom, Ledger.empty.supply denom = 0 := fun _ => rfl
  have present : ∃ denom, 0 < Ledger.empty.supply denom + coins.units denom := by
    obtain ⟨denom, positive⟩ := formed.isEmpty_eq_false_iff.mp filled
    exact ⟨denom, by omega⟩
  have ended := runs_fund Ledger.balanced_empty address present (.base ∅) ∅ 1 [] Store.holds_empty
  generalize (fund address coins).perform _ = final at ended
  cases ended with
  | @done _ after _ writes holds result =>
    obtain ⟨_, _, moved⟩ := result
    refine ⟨⟨.layer (.base ∅) writes, 1, []⟩, after, holds, ?_, fun denom => ?_⟩
    · exact moved.balanced Ledger.balanced_empty fun denom => by
        rw [Ledger.sum_only, Finset.sum_const_zero, Nat.zero_add]
    · have units := moved.units address denom
      have before : Ledger.empty.units address denom = 0 := rfl
      rw [Ledger.only, if_pos rfl] at units
      omega
  | refused reason =>
    cases reason with
    | malformed invalid => exact absurd formed.isValid (by rw [invalid]; exact Bool.false_ne_true)
    | overflow _ denom exceeds =>
      have fits := coins.units_lt denom
      rw [nothing] at exceeds
      omega

/-- An account that holds five coins sends them to the token module. -/
theorem transfers_whole_sample :
    let payer : Address := ⟨List.replicate 20 7, rfl⟩
    let coins : Coins := ⟨[⟨"btc", ⟨5, by decide⟩⟩]⟩
    ∃ context holdings total after left,
      ModuleAccounts.standard.permissions? ModuleAccounts.asset = some [.minter] ∧
      View.Sums (Context.view context) holdings total ∧
      (sendToModule .standard payer ModuleAccounts.asset coins).perform context = (.ok (), after) ∧
      after.view.Sums left total := by
  intro payer coins
  have formed : coins.WellFormed := (Coins.wellFormed_of_tests (by decide) (by decide)).1
  obtain ⟨context, ledger, holds, balanced, units⟩ := exists_funded payer formed rfl
  have declared : ModuleAccounts.standard.permissions? ModuleAccounts.asset = some [.minter] := by
    decide
  have sums := View.sums_of_holds holds balanced
  have ended := (transfers_whole declared sums payer coins).1
  have covered : ∀ denom, coins.units denom ≤ (ledger.balance payer).units denom := fun denom =>
    Nat.le_of_eq (units denom).symm
  obtain ⟨rest, taken⟩ := Coins.exists_sub? (balanced.formed.balance payer) formed covered
  generalize performed : (sendToModule _ payer _ coins).perform context = final at ended
  cases ended with
  | @moved left after _ still _ _ _ _ =>
    exact ⟨context, _, _, after, left, declared, sums, performed, still⟩
  | refused reason =>
    cases reason with
    | malformed invalid => exact absurd formed.isValid (by rw [invalid]; exact Bool.false_ne_true)
    | insufficient _ missing => exact absurd (missing.symm.trans taken) (by rintro ⟨⟩)

end Supply

end TokenLedger
