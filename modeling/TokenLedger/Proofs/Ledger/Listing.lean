import TokenLedger.Proofs.Ledger.Sound

/-!
# The accounts and tokens that a scan lists

A scan lists the records under the first bytes of their keys, ascending. Under the byte of balances
these are the accounts that hold something, each with its coins, and under the byte of tokens the
tokens, so both lists are what the ledger says and in strict order.
-/

namespace TokenLedger

variable {view : View} {ledger : Ledger}

/-- The key of a balance ends with the address. -/
theorem Slot.key_balance (address : Address) :
    (Slot.balance address).key =
      StoreName.supply.keyStart ++ Supply.balanceStart ++ address.bytes := by
  rw [List.append_assoc]
  rfl

/-- The key of a token ends with the symbol. -/
theorem Slot.key_token (symbol : String) :
    (Slot.token symbol).key =
      StoreName.asset.keyStart ++ TokenBook.keyStart ++ Bytes.utf8 symbol := by
  rw [List.append_assoc]
  rfl

/-! ## Lists that are read -/

open TokenLedger.Action

variable {ε : Type} {params : Params}

/-- The accounts of a ledger that hold something, with what they hold, by ascending address. -/
structure Ledger.Balances (ledger : Ledger) (listed : List AccountBalance) : Prop where
  /-- The addresses ascend. -/
  ascend : listed.Pairwise fun left right => left.address.bytes < right.address.bytes
  /-- An account is listed with what it holds, if that is something. -/
  mem_iff : ∀ balance, balance ∈ listed ↔
    balance.coins = ledger.balance balance.address ∧ balance.coins.isEmpty = false

/-- The tokens of a ledger by ascending symbol. -/
structure Ledger.Tokens (ledger : Ledger) (listed : List Token) : Prop where
  /-- The symbols ascend. -/
  ascend : listed.Pairwise fun left right => Bytes.utf8 left.symbol < Bytes.utf8 right.symbol
  /-- A token is listed if it stands under its symbol. -/
  mem_iff : ∀ token, token ∈ listed ↔ ledger.token token.symbol = some token

/-- The records of balances read as what the accounts hold. -/
theorem Supply.decodeBalances_map (ledger : Ledger) (accounts : List Address) :
    decodeBalances (accounts.map fun address =>
      (balanceKey address, JsonForm.writeBytes (ledger.balance address))) =
      .ok (accounts.map fun address => ⟨address, ledger.balance address⟩) := by
  induction accounts with
  | nil => rfl
  | cons address rest ih =>
    have key : (balanceKey address).drop balanceStart.length = address.bytes := rfl
    have coins := (JsonForm.keeps_coins (ledger.balance address)).readBytes?_writeBytes
    simp only [List.map_cons, decodeBalances, key, Address.ofBytes?_bytes, decodeCoins, coins, ih]
    rfl

/-- The entries of the balances of a view read as the balances of the ledger. -/
theorem View.exists_balances (holds : view.flatten.Holds ledger) :
    ∃ listed, ledger.Balances listed ∧ Supply.decodeBalances
      (view.scanIn StoreName.supply.keyStart Supply.balanceStart) = .ok listed := by
  have inside (address : Address) (filled : (ledger.balance address).isEmpty = false) :
      Supply.balanceStart <+: Supply.balanceKey address ∧
        view.getIn StoreName.supply.keyStart (Supply.balanceKey address) =
          some (JsonForm.writeBytes (ledger.balance address)) := by
    have found := getIn_slot holds (.balance address)
    rw [Ledger.record?, Ledger.coinsRecord?, filled] at found
    exact ⟨List.prefix_append _ _, found⟩
  have family (key : Bytes) (starts : Supply.balanceStart <+: key)
      (present : view.getIn StoreName.supply.keyStart key ≠ none) :
      ∃ address, (ledger.balance address).isEmpty = false ∧ Supply.balanceKey address = key := by
    obtain ⟨slot, store, rfl⟩ := exists_slot_of_getIn holds present
    have found := getIn_slot holds slot
    rw [store] at found
    cases slot with
    | balance address =>
      refine ⟨address, ?_, rfl⟩
      by_contra filled
      rw [Bool.not_eq_false] at filled
      rw [Ledger.record?, Ledger.coinsRecord?, filled] at found
      exact present found
    | total => exact absurd starts (by decide)
    | maxDecimal | issueFee | mintFee | token => contradiction
  have distinct (left right : Address) (_ : (ledger.balance left).isEmpty = false)
      (_ : (ledger.balance right).isEmpty = false)
      (same : Supply.balanceKey left = Supply.balanceKey right) : left = right :=
    Address.ext_bytes (List.append_cancel_left same)
  have answers := view.answersIn StoreName.supply.keyStart
  obtain ⟨accounts, scanned, ascend, members⟩ :=
    answers.exists_listing Supply.balanceStart _ _ _ inside family distinct
  have listed :
      ledger.Balances (accounts.map fun address => ⟨address, ledger.balance address⟩) := by
    refine ⟨?_, fun balance => ?_⟩
    · rw [List.pairwise_map]
      exact ascend.imp fun {left right} before =>
        (Bytes.append_lt_append_iff Supply.balanceStart left.bytes right.bytes).mp before
    · obtain ⟨address, coins⟩ := balance
      simp only [List.mem_map, AccountBalance.mk.injEq]
      constructor
      · rintro ⟨other, member, rfl, rfl⟩
        exact ⟨rfl, (members other).mp member⟩
      · rintro ⟨rfl, filled⟩
        exact ⟨address, (members address).mpr filled, rfl, rfl⟩
  refine ⟨_, listed, ?_⟩
  rw [scanned]
  exact Supply.decodeBalances_map ledger accounts

/-- The balances that are listed are those of the ledger. -/
theorem Supply.runs_balances (ledger : Ledger) :
    (Supply.balances : Action ε (List AccountBalance)).Runs ledger
      (fun listed after emitted => ledger.Balances listed ∧ ledger = after ∧ emitted = [])
      fun _ => False := by
  intro under writes height events holds
  obtain ⟨listed, balances, decoded⟩ := View.exists_balances holds
  unfold Supply.balances
  rw [perform_bind, perform_scanKeys]
  simp only [decoded]
  exact .quiet writes holds ⟨balances, rfl, rfl⟩

/-- The tokens that are listed are those of the ledger. -/
theorem TokenBook.runs_list (registered : ledger.Registered) :
    (TokenBook.list : Action ε (List Token)).Runs ledger
      (fun listed after emitted => ledger.Tokens listed ∧ ledger = after ∧ emitted = [])
      fun _ => False := by
  intro under writes height events holds
  let context : Context := ⟨.layer under writes, height, events⟩
  have book : context.view.HoldsTokens ledger.token := registered.holdsTokens holds
  obtain ⟨tokens, listed, ascend, members⟩ := book.exists_perform_list (ε := ε)
  rw [listed]
  exact .quiet writes holds ⟨⟨ascend, members⟩, rfl, rfl⟩

end TokenLedger
