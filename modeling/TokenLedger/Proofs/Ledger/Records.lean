import Mathlib.Algebra.Ring.Nat
import Mathlib.Logic.Function.Basic
import TokenLedger.Proofs.Address
import TokenLedger.Proofs.Json.Forms
import TokenLedger.Proofs.Store.Namespaces
import TokenLedger.Genesis

/-!
# The records of a ledger

A ledger is what the records of a store say: parameters, the total supply, balances and tokens. Each
record has a slot, and the keys of different slots differ, so a store that holds a ledger and
nothing else is determined by it. Coin sets without coins have no record.
-/

namespace TokenLedger

/-- What the records of a store say. -/
@[ext]
structure Ledger where
  /-- The greatest number of decimal places, if it is set. -/
  maxDecimal : Option Int8
  /-- The fee for issuing, if it is set. -/
  issueFee : Option Coins
  /-- The fee for minting, if it is set. -/
  mintFee : Option Coins
  /-- The total supply. -/
  total : Coins
  /-- What each account holds. -/
  balance : Address → Coins
  /-- The token of each symbol. -/
  token : String → Option Token

/-- A place for a record. -/
inductive Slot where
  /-- The greatest number of decimal places. -/
  | maxDecimal
  /-- The fee for issuing. -/
  | issueFee
  /-- The fee for minting. -/
  | mintFee
  /-- The total supply. -/
  | total
  /-- What an account holds. -/
  | balance (address : Address)
  /-- The token of a symbol. -/
  | token (symbol : String)
  deriving DecidableEq

namespace Slot

/-- The store of a slot. -/
def storeName : Slot → StoreName
  | .maxDecimal | .issueFee | .mintFee => .params
  | .total | .balance _ => .supply
  | .token _ => .asset

/-- The key of a slot inside its store. -/
def localKey : Slot → Bytes
  | .maxDecimal => Params.subspace.keyBytes Params.maxDecimalKey
  | .issueFee => Params.subspace.keyBytes Params.issueFeeKey
  | .mintFee => Params.subspace.keyBytes Params.mintFeeKey
  | .total => Supply.totalKey
  | .balance address => Supply.balanceKey address
  | .token symbol => TokenBook.keyOf symbol

/-- The key of a slot. -/
def key (slot : Slot) : Bytes := slot.storeName.keyStart ++ slot.localKey

/-- Keys of two stores never agree. -/
theorem storeName_eq_of_append {left right : StoreName} {front back : Bytes}
    (same : left.keyStart ++ front = right.keyStart ++ back) : left = right := by
  by_contra differ
  exact (StoreName.apart_keyStart differ).append_ne front back same

/-- Slots of one key are the same. -/
theorem key_injective {left right : Slot} (same : left.key = right.key) : left = right := by
  have names := storeName_eq_of_append same
  have keys : left.localKey = right.localKey := by
    rw [key, key, names] at same
    exact List.append_cancel_left same
  cases left <;> cases right <;> first
    | rfl
    | exact StoreName.noConfusion names
    | exact absurd keys (by decide)
    | skip
  case total.balance => exact absurd (List.cons.inj keys).1 (by decide)
  case balance.total => exact absurd (List.cons.inj keys).1 (by decide)
  case balance.balance => exact congrArg Slot.balance (Address.ext_bytes (List.cons.inj keys).2)
  case token.token => exact congrArg Slot.token (Bytes.utf8_injective (List.cons.inj keys).2)

end Slot

namespace Ledger

/-- The ledger before anything is recorded. -/
def empty : Ledger where
  maxDecimal := none
  issueFee := none
  mintFee := none
  total := .empty
  balance _ := .empty
  token _ := none

/-- The record of a coin set; without coins there is none. -/
def coinsRecord? (coins : Coins) : Option Bytes :=
  if coins.isEmpty then none else some (JsonForm.writeBytes coins)

/-- The record in a slot. -/
def record? (ledger : Ledger) : Slot → Option Bytes
  | .maxDecimal => ledger.maxDecimal.map JsonForm.writeBytes
  | .issueFee => ledger.issueFee.map JsonForm.writeBytes
  | .mintFee => ledger.mintFee.map JsonForm.writeBytes
  | .total => coinsRecord? ledger.total
  | .balance address => coinsRecord? (ledger.balance address)
  | .token symbol => (ledger.token symbol).map Token.encode

/-- The ledger with another balance of an account. -/
def setBalance (ledger : Ledger) (address : Address) (coins : Coins) : Ledger :=
  { ledger with balance := Function.update ledger.balance address coins }

/-- The ledger with another total supply. -/
def setTotal (ledger : Ledger) (coins : Coins) : Ledger := { ledger with total := coins }

/-- The ledger with a token under its symbol. -/
def setToken (ledger : Ledger) (token : Token) : Ledger :=
  { ledger with token := Function.update ledger.token token.symbol (some token) }

/-- The ledger with other parameters. -/
def setParams (ledger : Ledger) (params : Params) : Ledger :=
  { ledger with
    maxDecimal := some params.maxDecimal
    issueFee := some params.issueFee
    mintFee := some params.mintFee }

/-- A balance set is that of its account and of no other. -/
theorem balance_setBalance (ledger : Ledger) (address other : Address) (coins : Coins) :
    (ledger.setBalance address coins).balance other =
      if other = address then coins else ledger.balance other :=
  Function.update_apply ..

/-- A token set is that of its symbol and of no other. -/
theorem token_setToken (ledger : Ledger) (token : Token) (symbol : String) :
    (ledger.setToken token).token symbol =
      if symbol = token.symbol then some token else ledger.token symbol :=
  Function.update_apply ..

end Ledger

/-- A store that holds the records of a ledger and nothing else. -/
structure Store.Holds (store : Store) (ledger : Ledger) : Prop where
  /-- Each slot has its record. -/
  find?_key : ∀ slot : Slot, store.find? slot.key = ledger.record? slot
  /-- Each record stands in a slot. -/
  exists_slot : ∀ key, store.find? key ≠ none → ∃ slot : Slot, slot.key = key

namespace Store

/-- The empty store holds the empty ledger. -/
theorem holds_empty : Store.Holds ∅ Ledger.empty where
  find?_key slot := by cases slot <;> rfl
  exists_slot key found := absurd rfl found

/-- Stores that hold one ledger are the same. -/
theorem Holds.eq {left right : Store} {ledger : Ledger} (leftHolds : left.Holds ledger)
    (rightHolds : right.Holds ledger) : left = right := by
  refine KeyMap.ext_find? fun key => ?_
  by_cases slotted : ∃ slot : Slot, slot.key = key
  · obtain ⟨slot, rfl⟩ := slotted
    rw [leftHolds.find?_key, rightHolds.find?_key]
  · have absent {store : Store} (holds : store.Holds ledger) : store.find? key = none := by
      by_contra found
      exact slotted (holds.exists_slot key found)
    rw [absent leftHolds, absent rightHolds]

/-- A write to a slot changes the ledger in that slot. -/
theorem Holds.applyWrite {store : Store} {ledger after : Ledger} (holds : store.Holds ledger)
    (slot : Slot) (change : Option Bytes)
    (records : ∀ other, after.record? other =
      if slot = other then change else ledger.record? other) :
    (store.applyWrite (slot.key, change)).Holds after where
  find?_key other := by
    rw [find?_applyWrite, records, holds.find?_key]
    by_cases same : slot = other
    · rw [same, if_pos rfl, if_pos rfl]
    · have keys : ¬ slot.key = other.key := fun equal => same (Slot.key_injective equal)
      rw [if_neg same, if_neg keys]
  exists_slot key found := by
    rw [find?_applyWrite] at found
    by_cases same : slot.key = key
    · exact ⟨slot, same⟩
    · rw [if_neg same] at found
      exact holds.exists_slot key found

end Store

namespace Ledger

/-- Another balance changes one record. -/
theorem record?_setBalance (ledger : Ledger) (address : Address) (coins : Coins) (slot : Slot) :
    (ledger.setBalance address coins).record? slot =
      if Slot.balance address = slot then coinsRecord? coins else ledger.record? slot := by
  cases slot with
  | balance other =>
    simp only [record?, balance_setBalance, Slot.balance.injEq, eq_comm (a := other)]
    split <;> rfl
  | _ => rfl

/-- Another total supply changes one record. -/
theorem record?_setTotal (ledger : Ledger) (coins : Coins) (slot : Slot) :
    (ledger.setTotal coins).record? slot =
      if Slot.total = slot then coinsRecord? coins else ledger.record? slot := by
  cases slot <;> rfl

/-- Another token changes one record. -/
theorem record?_setToken (ledger : Ledger) (token : Token) (slot : Slot) :
    (ledger.setToken token).record? slot =
      if Slot.token token.symbol = slot then some token.encode else ledger.record? slot := by
  cases slot with
  | token other =>
    simp only [record?, token_setToken, Slot.token.injEq, eq_comm (a := other)]
    split <;> rfl
  | _ => rfl

end Ledger

/-! ## Reading a slot -/

namespace View

variable {view : View} {ledger : Ledger}

/-- The record in a slot is read under its key. -/
theorem getIn_slot (holds : view.flatten.Holds ledger) (slot : Slot) :
    view.getIn slot.storeName.keyStart slot.localKey = ledger.record? slot :=
  (View.get_eq_find?_flatten view slot.key).trans (holds.find?_key slot)

/-- A key of a store that has a value is that of a slot of the store. -/
theorem exists_slot_of_getIn (holds : view.flatten.Holds ledger) {name : StoreName} {key : Bytes}
    (present : view.getIn name.keyStart key ≠ none) :
    ∃ slot : Slot, slot.storeName = name ∧ slot.localKey = key := by
  rw [getIn, get_eq_find?_flatten] at present
  obtain ⟨slot, same⟩ := holds.exists_slot _ present
  rw [Slot.key] at same
  have names : slot.storeName = name := Slot.storeName_eq_of_append same
  rw [names] at same
  exact ⟨slot, names, List.append_cancel_left same⟩

end View

end TokenLedger
