import TokenLedger.Address
import TokenLedger.AssetError
import TokenLedger.Action

/-!
# The supply ledger

Balances and the total supply are coin sets in the supply store: the total under the byte zero, the
balance of an account under the byte one and its address. An account without coins has no record.
Modules are accounts too; only those that were declared may send, receive or mint, and naming
another one is a fault.
-/

namespace TokenLedger

/-- What a module account may do beyond holding coins. -/
inductive ModulePermission where
  /-- Create coins. -/
  | minter
  deriving DecidableEq, Repr

/-- What an account holds, as a genesis document lists it. -/
structure AccountBalance where
  /-- The account. -/
  address : Address
  /-- What it holds. -/
  coins : Coins
  deriving DecidableEq

instance : JsonForm AccountBalance where
  toJson balance :=
    .record [("address", JsonForm.toJson balance.address), ("coins", JsonForm.toJson balance.coins)]
  ofJson? json := do
    let [address, coins] ← json.fields? [["address"], ["coins"]] | none
    some { address := ← Json.required? address, coins := ← Json.required? coins }

/-- The declared module accounts; of two declarations of one name the later counts. -/
structure ModuleAccounts where
  /-- The declarations in order. -/
  declared : List (String × List ModulePermission)

namespace ModuleAccounts

/-- The module that collects fees. -/
def feeCollector : String := "fee_collector"

/-- The token module. -/
def asset : String := "asset"

/-- The module accounts of the ledger: the fee collector, and the token module, which mints. -/
def standard : ModuleAccounts := ⟨[(feeCollector, []), (asset, [.minter])]⟩

/-- The permissions of a module, if it is declared. -/
def permissions? (modules : ModuleAccounts) (name : String) : Option (List ModulePermission) :=
  (modules.declared.reverse.find? fun entry => entry.1 = name).map Prod.snd

/-- Whether a module may mint. -/
def mayMint (modules : ModuleAccounts) (name : String) : Bool :=
  ((modules.permissions? name).getD []).contains .minter

end ModuleAccounts

namespace Supply

variable {ε : Type}

/-- The key of the total supply. -/
def totalKey : Bytes := [0]

/-- The byte in front of the key of every balance. -/
def balanceStart : Bytes := [1]

/-- The key of the balance of an account. -/
def balanceKey (address : Address) : Bytes := balanceStart ++ address.bytes

/-- The coin set of a record. -/
def decodeCoins (record : Bytes) : Except Fault Coins :=
  match JsonForm.readBytes? record with
  | some coins => .ok coins
  | none => .error .malformedCoins

/-- The coin set under a key; an absent record is the empty set. -/
def readCoins (key : Bytes) : Action ε Coins := do
  match ← Action.getKey .supply key with
  | none => pure .empty
  | some record => Action.ofFaulty (decodeCoins record)

/-- What an account holds. -/
def balance (address : Address) : Action ε Coins := readCoins (balanceKey address)

/-- The total supply. -/
def total : Action ε Coins := readCoins totalKey

/-- The balances of a list of records; the first malformed one is a fault. -/
def decodeBalances : List (Bytes × Bytes) → Except Fault (List AccountBalance)
  | [] => .ok []
  | entry :: rest =>
    match Address.ofBytes? (entry.1.drop balanceStart.length) with
    | none => .error (.malformedAccountKey (entry.1.length - balanceStart.length))
    | some address =>
      match decodeCoins entry.2 with
      | .error fault => .error fault
      | .ok coins => (decodeBalances rest).map (⟨address, coins⟩ :: ·)

/-- Every recorded balance, by ascending address. -/
def balances : Action ε (List AccountBalance) := do
  let entries ← Action.scanKeys .supply balanceStart
  Action.ofFaulty (decodeBalances entries)

/-- Records what an account holds; the empty set leaves no record. -/
def setBalance (address : Address) (coins : Coins) : Action ε Unit :=
  if coins.isEmpty then Action.deleteKey .supply (balanceKey address)
  else Action.setKey .supply (balanceKey address) (JsonForm.writeBytes coins)

/-- The sum of two coin sets; it is refused if there is none. -/
def sum (held added : Coins) : Action BaseError Coins :=
  match held.add added with
  | .ok coins => pure coins
  | .error cause => Action.refuse (.invalidCoins cause)

/-- Adds coins to an account. -/
def credit (address : Address) (amount : Coins) : Action BaseError Unit := do
  let held ← balance address
  let coins ← sum held amount
  setBalance address coins

/-- Takes coins from an account that has them. -/
def debit (address : Address) (amount : Coins) : Action BaseError Unit := do
  let held ← balance address
  match held.sub? amount with
  | some coins => setBalance address coins
  | none => Action.refuse (.insufficientCoins held amount)

/-- Adds coins to the total supply. -/
def inflate (amount : Coins) : Action BaseError Unit := do
  let held ← total
  let coins ← sum held amount
  Action.setKey .supply totalKey (JsonForm.writeBytes coins)

/-- Refuses a coin set that is not well-formed. -/
def requireValid (amount : Coins) : Action BaseError Unit :=
  if amount.isValid then pure () else Action.refuse (.malformedCoins amount)

/-- Creates coins in an account. -/
def fund (address : Address) (amount : Coins) : Action BaseError Unit := do
  requireValid amount
  credit address amount
  inflate amount

/-- Moves coins from one account to another. -/
def transfer (sender recipient : Address) (amount : Coins) : Action BaseError Unit := do
  requireValid amount
  debit sender amount
  credit recipient amount

/-- Ends with a fault unless a module is declared. -/
def requireModule (modules : ModuleAccounts) (name : String) : Action ε Unit :=
  match modules.permissions? name with
  | some _ => pure ()
  | none => Action.fail (.unknownModule name)

/-- Moves coins from an account to a module. -/
def sendToModule (modules : ModuleAccounts) (sender : Address) (recipient : String)
    (amount : Coins) : Action BaseError Unit := do
  requireModule modules recipient
  transfer sender (Address.ofModule recipient) amount

/-- Moves coins from a module to an account. -/
def sendFromModule (modules : ModuleAccounts) (sender : String) (recipient : Address)
    (amount : Coins) : Action BaseError Unit := do
  requireModule modules sender
  transfer (Address.ofModule sender) recipient amount

/-- Creates coins in the account of a module that may. -/
def mintToModule (modules : ModuleAccounts) (name : String) (amount : Coins) :
    Action BaseError Unit := do
  requireModule modules name
  if modules.mayMint name then
    requireValid amount
    credit (Address.ofModule name) amount
    inflate amount
  else Action.fail (.notMinter name)

end Supply

end TokenLedger
