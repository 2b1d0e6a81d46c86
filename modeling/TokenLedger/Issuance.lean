import TokenLedger.Message
import TokenLedger.Params
import TokenLedger.Supply
import TokenLedger.TokenBook

/-!
# Issuing and minting

The two state transitions of the token module. Each collects its fee, changes the token book and
creates the same number of units in the supply ledger, first in the module's account and from there
in the owner's. Each runs atomically, so a step that is refused takes all the steps before it back.
-/

namespace TokenLedger.Issuance

/-- The number of units a supply stands for, its sign left out. -/
def magnitude (units : Int64) : Amount :=
  ⟨units.toInt.natAbs, by
    have low := units.minValue_le_toInt
    have high := units.toInt_lt
    have : Int64.minValue.toInt = -9223372036854775808 := by decide
    omega⟩

/-- The coin of some units of a token. -/
def unitsCoin (symbol : String) (units : Int64) : Coin := ⟨symbol, magnitude units⟩

/-- The event of a transition: what it created, under the given key. -/
def mintedEvent (key : String) (coin : Coin) : Event := ⟨"message", [⟨key, coin.text⟩]⟩

/-- The key of what issuing created. -/
def issuedKey : String := "issue_token"

/-- The key of what minting created. -/
def mintedKey : String := "mint_token"

/-- A supply ledger action inside a transition. -/
def supplying {α : Type} (action : Action BaseError α) : Action AssetError α :=
  action.mapCause AssetError.supply

/-- Creates units of a token and hands them to its owner, and reports them. -/
def createUnits (modules : ModuleAccounts) (token : Token) (units : Int64) (key : String) :
    Action AssetError Unit := do
  let coin := unitsCoin token.symbol units
  let coins ← Action.ofExcept ((Coins.ofList [coin]).mapError fun cause =>
    AssetError.supply (.invalidCoins cause))
  supplying (Supply.mintToModule modules ModuleAccounts.asset coins)
  supplying (Supply.sendFromModule modules ModuleAccounts.asset token.owner coins)
  Action.emit (mintedEvent key coin)

/-- The steps of issuing. -/
def issueSteps (modules : ModuleAccounts) (regime : Regime) (msg : IssueMsg) :
    Action AssetError Unit := do
  let maxDecimal ← Params.getMaxDecimal
  if maxDecimal < msg.decimal then Action.refuse (.decimalAboveMax maxDecimal)
  if ← TokenBook.contains msg.storedSymbol then Action.refuse (.duplicateSymbol msg.storedSymbol)
  Action.ofExcept (Token.checkName msg.name)
  Action.ofExcept (Token.checkSymbol regime msg.storedSymbol)
  Action.ofExcept (Token.checkDescription regime msg.description)
  Action.ofExcept (Token.checkTotalSupply msg.totalSupply)
  TokenBook.create msg.token
  let fee ← Params.getIssueFee
  supplying (Supply.sendToModule modules msg.sender ModuleAccounts.feeCollector fee)
  createUnits modules msg.token msg.totalSupply issuedKey

/-- A difference of supplies; a fault if it leaves the range of a word. -/
def subtract (left right : Int64) : Except Fault Int64 :=
  if (left - right).toInt = left.toInt - right.toInt then .ok (left - right)
  else .error .subtractionOverflow

/-- A sum of supplies; a fault if it leaves the range of a word. -/
def add (left right : Int64) : Except Fault Int64 :=
  if (left + right).toInt = left.toInt + right.toInt then .ok (left + right)
  else .error .additionOverflow

/-- The steps of minting. -/
def mintSteps (modules : ModuleAccounts) (msg : MintMsg) : Action AssetError Unit := do
  match ← TokenBook.find? msg.symbol with
  | none => Action.refuse (.unknownToken msg.symbol)
  | some token =>
    if !token.mintable then Action.refuse (.notMintable token.symbol)
    if token.owner ≠ msg.sender then Action.refuse (.unauthorizedMint token.owner token.symbol)
    let possible ← Action.ofFaulty (subtract Token.maxTotalSupply token.totalSupply)
    if msg.amount ≤ 0 ∨ possible < msg.amount then
      Action.refuse (.mintAmountAbove possible msg.amount)
    let fee ← Params.getMintFee
    supplying (Supply.sendToModule modules msg.sender ModuleAccounts.feeCollector fee)
    let totalSupply ← Action.ofFaulty (add token.totalSupply msg.amount)
    TokenBook.replace { token with totalSupply }
    createUnits modules { token with totalSupply } msg.amount mintedKey

/-- Carries out the steps of a message. -/
def steps (modules : ModuleAccounts) (regime : Regime) : Message → Action AssetError Unit
  | .issue msg => issueSteps modules regime msg
  | .mint msg => mintSteps modules msg

/-- Applies a message, or leaves the context as it was. -/
def handle (modules : ModuleAccounts) (regime : Regime) (message : Message) :
    Action AssetError Unit :=
  Action.atomically (steps modules regime message)

end TokenLedger.Issuance
