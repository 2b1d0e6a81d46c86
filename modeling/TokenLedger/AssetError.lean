import TokenLedger.Coins
import TokenLedger.Token
import TokenLedger.Upgrade

/-!
# Refusals

Every cause for which the ledger refuses a message, a transfer or a query. Each has a numeric code
inside a code space, which clients rely on, and a text.
-/

namespace TokenLedger

/-- Causes outside the token module: requests nobody answers, and transfers. -/
inductive BaseError where
  /-- The body of a list query does not read as a page request. -/
  | malformedPageRequest
  /-- A query about tokens came before tokens were introduced. -/
  | queryNotSupported
  /-- A query about tokens named no known endpoint. -/
  | unknownEndpoint
  /-- A query for a token named none. -/
  | missingSymbol
  /-- A query for a token named one that does not exist. -/
  | noSuchToken (symbol : String)
  /-- A query path leads nowhere. -/
  | unknownPath (path : String)
  /-- A message kind is not accepted at this height. -/
  | messageNotSupported (kind : MessageKind) (height : Height)
  /-- An account holds less than is to be taken. -/
  | insufficientCoins (held taken : Coins)
  /-- A coin set to be moved is not well-formed. -/
  | malformedCoins (coins : Coins)
  /-- Coins do not form a set. -/
  | invalidCoins (cause : CoinsError)
  deriving DecidableEq

namespace BaseError

/-- The code space of these causes. -/
def codespace : String := "sdk"

/-- The numeric code. -/
def code : BaseError → Nat
  | .malformedPageRequest => 1
  | .queryNotSupported | .unknownEndpoint | .missingSymbol | .noSuchToken _ | .unknownPath _
  | .messageNotSupported .. => 6
  | .insufficientCoins .. => 10
  | .malformedCoins _ | .invalidCoins _ => 11

/-- Every code of these causes. -/
def codes : List Nat := [1, 6, 10, 11]

/-- A cause has one of the codes. -/
theorem code_mem_codes (cause : BaseError) : cause.code ∈ codes := by
  cases cause <;> simp [code, codes]

/-- What is wrong. -/
def message : BaseError → String
  | .malformedPageRequest => "internal: failed to parse params"
  | .queryNotSupported =>
    "unknown request: asset related query is not supported until " ++ Upgrade.tokenIssue.wireName
  | .unknownEndpoint => "unknown request: unknown asset query endpoint"
  | .missingSymbol => "unknown request: wrong query request"
  | .noSuchToken symbol => "unknown request: token " ++ symbol ++ " is not exist"
  | .unknownPath path => "unknown request: unknown query path " ++ path
  | .messageNotSupported kind height =>
    "unknown request: msg type " ++ kind.wireName ++ " is not supported at height " ++
      Decimal.text height.toNat
  | .insufficientCoins held taken =>
    "insufficient coins: insufficient account funds; " ++ held.text ++ " < " ++ taken.text
  | .malformedCoins coins => "invalid coins: " ++ coins.text
  | .invalidCoins cause => "invalid coins: " ++ cause.message

end BaseError

/-- Causes for which the token module refuses. -/
inductive AssetError where
  /-- A name is empty or too long. -/
  | nameLength
  /-- A name is one of the native token's. -/
  | nameReserved
  /-- A symbol has a length outside the bounds; a lower bound of zero is exclusive. -/
  | symbolLength (least : Nat)
  /-- A symbol is one of the native token's. -/
  | symbolReserved
  /-- A symbol holds something other than lowercase letters. -/
  | symbolCharacters
  /-- A symbol is taken. -/
  | duplicateSymbol (symbol : String)
  /-- A token does not exist. -/
  | unknownToken (symbol : String)
  /-- A total supply is out of bounds. -/
  | totalSupplyRange
  /-- A number of decimal places is negative. -/
  | decimalNegative (decimal : Int8)
  /-- A number of decimal places is above the parameter. -/
  | decimalAboveMax (max : Int8)
  /-- An amount to mint is not positive or above the greatest supply. -/
  | mintAmountRange
  /-- An amount to mint is not positive or more than the token has room for. -/
  | mintAmountAbove (possible actual : Int64)
  /-- A description is too long. -/
  | descriptionLength (actual limit : Nat)
  /-- A token does not allow minting. -/
  | notMintable (symbol : String)
  /-- A message to mint does not come from the owner. -/
  | unauthorizedMint (owner : Address) (symbol : String)
  /-- The supply ledger refused. -/
  | supply (cause : BaseError)
  deriving DecidableEq

namespace AssetError

/-- The greatest length of a token name. -/
def maxNameLength : Nat := 32

/-- The greatest length of a token symbol. -/
def maxSymbolLength : Nat := 12

/-- The code space of a cause. -/
def codespace : AssetError → String
  | .supply _ => BaseError.codespace
  | _ => "asset"

/-- The numeric code. -/
def code : AssetError → Nat
  | .nameLength | .nameReserved => 101
  | .symbolLength _ | .symbolReserved | .symbolCharacters | .duplicateSymbol _
  | .unknownToken _ => 102
  | .totalSupplyRange => 103
  | .decimalNegative _ | .decimalAboveMax _ => 104
  | .mintAmountRange | .mintAmountAbove .. => 105
  | .descriptionLength .. => 106
  | .notMintable _ => 107
  | .unauthorizedMint .. => 108
  | .supply cause => cause.code

/-- Every code of the causes of the token module itself. -/
def codes : List Nat := [101, 102, 103, 104, 105, 106, 107, 108]

/-- A cause has a code of the token module or one of the others. -/
theorem code_mem_codes (cause : AssetError) : cause.code ∈ codes ++ BaseError.codes := by
  cases cause with
  | supply cause => exact List.mem_append_right codes (BaseError.code_mem_codes cause)
  | _ => simp [code, codes]

/-- No cause has the code zero, which is that of success. -/
theorem code_ne_zero (cause : AssetError) : cause.code ≠ 0 := by
  intro zero
  have listed := cause.code_mem_codes
  rw [zero] at listed
  exact absurd listed (by decide)

/-- What is wrong. -/
def message : AssetError → String
  | .nameLength =>
    "invalid token name: token name length should be in (0, " ++ Decimal.text maxNameLength ++ "]"
  | .nameReserved =>
    "invalid token name: token name should not be identical to native token ubarkis/barkis"
  | .symbolLength 0 =>
    "invalid token symbol: token symbol length should be in (0, " ++
      Decimal.text maxSymbolLength ++ "]"
  | .symbolLength least =>
    "invalid token symbol: token symbol length should be in [" ++ Decimal.text least ++ ", " ++
      Decimal.text maxSymbolLength ++ "]"
  | .symbolReserved =>
    "invalid token symbol: token symbol should not be identical to native token ubarkis/barkis"
  | .symbolCharacters =>
    "invalid token symbol: token symbol should only contain lower case alphabet"
  | .duplicateSymbol symbol => "duplicated token symbol: " ++ symbol
  | .unknownToken symbol => "token " ++ symbol ++ " is not exist"
  | .totalSupplyRange =>
    "invalid total supply: total supply should be in [0, " ++
      Token.supplyText Token.maxTotalSupply ++ "]"
  | .decimalNegative decimal =>
    "invalid decimal: token decimal " ++ Decimal.intText decimal.toInt ++ " is negative"
  | .decimalAboveMax max =>
    "invalid decimal: token decimal should not be greater than " ++ Decimal.intText max.toInt
  | .mintAmountRange =>
    "invalid mint amount: mint amount should be in (0, " ++
      Token.supplyText Token.maxTotalSupply ++ "]"
  | .mintAmountAbove possible actual =>
    "invalid mint amount: minted too many token, maximum possible minted amount " ++
      Token.supplyText possible ++ ", actual minted amount " ++ Token.supplyText actual
  | .descriptionLength actual limit =>
    "invalid token description: token description length " ++ Decimal.text actual ++
      " should not exceed " ++ Decimal.text limit
  | .notMintable symbol => "token " ++ symbol ++ " is not mintable"
  | .unauthorizedMint owner symbol =>
    "only " ++ owner.text ++ " is authorized to mint token " ++ symbol
  | .supply cause => cause.message

end AssetError

end TokenLedger
