import TokenLedger.Coins
import TokenLedger.Subspace
import TokenLedger.Token.Rules

/-!
# Parameters of the token module

The greatest number of decimal places a token may have and the fees for issuing and minting. They
live in the module's subspace, one record a parameter.
-/

namespace TokenLedger

/-- The parameters of the token module. -/
structure Params where
  /-- The greatest number of decimal places. -/
  maxDecimal : Int8
  /-- What issuing a token costs. -/
  issueFee : Coins
  /-- What minting costs. -/
  mintFee : Coins
  deriving DecidableEq

/-- Why parameters cannot be used. -/
inductive ParamsError where
  /-- The number of decimal places is negative. -/
  | negativeMaxDecimal
  /-- The fee for issuing is empty or holds a zero amount. -/
  | issueFeeNotPositive
  /-- The fee for minting is empty or holds a zero amount. -/
  | mintFeeNotPositive
  /-- The fee for issuing is not a well-formed set. -/
  | malformedIssueFee (fee : Coins)
  /-- The fee for minting is not a well-formed set. -/
  | malformedMintFee (fee : Coins)
  deriving DecidableEq

/-- What is wrong with the parameters. -/
def ParamsError.message : ParamsError → String
  | .negativeMaxDecimal => "token decimal must not be negative"
  | .issueFeeNotPositive => "issue fee must be positive"
  | .mintFeeNotPositive => "mint fee must be positive"
  | .malformedIssueFee fee => "issue fee " ++ fee.text ++ " is not a valid coin set"
  | .malformedMintFee fee => "mint fee " ++ fee.text ++ " is not a valid coin set"

namespace Params

/-- A fee in the chain's own coin. -/
def nativeFee (amount : Amount) : Coins := ⟨[⟨nativeDenom, amount⟩]⟩

/-- Parameters with fees in the chain's own coin. -/
def native (maxDecimal : Int8) (issueFee mintFee : Amount) : Params :=
  ⟨maxDecimal, nativeFee issueFee, nativeFee mintFee⟩

/-- The parameters of a chain whose genesis names none. -/
def default : Params := native 10 (.ofWord 1000000000) (.ofWord 100000000)

/-- Whether the parameters can be used; the first thing wrong decides. -/
def validate (params : Params) : Except ParamsError Unit :=
  if params.maxDecimal < 0 then .error .negativeMaxDecimal
  else if !params.issueFee.isValid then .error (.malformedIssueFee params.issueFee)
  else if !params.issueFee.isAllPositive then .error .issueFeeNotPositive
  else if !params.mintFee.isValid then .error (.malformedMintFee params.mintFee)
  else if !params.mintFee.isAllPositive then .error .mintFeeNotPositive
  else .ok ()

/-- The parameters over several lines. -/
def text (params : Params) : String :=
  "Asset parameters:\n" ++
  "  MaxDecimal:   " ++ Decimal.intText params.maxDecimal.toInt ++ "\n" ++
  "  IssueFee:     " ++ params.issueFee.text ++ "\n" ++
  "  MintFee:      " ++ params.mintFee.text

instance : JsonForm Params where
  toJson params := .record [
    ("param_max_decimal", JsonForm.toJson params.maxDecimal),
    ("param_issue_fee", JsonForm.toJson params.issueFee),
    ("param_mint_fee", JsonForm.toJson params.mintFee)]
  ofJson? json := do
    let [maxDecimal, issueFee, mintFee] ← json.fields?
      [["param_max_decimal"], ["param_issue_fee"], ["param_mint_fee"]] | none
    some {
      maxDecimal := ← Json.required? maxDecimal
      issueFee := ← Json.required? issueFee
      mintFee := ← Json.required? mintFee }

/-! ## Stored parameters -/

variable {ε : Type}

/-- The key of the number of decimal places. -/
def maxDecimalKey : String := "paramMaxDecimal"

/-- The key of the fee for issuing. -/
def issueFeeKey : String := "paramIssueFee"

/-- The key of the fee for minting. -/
def mintFeeKey : String := "paramMintFee"

/-- The subspace of the token module. -/
def subspace : Subspace := ⟨"asset", [maxDecimalKey, issueFeeKey, mintFeeKey]⟩

/-- The stored number of decimal places. -/
def getMaxDecimal : Action ε Int8 := subspace.get maxDecimalKey

/-- Stores the number of decimal places. -/
def setMaxDecimal (maxDecimal : Int8) : Action ε Unit := subspace.set maxDecimalKey maxDecimal

/-- The stored fee for issuing. -/
def getIssueFee : Action ε Coins := subspace.get issueFeeKey

/-- Stores the fee for issuing. -/
def setIssueFee (fee : Coins) : Action ε Unit := subspace.set issueFeeKey fee

/-- The stored fee for minting. -/
def getMintFee : Action ε Coins := subspace.get mintFeeKey

/-- Stores the fee for minting. -/
def setMintFee (fee : Coins) : Action ε Unit := subspace.set mintFeeKey fee

/-- All stored parameters. -/
def load : Action ε Params := do
  let maxDecimal ← getMaxDecimal
  let issueFee ← getIssueFee
  let mintFee ← getMintFee
  return { maxDecimal, issueFee, mintFee }

/-- Stores all parameters. -/
def save (params : Params) : Action ε Unit := do
  setMaxDecimal params.maxDecimal
  setIssueFee params.issueFee
  setMintFee params.mintFee

end Params

end TokenLedger
