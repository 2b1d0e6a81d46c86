import TokenLedger.AssetError
import TokenLedger.Registry

/-!
# Rules for tokens

What the fields of a token may hold. Symbols and descriptions have one pair of bounds before the
description upgrade and another from it on; the regime says which applies. Stored tokens may have
been issued under either, so `checkStored` accepts what one of the two accepts. Lengths are counted
in bytes.
-/

namespace TokenLedger

/-- The denomination of the chain's own coin. -/
def nativeDenom : String := "ubarkis"

/-- The display name of the chain's own coin. -/
def nativeName : String := "barkis"

/-- Which bounds apply to symbols and descriptions. -/
inductive Regime where
  /-- Before the description upgrade. -/
  | legacy
  /-- From the description upgrade on. -/
  | extended
  deriving DecidableEq, Repr

namespace Regime

/-- The regime at the current height of a registry. -/
def ofRegistry {κ : Type} (registry : Registry κ) : Regime :=
  if registry.isApplied .descriptionLimit then .extended else .legacy

/-- The least length of a symbol; zero stands for no bound but that it is not empty. -/
def leastSymbolLength : Regime → Nat
  | .legacy => 0
  | .extended => 3

/-- The greatest length of a description. -/
def maxDescriptionLength : Regime → Nat
  | .legacy => 128
  | .extended => 1024

end Regime

namespace Token

/-- Ends with the cause unless the condition holds. -/
def ensure (condition : Bool) (cause : AssetError) : Except AssetError Unit :=
  if condition then .ok () else .error cause

/-- Whether a symbol's length is positive, not below the least one and not above the greatest. -/
def isSymbolLength (least length : Nat) : Bool :=
  0 < length && least ≤ length && length ≤ AssetError.maxSymbolLength

/-- Whether a name is one of the chain's own coin. -/
def isReserved (name : String) : Bool := name = nativeDenom || name = nativeName

/-- What a symbol may hold: no name of the chain's own coin in any case, and lowercase letters only.
-/
def checkSymbolContent (symbol : String) : Except AssetError Unit := do
  ensure (!isReserved (lowered symbol)) .symbolReserved
  ensure ((Bytes.utf8 symbol).all Coin.isLower) .symbolCharacters

/-- What a symbol may be under a regime. -/
def checkSymbol (regime : Regime) (symbol : String) : Except AssetError Unit := do
  ensure (isSymbolLength regime.leastSymbolLength (Bytes.textLength symbol))
    (.symbolLength regime.leastSymbolLength)
  checkSymbolContent symbol

/-- What a name may be. -/
def checkName (name : String) : Except AssetError Unit := do
  ensure (0 < Bytes.textLength name && Bytes.textLength name ≤ AssetError.maxNameLength) .nameLength
  ensure (!isReserved name) .nameReserved

/-- What a description may be under a limit on its length. -/
def checkDescriptionWithin (limit : Nat) (description : String) : Except AssetError Unit :=
  ensure (Bytes.textLength description ≤ limit)
    (.descriptionLength (Bytes.textLength description) limit)

/-- What a description may be under a regime. -/
def checkDescription (regime : Regime) (description : String) : Except AssetError Unit :=
  checkDescriptionWithin regime.maxDescriptionLength description

/-- What a total supply may be. -/
def checkTotalSupply (supply : Int64) : Except AssetError Unit :=
  ensure (0 ≤ supply && supply ≤ maxTotalSupply) .totalSupplyRange

/-- What a number of decimal places may be. -/
def checkDecimal (decimal : Int8) : Except AssetError Unit :=
  ensure (0 ≤ decimal) (.decimalNegative decimal)

/-- What a stored token may be, whichever regime it was issued under. -/
def checkStored (token : Token) : Except AssetError Unit := do
  checkName token.name
  checkDescriptionWithin Regime.extended.maxDescriptionLength token.description
  ensure (isSymbolLength 0 (Bytes.textLength token.symbol)) (.symbolLength 0)
  checkSymbolContent token.symbol
  checkDecimal token.decimal
  checkTotalSupply token.totalSupply

end Token

end TokenLedger
