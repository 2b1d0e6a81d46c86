import TokenLedger.Upgrade

/-!
# Faults

A fault says that the ledger's own records or wiring contradict what the code relies on. It is no
answer to a message: it ends whatever was under way. What may also be refused, for a cause that is
an ordinary answer, ends without a result in one of the two ways of `Stop`.
-/

namespace TokenLedger

/-- A broken invariant. -/
inductive Fault where
  /-- A token was to be created under a symbol that is taken. -/
  | duplicateToken (symbol : String)
  /-- A token was to be replaced that does not exist. -/
  | missingToken (symbol : String)
  /-- A parameter was named that its subspace does not know. -/
  | unknownParameter (key space : String)
  /-- A parameter was read that was never set. -/
  | unsetParameter (key space : String)
  /-- A stored parameter does not read as its type. -/
  | malformedParameter (key space : String)
  /-- A token record is too short to hold its length. -/
  | shortRecord (size : Nat)
  /-- A token record has another length than it declares. -/
  | wrongRecordLength (declared found : Nat)
  /-- The body of a token record does not read as a token. -/
  | malformedRecord
  /-- A stored coin set does not read as one. -/
  | malformedCoins
  /-- A balance is stored under a key that names no account. -/
  | malformedAccountKey (size : Nat)
  /-- A module account was named that does not exist. -/
  | unknownModule (name : String)
  /-- A module was to mint without the permission to. -/
  | notMinter (name : String)
  /-- Something was tied to an upgrade that has no height. -/
  | unscheduledUpgrade (upgrade : Upgrade)
  /-- A subtraction of words left their range. -/
  | subtractionOverflow
  /-- An addition of words left their range. -/
  | additionOverflow
  /-- A text was to be cut inside one of its characters. -/
  | splitCharacter
  deriving DecidableEq

/-- What is broken. -/
def Fault.message : Fault → String
  | .duplicateToken symbol => "duplicated token symbol " ++ symbol
  | .missingToken symbol => "non-existent token " ++ symbol
  | .unknownParameter key space => "parameter " ++ key ++ " not registered in subspace " ++ space
  | .unsetParameter key space => "parameter " ++ space ++ "/" ++ key ++ " is not set"
  | .malformedParameter key space => "malformed parameter " ++ space ++ "/" ++ key
  | .shortRecord size => "malformed token record: " ++ Decimal.text size ++ " bytes"
  | .wrongRecordLength declared found =>
    "malformed token record: declared " ++ Decimal.text declared ++ " bytes, found " ++
      Decimal.text found
  | .malformedRecord => "malformed token record"
  | .malformedCoins => "malformed coins record in supply store"
  | .malformedAccountKey size =>
    "copy_from_slice: source slice length (" ++ Decimal.text size ++
      ") does not match destination slice length (20)"
  | .unknownModule name => "module account " ++ name ++ " does not exist"
  | .notMinter name => "module account " ++ name ++ " does not have permissions to mint tokens"
  | .unscheduledUpgrade upgrade =>
    "upgrade " ++ upgrade.wireName ++ " has no registered activation height"
  | .subtractionOverflow => "attempt to subtract with overflow"
  | .additionOverflow => "attempt to add with overflow"
  | .splitCharacter => "byte index is not a char boundary"

/-- How something ends without a result. -/
inductive Stop (ε : Type) where
  /-- It was refused for a cause. -/
  | refused (cause : ε)
  /-- It ran into a broken invariant. -/
  | faulted (fault : Fault)
  deriving DecidableEq

end TokenLedger
