import TokenLedger.Token.Record
import TokenLedger.Action

/-!
# The token book

The tokens in the asset store, each under the byte one and its symbol. `create` and `replace` are
for callers that have made sure of what is there; the other way round either is a fault.
-/

namespace TokenLedger.TokenBook

variable {ε : Type}

/-- The byte in front of every token's key. -/
def keyStart : Bytes := [1]

/-- The key of a token. -/
def keyOf (symbol : String) : Bytes := keyStart ++ Bytes.utf8 symbol

/-- Whether there is a token of a symbol. -/
def contains (symbol : String) : Action ε Bool := Action.hasKey .asset (keyOf symbol)

/-- Stores a token under a symbol that is free. -/
def create (token : Token) : Action ε Unit := do
  if ← contains token.symbol then Action.fail (.duplicateToken token.symbol)
  else Action.setKey .asset (keyOf token.symbol) token.encode

/-- Stores a token in place of the one of its symbol. -/
def replace (token : Token) : Action ε Unit := do
  if ← contains token.symbol then Action.setKey .asset (keyOf token.symbol) token.encode
  else Action.fail (.missingToken token.symbol)

/-- The token of a symbol, taken as it is spelt. -/
def find? (symbol : String) : Action ε (Option Token) := do
  match ← Action.getKey .asset (keyOf symbol) with
  | none => pure none
  | some record => some <$> Action.ofFaulty (Token.decode record)

/-- The tokens of a list of records; the first malformed one is a fault. -/
def decodeAll : List (Bytes × Bytes) → Except Fault (List Token)
  | [] => .ok []
  | entry :: rest =>
    match Token.decode entry.2 with
    | .error fault => .error fault
    | .ok token => (decodeAll rest).map (token :: ·)

/-- Every token, by ascending bytes of its symbol. -/
def list : Action ε (List Token) := do
  let entries ← Action.scanKeys .asset keyStart
  Action.ofFaulty (decodeAll entries)

end TokenLedger.TokenBook
