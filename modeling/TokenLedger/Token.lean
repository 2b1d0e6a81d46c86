import TokenLedger.Address

/-!
# Tokens

A token is what an account issued under a symbol. The symbol is its key and never changes; only the
total supply does.
-/

namespace TokenLedger

/-- A token. -/
structure Token where
  /-- The key, in lowercase. -/
  symbol : String
  /-- The name shown to people. -/
  name : String
  /-- The number of decimal places. -/
  decimal : Int8
  /-- The units in existence. -/
  totalSupply : Int64
  /-- Whether units can be added. -/
  mintable : Bool
  /-- A description. -/
  description : String
  /-- The account that issued it. -/
  owner : Address
  deriving DecidableEq

namespace Token

/-- The greatest total supply of a token. -/
def maxTotalSupply : Int64 := 9000000000000000000

/-- A text with its ASCII capitals made small. -/
def lowered (text : String) : String := String.ofList (text.toList.map Char.toLower)

/-- The decimal form of the total supply. -/
def supplyText (supply : Int64) : String := Decimal.intText supply.toInt

/-- The token over several lines. -/
def text (token : Token) : String :=
  "Token:\n" ++
  "  Name:         " ++ token.name ++ "\n" ++
  "  Symbol:       " ++ token.symbol ++ "\n" ++
  "  Decimal:      " ++ Decimal.intText token.decimal.toInt ++ "\n" ++
  "  TotalSupply:  " ++ supplyText token.totalSupply ++ "\n" ++
  "  Mintable:     " ++ (if token.mintable then "true" else "false") ++ "\n" ++
  "  Owner:        " ++ token.owner.text ++ "\n" ++
  "  Description:  " ++ token.description

instance : JsonForm Token where
  toJson token := .record [
    ("symbol", .text token.symbol),
    ("name", .text token.name),
    ("decimals", JsonForm.toJson token.decimal),
    ("total_supply", JsonForm.toJson token.totalSupply),
    ("mintable", .bool token.mintable),
    ("description", .text token.description),
    ("owner", JsonForm.toJson token.owner)]
  ofJson? json := do
    let [symbol, name, decimal, totalSupply, mintable, description, owner] ← json.fields?
      [["symbol"], ["name"], ["decimals"], ["total_supply"], ["mintable"], ["description"],
        ["owner"]] | none
    some {
      symbol := ← Json.required? symbol
      name := ← Json.required? name
      decimal := ← Json.required? decimal
      totalSupply := ← Json.required? totalSupply
      mintable := ← Json.required? mintable
      description := ← Json.required? description
      owner := ← Json.required? owner }

end Token

end TokenLedger
