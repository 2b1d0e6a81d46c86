import TokenLedger.Token.Rules

/-!
# Messages

What an account may ask of the token module: to issue a token or to mint units of one. A message
has a part that can be checked without looking at any state. In a document it is an object of its
type and its value, in either order, or an array of the two, in which the type is a plain string.
-/

namespace TokenLedger

/-- A request to create a token. -/
structure IssueMsg where
  /-- The account that asks, and will own the token. -/
  sender : Address
  /-- The name of the token. -/
  name : String
  /-- The symbol, in any case. -/
  symbol : String
  /-- The units to create. -/
  totalSupply : Int64
  /-- Whether units can be added later. -/
  mintable : Bool
  /-- The number of decimal places. -/
  decimal : Int8
  /-- A description. -/
  description : String
  deriving DecidableEq

/-- A request to add units to a token. -/
structure MintMsg where
  /-- The account that asks. -/
  sender : Address
  /-- The symbol, as it is stored. -/
  symbol : String
  /-- The units to add. -/
  amount : Int64
  deriving DecidableEq

/-- A message to the token module. -/
inductive Message where
  /-- To create a token. -/
  | issue (msg : IssueMsg)
  /-- To add units to a token. -/
  | mint (msg : MintMsg)
  deriving DecidableEq

namespace IssueMsg

/-- The symbol under which the token is stored. -/
def storedSymbol (msg : IssueMsg) : String := Token.lowered msg.symbol

/-- The token a message asks for. -/
def token (msg : IssueMsg) : Token where
  symbol := msg.storedSymbol
  name := msg.name
  decimal := msg.decimal
  totalSupply := msg.totalSupply
  mintable := msg.mintable
  description := msg.description
  owner := msg.sender

/-- What can be checked of the message alone. -/
def checkBasic (regime : Regime) (msg : IssueMsg) : Except AssetError Unit := do
  Token.checkName msg.name
  Token.checkSymbol regime msg.storedSymbol
  Token.checkTotalSupply msg.totalSupply
  Token.checkDecimal msg.decimal
  Token.checkDescription regime msg.description

instance : JsonForm IssueMsg where
  toJson msg := .record [
    ("from", JsonForm.toJson msg.sender),
    ("name", .text msg.name),
    ("symbol", .text msg.symbol),
    ("total_supply", JsonForm.toJson msg.totalSupply),
    ("mintable", .bool msg.mintable),
    ("decimal", JsonForm.toJson msg.decimal),
    ("description", .text msg.description)]
  ofJson? json := do
    let [sender, name, symbol, totalSupply, mintable, decimal, description] ← json.fields?
      [["from"], ["name"], ["symbol"], ["total_supply"], ["mintable"], ["decimal"], ["description"]]
      | none
    some {
      sender := ← Json.required? sender
      name := ← Json.required? name
      symbol := ← Json.required? symbol
      totalSupply := ← Json.required? totalSupply
      mintable := ← Json.required? mintable
      decimal := ← Json.required? decimal
      description := ← Json.required? description }

end IssueMsg

namespace MintMsg

/-- What can be checked of the message alone. The symbol is taken as it is spelt. -/
def checkBasic (regime : Regime) (msg : MintMsg) : Except AssetError Unit := do
  Token.checkSymbol regime msg.symbol
  Token.ensure (0 < msg.amount && msg.amount ≤ Token.maxTotalSupply) .mintAmountRange

instance : JsonForm MintMsg where
  toJson msg := .record [
    ("from", JsonForm.toJson msg.sender),
    ("symbol", .text msg.symbol),
    ("amount", JsonForm.toJson msg.amount)]
  ofJson? json := do
    let [sender, symbol, amount] ← json.fields? [["from"], ["symbol"], ["amount"]] | none
    some {
      sender := ← Json.required? sender
      symbol := ← Json.required? symbol
      amount := ← Json.required? amount }

end MintMsg

namespace Message

/-- The kind of a message. -/
def kind : Message → MessageKind
  | .issue _ => .issue
  | .mint _ => .mint

/-- The account that asks. -/
def signer : Message → Address
  | .issue msg => msg.sender
  | .mint msg => msg.sender

/-- What can be checked of the message alone. -/
def checkBasic (regime : Regime) : Message → Except AssetError Unit
  | .issue msg => msg.checkBasic regime
  | .mint msg => msg.checkBasic regime

/-- The name of a message type in documents. -/
def typeName : MessageKind → String
  | .issue => "asset/IssueMsg"
  | .mint => "asset/MintMsg"

/-- A value read as the message of a type. -/
def ofTypeAndValue? (type value : Json) : Option Message := do
  match ← Json.choice? MessageKind.all typeName type with
  | .issue => (JsonForm.ofJson? value).map Message.issue
  | .mint => (JsonForm.ofJson? value).map Message.mint

/-- How deep the containers of a value may nest that stands in front of its type. -/
def maxHeldDepth : Nat := 126

/-- Whether the type stands before the value. -/
def typeFirst (members : List (Option String × Json)) : Bool :=
  match members.find? fun member => member.1 = some "type" || member.1 = some "value" with
  | some member => member.1 = some "type"
  | none => false

instance : JsonForm Message where
  toJson
    | .issue msg => .record [("type", .text (typeName .issue)), ("value", JsonForm.toJson msg)]
    | .mint msg => .record [("type", .text (typeName .mint)), ("value", JsonForm.toJson msg)]
  ofJson? json := do
    let [some type, some value] ← json.fields? [["type"], ["value"]] | none
    match json, type with
    | .object members, _ =>
      if typeFirst members || value.isHoldable maxHeldDepth then ofTypeAndValue? type value
      else none
    | _, .string _ => ofTypeAndValue? type value
    | _, _ => none

end Message

end TokenLedger
