import TokenLedger.Coin
import TokenLedger.Text.Quoted

/-!
# Coin sets

A well-formed coin set is sorted by denomination, holds no denomination twice and no amount of zero.
`Coins.ofList` builds one from any list; sets read from a document are taken as they stand, so every
operation is defined on ill-formed sets as well. Sums and differences go through `Coins.ofList`
again.
-/

namespace TokenLedger

/-- A list of coins that is meant as a set. -/
structure Coins where
  /-- The coins in their stored order. -/
  toList : List Coin
  deriving DecidableEq

/-- Why coins do not form a set. -/
inductive CoinsError where
  /-- A name that is no denomination. -/
  | invalidDenom (denom : String)
  /-- A denomination that stands twice. -/
  | duplicateDenom (denom : String)
  /-- A sum of a denomination out of range. -/
  | overflow (denom : String)
  deriving DecidableEq

/-- What is wrong with the coins. -/
def CoinsError.message : CoinsError → String
  | .invalidDenom denom => "invalid denom: " ++ denom
  | .duplicateDenom denom => "duplicate denom: " ++ denom
  | .overflow denom => "coin amount overflow for denom " ++ denom

namespace Coins

/-- The empty set. -/
def empty : Coins := ⟨[]⟩

instance : Inhabited Coins := ⟨empty⟩

/-- Whether the set holds no coin. -/
def isEmpty (coins : Coins) : Bool := coins.toList.isEmpty

/-- The number of coins. -/
def size (coins : Coins) : Nat := coins.toList.length

/-- A coin put in front of the first coin that it does not follow. -/
def insertSorted (coin : Coin) : List Coin → List Coin
  | [] => [coin]
  | head :: rest =>
    if head.orderKey < coin.orderKey then head :: insertSorted coin rest else coin :: head :: rest

/-- The coins by ascending denomination; coins of one denomination keep their order. -/
def sort (coins : List Coin) : List Coin := coins.foldr insertSorted []

/-- The first denomination that stands twice in a row. -/
def firstRepeated? : List Coin → Option String
  | first :: second :: rest =>
    if first.denom = second.denom then some first.denom else firstRepeated? (second :: rest)
  | _ => none

/-- A sorted list as a set, unless a name is no denomination or a denomination stands twice. -/
def ofSorted (coins : List Coin) : Except CoinsError Coins :=
  match coins.find? fun coin => !Coin.isValidDenom coin.denom with
  | some coin => .error (.invalidDenom coin.denom)
  | none =>
    match firstRepeated? coins with
    | some denom => .error (.duplicateDenom denom)
    | none => .ok ⟨coins⟩

/-- The set of the coins of a list: zero amounts dropped, the others sorted. -/
def ofList (coins : List Coin) : Except CoinsError Coins :=
  ofSorted (sort (coins.filter fun coin => coin.amount.isPositive))

/-- Whether denominations ascend strictly. -/
def isStrictlySorted : List Coin → Bool
  | first :: second :: rest =>
    decide (first.orderKey < second.orderKey) && isStrictlySorted (second :: rest)
  | _ => true

/-- Whether the set is sorted, holds nothing twice and names denominations only. -/
def isValid (coins : Coins) : Bool :=
  coins.toList.all (fun coin => Coin.isValidDenom coin.denom) && isStrictlySorted coins.toList

/-- Whether there is a coin, and none of a zero amount. -/
def isAllPositive (coins : Coins) : Bool :=
  !coins.toList.isEmpty && coins.toList.all fun coin => coin.amount.isPositive

/-- The amount of the first coin of a denomination in a list. -/
def amountIn (denom : String) : List Coin → Amount
  | [] => 0
  | coin :: rest => if coin.denom = denom then coin.amount else amountIn denom rest

/-- How much of a denomination the set holds. -/
def amountOf (coins : Coins) (denom : String) : Amount := amountIn denom coins.toList

/-- A coin added to the first coin of its denomination, or put at the end if there is none. -/
def mergeCoin (coin : Coin) : List Coin → Except CoinsError (List Coin)
  | [] => .ok [coin]
  | head :: rest =>
    if head.denom = coin.denom then
      match head.amount.add? coin.amount with
      | some sum => .ok (⟨head.denom, sum⟩ :: rest)
      | none => .error (.overflow coin.denom)
    else (mergeCoin coin rest).map (head :: ·)

/-- The coins of a list merged one after the other. -/
def mergeAll : List Coin → List Coin → Except CoinsError (List Coin)
  | merged, [] => .ok merged
  | merged, coin :: rest =>
    match mergeCoin coin merged with
    | .ok merged => mergeAll merged rest
    | .error cause => .error cause

/-- The sum of two sets. -/
def add (left right : Coins) : Except CoinsError Coins :=
  match mergeAll left.toList right.toList with
  | .ok merged => ofList merged
  | .error cause => .error cause

/-- A coin taken from the first coin of its denomination; nothing if there is none or too little. -/
def takeCoin? (coin : Coin) : List Coin → Option (List Coin)
  | [] => none
  | head :: rest =>
    if head.denom = coin.denom then
      (head.amount.sub? coin.amount).map fun left => ⟨head.denom, left⟩ :: rest
    else (takeCoin? coin rest).map (head :: ·)

/-- The coins of a list taken one after the other. -/
def takeAll? : List Coin → List Coin → Option (List Coin)
  | remaining, [] => some remaining
  | remaining, coin :: rest =>
    (takeCoin? coin remaining).bind fun remaining => takeAll? remaining rest

/-- The difference of two sets, if every coin taken is there. -/
def sub? (left right : Coins) : Option Coins :=
  (takeAll? left.toList right.toList).bind fun remaining => (ofList remaining).toOption

/-- The coins separated by commas. -/
def text (coins : Coins) : String := String.intercalate "," (coins.toList.map Coin.text)

/-- The coins with their structure spelt out, as messages about malformed sets show them. -/
def describe (coins : Coins) : String :=
  let one (coin : Coin) : String :=
    "Coin \x7b denom: " ++ Text.quote coin.denom ++ ", amount: " ++ coin.amount.text ++ " \x7d"
  "Coins([" ++ String.intercalate ", " (coins.toList.map one) ++ "])"

instance : JsonForm Coins where
  toJson coins := JsonForm.toJson coins.toList
  ofJson? json := (JsonForm.ofJson? json).map Coins.mk

end Coins

end TokenLedger
