import TokenLedger.Json.Form
import TokenLedger.Bytes

/-!
# Coins

An amount is a number below 2¹²⁸; sums and differences that leave that range do not exist. A coin is
an amount of a denomination. Denominations are compared by the bytes of their names.
-/

namespace TokenLedger

/-- An amount of a coin, below 2¹²⁸. -/
structure Amount where
  /-- The number of units. -/
  toNat : Nat
  /-- Amounts fit in 128 bits. -/
  fits : toNat < 1 <<< 128 := by decide
  deriving DecidableEq

namespace Amount

instance : OfNat Amount 0 := ⟨⟨0, by decide⟩⟩

instance : Inhabited Amount := ⟨0⟩

/-- Amounts with the same number of units are equal. -/
@[ext]
theorem ext {left right : Amount} (same : left.toNat = right.toNat) : left = right := by
  cases left
  cases right
  simpa using same

/-- A number as an amount, if it is in range. -/
def ofNat? (value : Nat) : Option Amount :=
  if fits : value < 1 <<< 128 then some ⟨value, fits⟩ else none

/-- A word as an amount. -/
def ofWord (value : UInt64) : Amount := ⟨value.toNat, Nat.lt_trans value.toNat_lt (by decide)⟩

/-- The sum, if it is in range. -/
def add? (left right : Amount) : Option Amount := ofNat? (left.toNat + right.toNat)

/-- The difference, if there is one. -/
def sub? (left right : Amount) : Option Amount :=
  if right.toNat ≤ left.toNat then
    some ⟨left.toNat - right.toNat, Nat.lt_of_le_of_lt (Nat.sub_le _ _) left.fits⟩
  else none

/-- A sum that exists is the sum. -/
theorem toNat_of_add? {left right sum : Amount} (added : left.add? right = some sum) :
    sum.toNat = left.toNat + right.toNat := by
  unfold add? ofNat? at added
  split at added
  · injection added with added
    rw [← added]
  · contradiction

/-- A sum is missing exactly when it is out of range. -/
theorem add?_eq_none_iff (left right : Amount) :
    left.add? right = none ↔ 1 <<< 128 ≤ left.toNat + right.toNat := by
  unfold add? ofNat?
  split <;> simp <;> omega

/-- A difference that exists, added back, is what was there. -/
theorem toNat_of_sub? {left right difference : Amount}
    (subtracted : left.sub? right = some difference) :
    difference.toNat + right.toNat = left.toNat := by
  unfold sub? at subtracted
  split at subtracted
  · injection subtracted with subtracted
    rw [← subtracted]
    simp only
    omega
  · contradiction

/-- A difference is missing exactly when more is taken than is there. -/
theorem sub?_eq_none_iff (left right : Amount) :
    left.sub? right = none ↔ left.toNat < right.toNat := by
  unfold sub?
  split <;> simp <;> omega

/-- Whether an amount is more than nothing. -/
def isPositive (amount : Amount) : Bool := 0 < amount.toNat

/-- The decimal form. -/
def text (amount : Amount) : String := Decimal.text amount.toNat

instance : JsonForm Amount where
  toJson amount := .integer amount.toNat
  ofJson? json :=
    (json.integerIn? 0 0xFFFFFFFFFFFFFFFFFFFFFFFFFFFFFFFF).bind fun value => ofNat? value.toNat

end Amount

/-- An amount of one denomination. -/
structure Coin where
  /-- The name of the denomination. -/
  denom : String
  /-- How much of it. -/
  amount : Amount
  deriving DecidableEq

namespace Coin

/-- Whether a byte is a lowercase ASCII letter. -/
def isLower (byte : UInt8) : Bool := 97 ≤ byte && byte ≤ 122

/-- Whether a byte is an ASCII digit. -/
def isDigit (byte : UInt8) : Bool := 48 ≤ byte && byte ≤ 57

/-- Whether bytes name a denomination: a lowercase letter, then two to fifteen lowercase letters or
digits. -/
def isValidDenomBytes : Bytes → Bool
  | [] => false
  | first :: rest =>
    2 ≤ rest.length && rest.length ≤ 15 && isLower first &&
      rest.all fun byte => isLower byte || isDigit byte

/-- Whether a text names a denomination. -/
def isValidDenom (denom : String) : Bool := isValidDenomBytes (Bytes.utf8 denom)

/-- The bytes by which coins are ordered. -/
def orderKey (coin : Coin) : Bytes := Bytes.utf8 coin.denom

/-- The amount followed by the denomination. -/
def text (coin : Coin) : String := coin.amount.text ++ coin.denom

instance : JsonForm Coin where
  toJson coin :=
    .record [("denom", JsonForm.toJson coin.denom), ("amount", JsonForm.toJson coin.amount)]
  ofJson? json := do
    let [denom, amount] ← json.fields? [["denom"], ["amount"]] | none
    some { denom := ← Json.required? denom, amount := ← Json.required? amount }

end Coin

end TokenLedger
