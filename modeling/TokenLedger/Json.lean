import TokenLedger.Binary64
import TokenLedger.Text.Decimal

/-!
# JSON values

The value a document spells, with everything a reader of typed documents has to see: members in
their order with repeated names kept, integers told apart from other numbers, and strings that
spell no text because an escape names half of a surrogate pair.
-/

namespace TokenLedger

/-- A value of a JSON document. -/
inductive Json where
  /-- The literal `null`. -/
  | null
  /-- The literals `true` and `false`. -/
  | bool (value : Bool)
  /-- A number without fraction and exponent; a negative zero is not one. -/
  | integer (value : Int)
  /-- Any other number: `significand * 10 ^ exponent`, its sign left out. The significand has the
  leading digits, as many as fit in a word. -/
  | real (significand : Nat) (exponent : Int)
  /-- A string, or nothing if it spells no text. -/
  | string (text : Option String)
  /-- An array. -/
  | array (items : List Json)
  /-- An object, members in document order. -/
  | object (members : List (Option String × Json))
  deriving Repr, Inhabited

namespace Json

/-- A string value that spells a text. -/
def text (value : String) : Json := .string (some value)

/-- An object whose member names are texts. -/
def record (members : List (String × Json)) : Json :=
  .object (members.map fun member => (some member.1, member.2))

/-- The bound of the words in which the digits of a number are gathered. -/
def wordBound : Nat := 1 <<< 64

/-- Whether a whole number is in range: beyond a word it is kept as its leading digits, scaled. -/
def isWholeInRange (magnitude : Nat) : Bool :=
  magnitude < wordBound ||
    let (leading, rest) := Decimal.extend wordBound 0 (Decimal.ofNat magnitude)
    Binary64.holdsScaled leading rest.length

mutual

/-- Whether a value can be held back and read later: every string spells a text, every number is in
range, and containers nest at most `depth` deep. -/
def isHoldable (depth : Nat) : Json → Bool
  | .null => true
  | .bool _ => true
  | .integer value => isWholeInRange value.natAbs
  | .real significand exponent => Binary64.holdsScaled significand exponent
  | .string text => text.isSome
  | .array items => match depth with
    | 0 => false
    | depth + 1 => areHoldable depth items
  | .object members => match depth with
    | 0 => false
    | depth + 1 => membersHoldable depth members

/-- `isHoldable` for the items of an array. -/
def areHoldable (depth : Nat) : List Json → Bool
  | [] => true
  | item :: rest => isHoldable depth item && areHoldable depth rest

/-- `isHoldable` for the members of an object. -/
def membersHoldable (depth : Nat) : List (Option String × Json) → Bool
  | [] => true
  | (name, item) :: rest => name.isSome && isHoldable depth item && membersHoldable depth rest

end

end Json

end TokenLedger
