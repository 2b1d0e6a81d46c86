/-!
# Decimal numbers in text

Numbers are written without leading zeros, with a minus sign in front of a negative one. Settings
are read more loosely: a plus sign and leading zeros are accepted, and the bound of the word
decides.
-/

namespace TokenLedger.Decimal

/-- The digits of a number, most significant first. -/
def ofNat (value : Nat) : List Char := Nat.toDigits 10 value

/-- The decimal form of an integer. -/
def ofInt : Int → List Char
  | .ofNat value => ofNat value
  | .negSucc value => '-' :: ofNat (value + 1)

/-- Whether a character is an ASCII digit. -/
def isDigit (c : Char) : Bool := '0' ≤ c && c ≤ '9'

/-- The value of a digit. -/
def digitValue (c : Char) : Nat := c.toNat - 48

/-- The number a run of digits stands for. -/
def value (digits : List Char) : Nat := digits.foldl (fun total c => total * 10 + digitValue c) 0

/-- A non-empty run of digits, and nothing else. -/
def digits? (cs : List Char) : Option Nat :=
  if !cs.isEmpty && cs.all isDigit then some (value cs) else none

/-- A number below `bound`, with an optional plus sign in front of it. -/
def bounded? (bound : Nat) (text : String) : Option Nat :=
  let number := match text.toList with
    | '+' :: rest => digits? rest
    | cs => digits? cs
  number.filter (· < bound)

/-- A 64-bit word written in decimal. -/
def word? (text : String) : Option UInt64 := (bounded? (1 <<< 64) text).map UInt64.ofNat

/-- A number continued by digits as long as it stays below `bound`, and the digits left over. -/
def extend (bound : Nat) : Nat → List Char → Nat × List Char
  | total, [] => (total, [])
  | total, c :: rest =>
    let next := total * 10 + digitValue c
    if next < bound then extend bound next rest else (total, c :: rest)

/-- Whether characters are a non-empty run of digits. -/
def isDigits (cs : List Char) : Bool := (digits? cs).isSome

/-- Characters without a leading sign. -/
def unsigned : List Char → List Char
  | '+' :: rest => rest
  | '-' :: rest => rest
  | cs => cs

/-- Whether a text is a number as settings may write it, with or without sign, fraction and
exponent, or the word for one that is infinite or undefined, in any case. A point needs a digit on
one of its sides. -/
def isNumberText (cs : List Char) : Bool :=
  let cs := (unsigned cs).map Char.toLower
  let words := ["inf", "infinity", "nan"].map String.toList
  let mantissa := cs.takeWhile (· ≠ 'e')
  let digits := mantissa.filter (· ≠ '.')
  let hasExponent := match cs.dropWhile (· ≠ 'e') with
    | [] => true
    | _ :: exponent => isDigits (unsigned exponent)
  words.contains cs || (isDigits digits && mantissa.count '.' ≤ 1 && hasExponent)

/-- The decimal form as a text. -/
def text (value : Nat) : String := String.ofList (ofNat value)

/-- The decimal form of an integer as a text. -/
def intText (value : Int) : String := String.ofList (ofInt value)

end TokenLedger.Decimal
