import TokenLedger.Json
import TokenLedger.Text.Decimal

/-!
# Writing JSON text

Two layouts of one value: compact, without any space, and pretty, with one item a line, two spaces
of indentation a level and a space after each colon. Strings escape the quote, the backslash and the
control characters only.
-/

namespace TokenLedger.Json

/-- The escape of a control character by code. -/
def controlEscape (c : Char) : List Char :=
  ['\\', 'u', '0', '0'] ++
    [Nat.digitChar (c.toNat / 16), Nat.digitChar (c.toNat % 16)]

/-- A character inside a string. -/
def stringChar (c : Char) : List Char :=
  if c = '"' then ['\\', '"']
  else if c = '\\' then ['\\', '\\']
  else if c = '\x08' then ['\\', 'b']
  else if c = '\t' then ['\\', 't']
  else if c = '\n' then ['\\', 'n']
  else if c = '\x0c' then ['\\', 'f']
  else if c = '\r' then ['\\', 'r']
  else if c.toNat < 32 then controlEscape c
  else [c]

/-- A string with its quotes. -/
def stringChars (text : String) : List Char :=
  ['"'] ++ text.toList.flatMap stringChar ++ ['"']

/-- A number with an exponent, as it can be read back. -/
def realChars (significand : Nat) (exponent : Int) : List Char :=
  Decimal.ofNat significand ++ ['e'] ++ Decimal.ofInt exponent

/-- A string value; one that spells no text is written as the escape of half a surrogate pair. -/
def stringOrHalf : Option String → List Char
  | some text => stringChars text
  | none => ['"', '\\', 'u', 'd', '8', '0', '0', '"']

mutual

/-- A value without any space. -/
def compactChars : Json → List Char
  | .null => ['n', 'u', 'l', 'l']
  | .bool true => ['t', 'r', 'u', 'e']
  | .bool false => ['f', 'a', 'l', 's', 'e']
  | .integer value => Decimal.ofInt value
  | .real significand exponent => realChars significand exponent
  | .string text => stringOrHalf text
  | .array items => '[' :: compactItems items
  | .object members => '\x7b' :: compactMembers members

/-- The items of an array and its closing bracket. -/
def compactItems : List Json → List Char
  | [] => [']']
  | [item] => compactChars item ++ [']']
  | item :: rest => compactChars item ++ [','] ++ compactItems rest

/-- The members of an object and its closing brace. -/
def compactMembers : List (Option String × Json) → List Char
  | [] => ['\x7d']
  | [(name, item)] => stringOrHalf name ++ [':'] ++ compactChars item ++ ['\x7d']
  | (name, item) :: rest =>
    stringOrHalf name ++ [':'] ++ compactChars item ++ [','] ++ compactMembers rest

end

/-- A line break and the indentation of a level. -/
def newline (level : Nat) : List Char := '\n' :: List.replicate (2 * level) ' '

mutual

/-- A value with one item a line, at a level of indentation. -/
def prettyChars (level : Nat) : Json → List Char
  | .null => ['n', 'u', 'l', 'l']
  | .bool true => ['t', 'r', 'u', 'e']
  | .bool false => ['f', 'a', 'l', 's', 'e']
  | .integer value => Decimal.ofInt value
  | .real significand exponent => realChars significand exponent
  | .string text => stringOrHalf text
  | .array [] => ['[', ']']
  | .array (item :: rest) =>
    ['['] ++ newline (level + 1) ++ prettyChars (level + 1) item ++ prettyItems level rest
  | .object [] => ['\x7b', '\x7d']
  | .object ((name, item) :: rest) =>
    ['\x7b'] ++ newline (level + 1) ++ stringOrHalf name ++ [':', ' '] ++
      prettyChars (level + 1) item ++ prettyMembers level rest

/-- The items after the first, and the closing bracket on a line of its own. -/
def prettyItems (level : Nat) : List Json → List Char
  | [] => newline level ++ [']']
  | item :: rest =>
    [','] ++ newline (level + 1) ++ prettyChars (level + 1) item ++ prettyItems level rest

/-- The members after the first, and the closing brace on a line of its own. -/
def prettyMembers (level : Nat) : List (Option String × Json) → List Char
  | [] => newline level ++ ['\x7d']
  | (name, item) :: rest =>
    [','] ++ newline (level + 1) ++ stringOrHalf name ++ [':', ' '] ++
      prettyChars (level + 1) item ++ prettyMembers level rest

end

/-- The compact text of a value. -/
def compact (json : Json) : String := String.ofList (compactChars json)

/-- The pretty text of a value. -/
def pretty (json : Json) : String := String.ofList (prettyChars 0 json)

end TokenLedger.Json
