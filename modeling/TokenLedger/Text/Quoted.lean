import TokenLedger.Text.Printable

/-!
# Quoted text

Messages show a text between quotes, with the characters that would mislead a reader written as
escapes: the quote itself, the backslash, the usual controls by letter, and every other hidden
character by code point.
-/

namespace TokenLedger.Text

/-- Lowercase hexadecimal digits of a number, without leading zeros. -/
def hexDigits (value : Nat) : List Char := Nat.toDigits 16 value

/-- One character of a quoted text; `mark` is the quote that has to be escaped. -/
def escapeChar (mark c : Char) : List Char :=
  if c = '\x00' then ['\\', '0']
  else if c = '\t' then ['\\', 't']
  else if c = '\r' then ['\\', 'r']
  else if c = '\n' then ['\\', 'n']
  else if c = '\\' then ['\\', '\\']
  else if c = mark then ['\\', mark]
  else if isPrintable c then [c]
  else ['\\', 'u', '\x7b'] ++ hexDigits c.toNat ++ ['\x7d']

/-- A text between double quotes. -/
def quote (text : String) : String :=
  String.ofList (['"'] ++ text.toList.flatMap (escapeChar '"') ++ ['"'])

/-- A character between single quotes. -/
def quoteChar (c : Char) : String := String.ofList (['\''] ++ escapeChar '\'' c ++ ['\''])

end TokenLedger.Text
