import TokenLedger.Bytes

/-!
# Hexadecimal text

Bytes are written as two lowercase digits each. Reading accepts digits of either case. A refusal
names the first fault: an odd number of bytes in the text is looked at before any digit, and a bad
digit is reported as the byte found and its offset.
-/

namespace TokenLedger.Hex

/-- The digit for a half byte, lowercase. -/
def digit (half : UInt8) : Char :=
  if half < 10 then Char.ofNat (48 + half.toNat) else Char.ofNat (87 + half.toNat)

/-- The value of a digit of either case, given as a byte of the text. -/
def digitValue? (byte : UInt8) : Option UInt8 :=
  if 48 ≤ byte ∧ byte ≤ 57 then some (byte - 48)
  else if 97 ≤ byte ∧ byte ≤ 102 then some (byte - 87)
  else if 65 ≤ byte ∧ byte ≤ 70 then some (byte - 55)
  else none

/-- Two lowercase digits a byte, high half first. -/
def encode (bytes : Bytes) : String :=
  String.ofList (bytes.flatMap fun byte => [digit (byte / 16), digit (byte % 16)])

/-- Why a text is not hexadecimal. -/
inductive Fault where
  /-- The text has an odd number of bytes. -/
  | oddLength
  /-- The byte at this offset is no digit. -/
  | badDigit (byte : UInt8) (offset : Nat)
  deriving DecidableEq, Repr

/-- Digit pairs to bytes; `offset` counts the bytes already read. -/
def decodePairs : Nat → Bytes → Except Fault Bytes
  | offset, high :: low :: rest =>
    match digitValue? high with
    | none => .error (.badDigit high offset)
    | some highValue =>
      match digitValue? low with
      | none => .error (.badDigit low (offset + 1))
      | some lowValue =>
        match decodePairs (offset + 2) rest with
        | .error fault => .error fault
        | .ok bytes => .ok ((highValue * 16 + lowValue) :: bytes)
  | _, [_] => .error .oddLength
  | _, [] => .ok []

/-- The bytes a text spells. -/
def decode (text : String) : Except Fault Bytes :=
  let digits := Bytes.utf8 text
  if digits.length % 2 = 1 then .error .oddLength else decodePairs 0 digits

/-- The bytes a text spells, with no reason when it spells none. -/
def decode? (text : String) : Option Bytes := (decode text).toOption

end TokenLedger.Hex
