import TokenLedger.Bytes.Hex
import TokenLedger.Digest
import TokenLedger.Json.Form
import TokenLedger.Text.Quoted

/-!
# Account addresses

An account is named by twenty bytes, written as forty hexadecimal digits. The account of a module is
named by a digest of the module's name.
-/

namespace TokenLedger

/-- The name of an account. -/
structure Address where
  /-- The twenty bytes. -/
  bytes : Bytes
  /-- Every address has the same length. -/
  length_eq : bytes.length = 20
  deriving DecidableEq

/-- Why a text names no account. -/
inductive AddressError where
  /-- The text is not hexadecimal. -/
  | notHex (fault : Hex.Fault)
  /-- The text spells another number of bytes. -/
  | wrongLength (actual : Nat)
  deriving DecidableEq

/-- What is wrong with a hexadecimal text. A bad byte is shown as the character of its own code. -/
def Hex.Fault.message : Hex.Fault → String
  | .oddLength => "Odd number of digits"
  | .badDigit byte offset =>
    "Invalid character " ++ Text.quoteChar (Char.ofNat byte.toNat) ++ " at position " ++
      Decimal.text offset

/-- What is wrong with the text of an address. -/
def AddressError.message : AddressError → String
  | .notHex fault => "address is not valid hex: " ++ fault.message
  | .wrongLength actual => "address length should be 20, got " ++ Decimal.text actual

namespace Address

/-- The address a byte string is, if it has the length of one. -/
def ofBytes? (bytes : Bytes) : Option Address :=
  if length : bytes.length = 20 then some ⟨bytes, length⟩ else none

/-- The address a text names. -/
def parse (text : String) : Except AddressError Address :=
  match Hex.decode text with
  | .error fault => .error (.notHex fault)
  | .ok bytes =>
    match ofBytes? bytes with
    | some address => .ok address
    | none => .error (.wrongLength bytes.length)

/-- The forty digits of an address. -/
def text (address : Address) : String := Hex.encode address.bytes

/-- The address derived from some data: the first twenty bytes of its digest. -/
def ofData (data : Bytes) : Address :=
  ⟨(Digest.sha256 data).bytes.take 20, by simp [(Digest.sha256 data).length_eq]⟩

/-- The account of a module. -/
def ofModule (name : String) : Address := ofData (Bytes.utf8 name)

instance : JsonForm Address where
  toJson address := .text address.text
  ofJson? json := json.text?.bind fun text => (parse text).toOption

end Address

end TokenLedger
