import TokenLedger.Token
import TokenLedger.Fault

/-!
# Token records

The stored form of a token: the length of a body in eight bytes, then the body. In the body, texts
stand after their length in eight bytes, integers in two's complement at their width, the flag in
one byte, and the owner as the text of its address; all words start with the least significant byte.
Reading checks the declared length first. Bytes that remain inside the body after the last field
are passed over.
-/

namespace TokenLedger.Token

/-- A text after its length. -/
def encodeText (text : String) : Bytes :=
  Bytes.ofNat 8 (Bytes.textLength text) ++ Bytes.utf8 text

/-- The body of a record. -/
def encodeBody (token : Token) : Bytes :=
  encodeText token.symbol ++ encodeText token.name ++ [token.decimal.toUInt8] ++
    Bytes.ofNat 8 token.totalSupply.toUInt64.toNat ++ [if token.mintable then 1 else 0] ++
    encodeText token.description ++ encodeText token.owner.text

/-- The record of a token. -/
def encode (token : Token) : Bytes :=
  Bytes.ofNat 8 (encodeBody token).length ++ encodeBody token

/-- A text at the front of a body. -/
def decodeText? (bytes : Bytes) : Option (String × Bytes) := do
  let (size, rest) ← Bytes.splitAt? 8 bytes
  let (content, rest) ← Bytes.splitAt? (Bytes.toNat size) rest
  let text ← Bytes.text? content
  some (text, rest)

/-- A flag at the front of a body: zero or one. -/
def decodeFlag? : Bytes → Option (Bool × Bytes)
  | 0 :: rest => some (false, rest)
  | 1 :: rest => some (true, rest)
  | _ => none

/-- A byte in two's complement at the front of a body. -/
def decodeInt8? : Bytes → Option (Int8 × Bytes)
  | byte :: rest => some (byte.toInt8, rest)
  | [] => none

/-- Eight bytes in two's complement at the front of a body. -/
def decodeInt64? (bytes : Bytes) : Option (Int64 × Bytes) :=
  (Bytes.splitAt? 8 bytes).map fun (word, rest) => ((UInt64.ofNat (Bytes.toNat word)).toInt64, rest)

/-- The token at the front of a body. -/
def decodeBody? (body : Bytes) : Option Token := do
  let (symbol, rest) ← decodeText? body
  let (name, rest) ← decodeText? rest
  let (decimal, rest) ← decodeInt8? rest
  let (totalSupply, rest) ← decodeInt64? rest
  let (mintable, rest) ← decodeFlag? rest
  let (description, rest) ← decodeText? rest
  let (ownerText, _) ← decodeText? rest
  let owner ← (Address.parse ownerText).toOption
  some { symbol, name, decimal, totalSupply, mintable, description, owner }

/-- The token of a record. Only tokens are ever stored, so anything else is a fault. -/
def decode (record : Bytes) : Except Fault Token :=
  match Bytes.splitAt? 8 record with
  | none => .error (.shortRecord record.length)
  | some (size, body) =>
    let declared := Bytes.toNat size
    if declared ≠ body.length then .error (.wrongRecordLength declared body.length)
    else
      match decodeBody? body with
      | some token => .ok token
      | none => .error .malformedRecord

end TokenLedger.Token
