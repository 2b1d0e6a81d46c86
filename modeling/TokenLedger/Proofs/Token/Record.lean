import Mathlib.Algebra.Ring.Nat
import TokenLedger.Proofs.Address
import TokenLedger.Proofs.Token.Rules
import TokenLedger.Token.Record

/-!
# Token records read back

A field in front of a body is taken off whole and leaves the rest, so the fields of a body are read
in the order in which they were written. The record of every token that may be stored reads back as
the token: its texts are short, so the lengths in the record are exact.
-/

namespace TokenLedger.Token

/-- A field of a known length splits off whole. -/
theorem splitAt?_field {count : Nat} {field : Bytes} (size : field.length = count) (rest : Bytes) :
    Bytes.splitAt? count (field ++ rest) = some (field, rest) := by
  rw [← size]
  exact Bytes.splitAt?_append field rest

/-- A length of one word is read back. -/
theorem toNat_word {size : Nat} (fits : size < 2 ^ 64) : Bytes.toNat (Bytes.ofNat 8 size) = size :=
  Bytes.toNat_ofNat 8 size (by simpa using fits)

/-- A text in front of a body is taken off. -/
theorem decodeText?_encodeText {text : String} (short : Bytes.textLength text < 2 ^ 64)
    (rest : Bytes) : decodeText? (encodeText text ++ rest) = some (text, rest) := by
  have size := splitAt?_field (Bytes.length_ofNat 8 (Bytes.textLength text))
    (Bytes.utf8 text ++ rest)
  have length : (Bytes.utf8 text).length = Bytes.textLength text := rfl
  have content := splitAt?_field length rest
  simp only [decodeText?, encodeText, List.append_assoc, size, toNat_word short, content,
    Bytes.text?_utf8, Option.bind_eq_bind, Option.bind_some]

/-- A total supply in front of a body is taken off. -/
theorem decodeInt64?_word (supply : Int64) (rest : Bytes) :
    decodeInt64? (Bytes.ofNat 8 supply.toUInt64.toNat ++ rest) = some (supply, rest) := by
  have split := splitAt?_field (Bytes.length_ofNat 8 supply.toUInt64.toNat) rest
  simp only [decodeInt64?, split, Option.map_some, toNat_word supply.toUInt64.toNat_lt,
    UInt64.ofNat_toNat, Int64.toInt64_toUInt64]

/-- A flag in front of a body is taken off. -/
theorem decodeFlag?_flag (flag : Bool) (rest : Bytes) :
    decodeFlag? ((if flag then 1 else 0) :: rest) = some (flag, rest) := by
  cases flag <;> rfl

/-- The body of a record in which the owner is spelt in some way. -/
def bodyOwnedBy (token : Token) (owner : String) : Bytes :=
  encodeText token.symbol ++ encodeText token.name ++ [token.decimal.toUInt8] ++
    Bytes.ofNat 8 token.totalSupply.toUInt64.toNat ++ [if token.mintable then 1 else 0] ++
    encodeText token.description ++ encodeText owner

/-- A body in which the owner is spelt in any way that names it is read as the token, if its texts
fit in memory words; what stands behind it is passed over. -/
theorem decodeBody?_bodyOwnedBy {token : Token} {owner : String}
    (symbol : Bytes.textLength token.symbol < 2 ^ 64)
    (name : Bytes.textLength token.name < 2 ^ 64)
    (description : Bytes.textLength token.description < 2 ^ 64)
    (spelling : Bytes.textLength owner < 2 ^ 64) (named : Address.parse owner = .ok token.owner)
    (leftOver : Bytes) : decodeBody? (bodyOwnedBy token owner ++ leftOver) = some token := by
  simp only [decodeBody?, bodyOwnedBy, List.append_assoc, List.cons_append, List.nil_append,
    decodeText?_encodeText symbol, decodeText?_encodeText name,
    decodeText?_encodeText description, decodeText?_encodeText spelling, decodeInt8?,
    decodeInt64?_word, decodeFlag?_flag, named, Int8.toInt8_toUInt8, Option.bind_eq_bind,
    Option.bind_some]
  rfl

/-- The body of a record is as long as its texts and a few words. -/
theorem length_bodyOwnedBy (token : Token) (owner : String) :
    (bodyOwnedBy token owner).length = Bytes.textLength token.symbol +
      Bytes.textLength token.name + Bytes.textLength token.description +
      Bytes.textLength owner + 42 := by
  have text (value : String) : (encodeText value).length = 8 + Bytes.textLength value := by
    rw [encodeText, List.length_append, Bytes.length_ofNat, Bytes.textLength]
  simp only [bodyOwnedBy, List.length_append, text, Bytes.length_ofNat, List.length_singleton]
  omega

/-- A body as a record: its length, then the body itself. -/
def recordOf (body : Bytes) : Bytes := Bytes.ofNat 8 body.length ++ body

/-- A token is written with the forty digits of its owner, and nothing behind them. -/
theorem encode_eq_recordOf (token : Token) :
    encode token = recordOf (bodyOwnedBy token token.owner.text ++ []) := by
  rw [List.append_nil]
  rfl

/-- A record is eight bytes longer than its body. -/
theorem length_recordOf (body : Bytes) : (recordOf body).length = 8 + body.length := by
  rw [recordOf, List.length_append, Bytes.length_ofNat]

/-- A record whose body fits in a memory word is read as the token of its fields, whatever their
texts and numbers are. -/
theorem decode_recordOf {token : Token} {owner : String} {leftOver : Bytes}
    (fits : (bodyOwnedBy token owner ++ leftOver).length < 2 ^ 64)
    (named : Address.parse owner = .ok token.owner) :
    decode (recordOf (bodyOwnedBy token owner ++ leftOver)) = .ok token := by
  have parts := length_bodyOwnedBy token owner
  have whole : (bodyOwnedBy token owner ++ leftOver).length =
      (bodyOwnedBy token owner).length + leftOver.length := List.length_append
  have body : decodeBody? (bodyOwnedBy token owner ++ leftOver) = some token :=
    decodeBody?_bodyOwnedBy (by omega) (by omega) (by omega) (by omega) named leftOver
  generalize bodyOwnedBy token owner ++ leftOver = written at fits body
  have split := splitAt?_field (Bytes.length_ofNat 8 written.length) written
  simp only [decode, recordOf, split, toNat_word fits, ne_eq, not_true, if_false, body]

/-- A record is as long as the texts of its token and ninety bytes more. -/
theorem length_encode (token : Token) :
    (encode token).length = Bytes.textLength token.symbol + Bytes.textLength token.name +
      Bytes.textLength token.description + 90 := by
  have owner := Address.textLength_text token.owner
  rw [encode_eq_recordOf, List.append_nil, length_recordOf, length_bodyOwnedBy]
  omega

/-- A token whose texts are shorter than a memory word, by the ninety bytes that a record has beside
them, is read back from its record. -/
theorem decode_encode_of_lt {token : Token} (short : (encode token).length < 2 ^ 64) :
    decode (encode token) = .ok token := by
  rw [encode_eq_recordOf, length_recordOf] at short
  rw [encode_eq_recordOf]
  exact decode_recordOf (by omega) (Address.parse_text token.owner)

/-- A token whose record fits in memory: a vector has fewer than 2⁶³ bytes, so no other token can be
written. -/
def Fits (token : Token) : Prop := (encode token).length < 2 ^ 63

/-- The record of a token that fits in memory is read as that token, whatever its texts and numbers
are. -/
theorem Fits.decode_encode {token : Token} (fits : token.Fits) :
    decode (encode token) = .ok token := by
  rw [Fits] at fits
  exact decode_encode_of_lt (by omega)

/-- A token of short texts. -/
structure Compact (token : Token) : Prop where
  /-- The name is short. -/
  name : Bytes.textLength token.name ≤ 32
  /-- So is the description. -/
  description : Bytes.textLength token.description ≤ 1024
  /-- So is the symbol. -/
  symbol : Bytes.textLength token.symbol ≤ 12

/-- A token of short texts fits in memory. -/
theorem Compact.fits {token : Token} (compact : token.Compact) : token.Fits := by
  have name := compact.name
  have description := compact.description
  have symbol := compact.symbol
  rw [Fits, length_encode]
  omega

/-- The record of a token of short texts is read as that token, whatever its numbers are. -/
theorem Compact.decode_encode {token : Token} (compact : token.Compact) :
    decode (encode token) = .ok token :=
  compact.fits.decode_encode

/-- A token that may be stored has short texts. -/
theorem Storable.compact {token : Token} (stored : token.Storable) : token.Compact :=
  ⟨textLength_name stored.name, stored.description, stored.symbolLength.2⟩

/-- The record of a token that may be stored is read as that token. -/
theorem Storable.decode_encode {token : Token} (stored : token.Storable) :
    decode (encode token) = .ok token :=
  stored.compact.decode_encode

end TokenLedger.Token
