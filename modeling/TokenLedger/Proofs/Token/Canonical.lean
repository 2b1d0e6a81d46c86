import TokenLedger.Proofs.Token.Record

/-!
# What is read as a token

Each field that is taken off stood at the front in the one way in which it is written, so the bytes
that are read as a token are known: the length of the body, the fields of the token in a row, the
digits of its owner in whatever case, and then anything. The form in which the token is written is
the one among them with lowercase digits and nothing left over.
-/

namespace TokenLedger

namespace Bytes

/-- What some bytes hold is below the bound of their number. -/
theorem toNat_lt (bytes : Bytes) : toNat bytes < Nat.pow 256 bytes.length := by
  induction bytes with
  | nil => decide
  | cons byte rest ih =>
    have digit := byte.toNat_lt
    change toNat rest < 256 ^ rest.length at ih
    change byte.toNat + 256 * toNat rest < 256 ^ rest.length * 256
    omega

/-- Bytes are the number they hold, written in as many bytes. -/
theorem ofNat_toNat (bytes : Bytes) : ofNat bytes.length (toNat bytes) = bytes := by
  induction bytes with
  | nil => rfl
  | cons byte rest ih =>
    have digit := byte.toNat_lt
    have low : UInt8.ofNat (byte.toNat + 256 * toNat rest) = byte := by
      rw [← UInt8.toNat_inj, UInt8.toNat_ofNat']
      omega
    have high : (byte.toNat + 256 * toNat rest) / 256 = toNat rest := by omega
    simp only [toNat, List.length_cons, ofNat, low, high, ih]

/-- Bytes split into a field of a length and the rest exactly if they are the two in a row. -/
theorem splitAt?_eq_some_iff {count : Nat} {bytes field rest : Bytes} :
    splitAt? count bytes = some (field, rest) ↔ bytes = field ++ rest ∧ field.length = count := by
  constructor
  · intro split
    unfold splitAt? at split
    split at split
    · next enough =>
      injection split with split
      obtain ⟨rfl, rfl⟩ := Prod.mk.inj split
      exact ⟨(List.take_append_drop count bytes).symm, List.length_take_of_le enough⟩
    · contradiction
  · rintro ⟨rfl, rfl⟩
    exact splitAt?_append field rest

end Bytes

namespace Token

/-! ## Fields -/

/-- Eight bytes at the front are the word that they hold. -/
theorem eq_word_of_splitAt? {bytes size rest : Bytes}
    (split : Bytes.splitAt? 8 bytes = some (size, rest)) :
    Bytes.toNat size < 2 ^ 64 ∧ bytes = Bytes.ofNat 8 (Bytes.toNat size) ++ rest := by
  obtain ⟨whole, length⟩ := Bytes.splitAt?_eq_some_iff.mp split
  have bound := Bytes.toNat_lt size
  have word := Bytes.ofNat_toNat size
  rw [length] at bound word
  exact ⟨by simpa using bound, by rw [word, whole]⟩

/-- A text that is taken off stood at the front after its length. -/
theorem eq_of_decodeText? {bytes rest : Bytes} {text : String}
    (read : decodeText? bytes = some (text, rest)) : bytes = encodeText text ++ rest := by
  simp only [decodeText?, Option.bind_eq_bind, Option.bind_eq_some_iff, Prod.exists] at read
  obtain ⟨size, afterSize, sized, content, afterContent, taken, found, utf8, same⟩ := read
  injection same with same
  obtain ⟨rfl, rfl⟩ := Prod.mk.inj same
  obtain ⟨_, whole⟩ := eq_word_of_splitAt? sized
  obtain ⟨parts, length⟩ := Bytes.splitAt?_eq_some_iff.mp taken
  have bytesOf := Bytes.utf8_of_text? utf8
  have size : Bytes.textLength found = Bytes.toNat size := by
    rw [Bytes.textLength, bytesOf, length]
  rw [whole, parts, encodeText, bytesOf, size, List.append_assoc]

/-- A byte in two's complement that is taken off stood at the front. -/
theorem eq_of_decodeInt8? {bytes rest : Bytes} {value : Int8}
    (read : decodeInt8? bytes = some (value, rest)) : bytes = value.toUInt8 :: rest := by
  cases bytes with
  | nil => contradiction
  | cons byte others =>
    simp only [decodeInt8?, Option.some.injEq, Prod.mk.injEq] at read
    obtain ⟨rfl, rfl⟩ := read
    rfl

/-- A word in two's complement that is taken off stood at the front. -/
theorem eq_of_decodeInt64? {bytes rest : Bytes} {value : Int64}
    (read : decodeInt64? bytes = some (value, rest)) :
    bytes = Bytes.ofNat 8 value.toUInt64.toNat ++ rest := by
  rw [decodeInt64?, Option.map_eq_some_iff] at read
  obtain ⟨⟨word, after⟩, split, same⟩ := read
  obtain ⟨rfl, rfl⟩ := Prod.mk.inj same
  obtain ⟨bound, whole⟩ := eq_word_of_splitAt? split
  rw [whole, UInt64.toUInt64_toInt64, UInt64.toNat_ofNat_of_lt' bound]

/-- A flag that is taken off stood at the front. -/
theorem eq_of_decodeFlag? {bytes rest : Bytes} {flag : Bool}
    (read : decodeFlag? bytes = some (flag, rest)) :
    bytes = (if flag then 1 else 0) :: rest := by
  unfold decodeFlag? at read
  split at read
  · simp only [Option.some.injEq, Prod.mk.injEq] at read
    obtain ⟨rfl, rfl⟩ := read
    rfl
  · simp only [Option.some.injEq, Prod.mk.injEq] at read
    obtain ⟨rfl, rfl⟩ := read
    rfl
  · contradiction

/-! ## Bodies -/

/-- A body that is read as a token has the fields of the token in a row, the owner spelt in some
way, and then whatever it likes. -/
theorem exists_of_decodeBody? {body : Bytes} {token : Token}
    (read : decodeBody? body = some token) :
    ∃ owner leftOver, Address.parse owner = .ok token.owner ∧
      body = bodyOwnedBy token owner ++ leftOver := by
  simp only [decodeBody?, Option.bind_eq_bind, Option.bind_eq_some_iff, Prod.exists] at read
  obtain ⟨symbol, _, symbolRead, name, _, nameRead, decimal, _, decimalRead, totalSupply, _,
    totalSupplyRead, mintable, _, mintableRead, description, _, descriptionRead, owner, leftOver,
    ownerRead, address, parsed, same⟩ := read
  injection same with same
  subst same
  have named : Address.parse owner = .ok address := by
    cases given : Address.parse owner with
    | error cause =>
      rw [given] at parsed
      contradiction
    | ok other =>
      rw [given] at parsed
      injection parsed with parsed
      rw [parsed]
  refine ⟨owner, leftOver, named, ?_⟩
  rw [eq_of_decodeText? symbolRead, eq_of_decodeText? nameRead, eq_of_decodeInt8? decimalRead,
    eq_of_decodeInt64? totalSupplyRead, eq_of_decodeFlag? mintableRead,
    eq_of_decodeText? descriptionRead, eq_of_decodeText? ownerRead]
  simp only [bodyOwnedBy, List.append_assoc, List.cons_append, List.nil_append]

/-! ## Records -/

/-- Bytes that are a record of a token: its fields stand in a row, the owner in digits of some
spelling, then some bytes that are left over, and in front of them the length of all this. -/
structure Spelled (token : Token) (owner : String) (leftOver record : Bytes) : Prop where
  /-- The digits of the owner are those of its address, but for their case. -/
  lowered_owner : lowered owner = token.owner.text
  /-- The length of the body fits in a memory word. -/
  short : (bodyOwnedBy token owner ++ leftOver).length < 2 ^ 64
  /-- The record is that length and the body. -/
  record_eq : record = recordOf (bodyOwnedBy token owner ++ leftOver)

/-- Some digits name the owner of a token if they are its digits but for their case. -/
theorem parse_owner_iff (owner : String) (address : Address) :
    Address.parse owner = .ok address ↔ lowered owner = address.text := by
  rw [Address.parse_eq_ok_iff, lowered]
  constructor
  · intro same
    rw [same, String.ofList_toList]
  · intro same
    rw [← same, String.toList_ofList]

/-- A record is read as a token exactly if it is one of its spellings. -/
theorem decode_eq_ok_iff (record : Bytes) (token : Token) :
    decode record = .ok token ↔ ∃ owner leftOver, token.Spelled owner leftOver record := by
  constructor
  · intro read
    unfold decode at read
    split at read
    · contradiction
    · next size body sized =>
      obtain ⟨bound, whole⟩ := eq_word_of_splitAt? sized
      simp only at read
      split at read
      · contradiction
      · next declared =>
        rw [ne_eq, not_not] at declared
        cases found : decodeBody? body with
        | none =>
          rw [found] at read
          contradiction
        | some other =>
          rw [found] at read
          injection read with same
          subst same
          obtain ⟨owner, leftOver, named, written⟩ := exists_of_decodeBody? found
          rw [declared] at bound whole
          refine ⟨owner, leftOver, (parse_owner_iff owner _).mp named, ?_, ?_⟩
          · rw [← written]
            exact bound
          · rw [← written]
            exact whole
  · rintro ⟨owner, leftOver, spelled⟩
    rw [spelled.record_eq]
    exact decode_recordOf spelled.short ((parse_owner_iff owner _).mpr spelled.lowered_owner)

/-- A spelling is how the token is written exactly if the digits of the owner are in lowercase and
nothing is left over. -/
theorem Spelled.encode_eq_iff {token : Token} {owner : String} {leftOver record : Bytes}
    (spelled : token.Spelled owner leftOver record) :
    encode token = record ↔ owner = token.owner.text ∧ leftOver = [] := by
  rw [spelled.record_eq, encode_eq_recordOf]
  constructor
  · intro same
    have bodies := (List.append_inj same (by simp)).2
    simp only [bodyOwnedBy, List.append_assoc, List.append_cancel_left_eq] at bodies
    have length : Bytes.textLength owner < 2 ^ 64 := by
      have parts := length_bodyOwnedBy token owner
      have short := spelled.short
      rw [List.length_append] at short
      omega
    have digits : Bytes.textLength token.owner.text < 2 ^ 64 := by
      rw [Address.textLength_text]
      decide
    -- What is left of both bodies starts with the text of the owner: reading it tells them apart.
    have read := congrArg decodeText? bodies
    rw [decodeText?_encodeText digits, decodeText?_encodeText length] at read
    simp only [Option.some.injEq, Prod.mk.injEq] at read
    exact ⟨read.1.symm, read.2.symm⟩
  · rintro ⟨rfl, rfl⟩
    rfl

/-! ## What is written is read back, and what is read was written so -/

/-- A token whose texts are shorter than 2⁶³ bytes together is read back from its record, whatever
its texts, its numbers, its flag and its owner are; so no other token has that record. -/
theorem record_reads_back {token : Token}
    (short : Bytes.textLength token.symbol + Bytes.textLength token.name +
      Bytes.textLength token.description < 2 ^ 63) :
    decode (encode token) = .ok token ∧ ∀ other, encode other = encode token → other = token := by
  have length := length_encode token
  have own : decode (encode token) = .ok token := decode_encode_of_lt (by omega)
  refine ⟨own, fun other same => ?_⟩
  have others : decode (encode other) = .ok other := by
    refine decode_encode_of_lt ?_
    rw [same]
    omega
  rw [same, own] at others
  exact (Except.ok.inj others).symm

namespace Sample

/-- A token with the least numbers and texts beyond ASCII. -/
def foreign : Token where
  symbol := "ß𐍈"
  name := "名\x00"
  decimal := -128
  totalSupply := -9223372036854775808
  mintable := true
  description := "🪙 \"\\"
  owner := ⟨List.replicate 20 0xff, rfl⟩

/-- A token whose owner has letters among its digits. -/
def bitcoin : Token where
  symbol := "btc"
  name := "bitcoin"
  decimal := 6
  totalSupply := 1000
  mintable := true
  description := ""
  owner := ⟨List.replicate 20 0xab, rfl⟩

/-- Its owner in capitals. -/
def capitals : String := String.ofList (List.replicate 20 ['A', 'B']).flatten

/-- Its record with one byte more behind the digits of the owner, which the length counts. -/
def leftOver : Bytes := recordOf (bodyOwnedBy bitcoin bitcoin.owner.text ++ [0])

end Sample

/-- A token of texts beyond ASCII and of the least numbers is read back, and it alone has its
record. -/
theorem record_reads_back_sample :
    (Bytes.textLength Sample.foreign.symbol + Bytes.textLength Sample.foreign.name +
      Bytes.textLength Sample.foreign.description < 2 ^ 63) ∧
    decode (encode Sample.foreign) = .ok Sample.foreign ∧
    ∀ other, encode other = encode Sample.foreign → other = Sample.foreign :=
  have short : Bytes.textLength Sample.foreign.symbol + Bytes.textLength Sample.foreign.name +
      Bytes.textLength Sample.foreign.description < 2 ^ 63 := by decide
  ⟨short, record_reads_back short⟩

/-- Bytes are read as a token exactly if they spell it, and the token is written as these very bytes
exactly if they spell its owner in lowercase and leave nothing over. -/
theorem decoded_canonical_iff (record : Bytes) (token : Token) :
    (decode record = .ok token ↔ ∃ owner leftOver, token.Spelled owner leftOver record) ∧
      ∀ owner leftOver, token.Spelled owner leftOver record →
        (encode token = record ↔ owner = token.owner.text ∧ leftOver = []) :=
  ⟨decode_eq_ok_iff record token, fun _ _ spelled => spelled.encode_eq_iff⟩

/-- A record that spells the owner in capitals is read as a token that is not written so. -/
theorem decoded_canonical_iff_sample :
    Sample.bitcoin.Spelled Sample.capitals []
      (recordOf (bodyOwnedBy Sample.bitcoin Sample.capitals ++ [])) ∧
    decode (recordOf (bodyOwnedBy Sample.bitcoin Sample.capitals ++ [])) = .ok Sample.bitcoin ∧
    encode Sample.bitcoin ≠ recordOf (bodyOwnedBy Sample.bitcoin Sample.capitals ++ []) := by
  have spelled : Sample.bitcoin.Spelled Sample.capitals []
      (recordOf (bodyOwnedBy Sample.bitcoin Sample.capitals ++ [])) := by
    refine ⟨by decide, ?_, rfl⟩
    rw [List.append_nil, length_bodyOwnedBy]
    decide
  obtain ⟨read, canonical⟩ := decoded_canonical_iff
    (recordOf (bodyOwnedBy Sample.bitcoin Sample.capitals ++ [])) Sample.bitcoin
  refine ⟨spelled, read.mpr ⟨_, _, spelled⟩, fun written => ?_⟩
  have lower := ((canonical _ _ spelled).mp written).1
  exact absurd lower (by decide)

/-- A record with a byte left over behind its last field is read as a token, though no token is
written so. -/
theorem decode_leftOver :
    decode Sample.leftOver = .ok Sample.bitcoin ∧ ∀ token, encode token ≠ Sample.leftOver := by
  have length : (encode Sample.bitcoin).length = 100 := by
    rw [length_encode]
    decide
  have longer : Sample.leftOver.length = (encode Sample.bitcoin).length + 1 := by
    rw [Sample.leftOver, encode_eq_recordOf, length_recordOf, length_recordOf]
    simp only [List.length_append, List.length_singleton, List.length_nil]
    omega
  have short : (bodyOwnedBy Sample.bitcoin Sample.bitcoin.owner.text ++ [0]).length < 2 ^ 64 := by
    rw [Sample.leftOver, length_recordOf] at longer
    omega
  have read : decode Sample.leftOver = .ok Sample.bitcoin :=
    decode_recordOf short (Address.parse_text Sample.bitcoin.owner)
  refine ⟨read, fun token written => ?_⟩
  -- The only token that could be written so is the one that is read, and its record is shorter.
  have own : decode (encode token) = .ok token := decode_encode_of_lt (by rw [written]; omega)
  rw [written, read] at own
  rw [← Except.ok.inj own] at written
  rw [written] at longer
  omega

end Token

end TokenLedger
