import TokenLedger.Address

/-!
# Addresses written and read

The forty digits of an address name it: writing and then reading gives the address back, and the
texts that name it are those that differ from its own in the case of the digits alone. The digits
are ASCII, so each takes one byte and the text of an address has a fixed size.
-/

namespace TokenLedger

namespace Bytes

/-- A text is encoded character by character. -/
theorem utf8_ofList (cs : List Char) :
    utf8 (String.ofList cs) = cs.flatMap String.utf8EncodeChar := by
  simp [utf8, List.utf8Encode]

/-- An ASCII character is encoded as the byte of its code. -/
theorem utf8_ofList_ascii {cs : List Char} (ascii : ∀ c ∈ cs, c.toNat < 128) :
    utf8 (String.ofList cs) = cs.map fun c => UInt8.ofNat c.toNat := by
  rw [utf8_ofList]
  induction cs with
  | nil => rfl
  | cons c cs ih =>
    have code : c.toNat < 128 := ascii c List.mem_cons_self
    have small : c.utf8Size = 1 := by
      rw [Char.utf8Size_eq_one_iff, UInt32.le_iff_toNat_le]
      change c.toNat ≤ 127
      omega
    rw [List.flatMap_cons, List.map_cons, ih fun other member => ascii other
      (List.mem_cons_of_mem _ member), String.utf8EncodeChar_eq_singleton small]
    rfl

end Bytes

namespace Hex

/-- A digit is an ASCII character, and its byte has the value it was made from. -/
theorem digitValue?_digit {half : UInt8} (small : half < 16) :
    (digit half).toNat < 128 ∧
      digitValue? (UInt8.ofNat (digit half).toNat) = some half := by
  have table : ∀ value < 16, (digit (UInt8.ofNat value)).toNat < 128 ∧
      digitValue? (UInt8.ofNat (digit (UInt8.ofNat value)).toNat) = some (UInt8.ofNat value) := by
    decide
  have place := table half.toNat (by simpa [UInt8.lt_iff_toNat_lt] using small)
  rwa [UInt8.ofNat_toNat] at place

/-- A byte is made up of its halves. -/
theorem halves (byte : UInt8) :
    byte / 16 < 16 ∧ byte % 16 < 16 ∧ byte / 16 * 16 + byte % 16 = byte := by
  have bound := byte.toNat_lt
  refine ⟨?_, ?_, ?_⟩
  · rw [UInt8.lt_iff_toNat_lt, UInt8.toNat_div]
    change byte.toNat / 16 < 16
    omega
  · rw [UInt8.lt_iff_toNat_lt, UInt8.toNat_mod]
    change byte.toNat % 16 < 16
    omega
  · rw [← UInt8.toNat_inj, UInt8.toNat_add, UInt8.toNat_mul, UInt8.toNat_div, UInt8.toNat_mod]
    change (byte.toNat / 16 * 16 % 2 ^ 8 + byte.toNat % 16) % 2 ^ 8 = byte.toNat
    omega

/-- The digits of bytes are ASCII, so the text has two bytes for each. -/
theorem utf8_encode (bytes : Bytes) :
    Bytes.utf8 (encode bytes) = bytes.flatMap fun byte =>
      [UInt8.ofNat (digit (byte / 16)).toNat, UInt8.ofNat (digit (byte % 16)).toNat] := by
  rw [encode, Bytes.utf8_ofList_ascii, List.map_flatMap]
  · rfl
  · intro c member
    obtain ⟨byte, _, inside⟩ := List.mem_flatMap.mp member
    obtain ⟨high, low, _⟩ := halves byte
    rcases List.mem_cons.mp inside with rfl | inside
    · exact (digitValue?_digit high).1
    · obtain rfl := List.mem_singleton.mp inside
      exact (digitValue?_digit low).1

/-- The text of bytes is twice as long. -/
theorem textLength_encode (bytes : Bytes) : Bytes.textLength (encode bytes) = 2 * bytes.length := by
  rw [Bytes.textLength, utf8_encode]
  induction bytes with
  | nil => rfl
  | cons byte rest ih =>
    rw [List.flatMap_cons, List.length_append, ih]
    simp only [List.length_cons, List.length_nil]
    omega

/-! ## Digits of either case -/

/-- A digit that is read is the lowercase digit of its value but for its case. -/
theorem digit_of_digitValue? {byte half : UInt8} (read : digitValue? byte = some half) :
    byte.toNat < 128 ∧ half < 16 ∧ (Char.ofNat byte.toNat).toLower = digit half := by
  have table : ∀ code < 256, ∀ value ∈ digitValue? (UInt8.ofNat code),
      code < 128 ∧ value < 16 ∧ (Char.ofNat code).toLower = digit value := by
    decide +kernel
  have place := table byte.toNat byte.toNat_lt half
  rw [UInt8.ofNat_toNat] at place
  exact place read

/-- A character that is the lowercase digit of a value but for its case is read as that value. -/
theorem digitValue?_of_toLower {c : Char} {half : UInt8} (small : half < 16)
    (lowered : c.toLower = digit half) :
    c.toNat < 128 ∧ digitValue? (UInt8.ofNat c.toNat) = some half := by
  have table : ∀ code < 91, ∀ value < 16, (Char.ofNat code).toLower = digit (UInt8.ofNat value) →
      digitValue? (UInt8.ofNat code) = some (UInt8.ofNat value) := by
    decide +kernel
  by_cases capital : c.val ≥ 'A'.val ∧ c.val ≤ 'Z'.val
  · have code : c.toNat < 91 := by
      have upper := UInt32.le_iff_toNat_le.mp capital.2
      change c.toNat ≤ 90 at upper
      omega
    have place := table c.toNat code half.toNat (by simpa [UInt8.lt_iff_toNat_lt] using small)
    rw [Char.ofNat_toNat, UInt8.ofNat_toNat] at place
    exact ⟨by omega, place lowered⟩
  · have kept : c.toLower = c := dif_neg capital
    rw [kept] at lowered
    rw [lowered]
    exact digitValue?_digit small

/-- Two halves are the halves of the byte they make up. -/
theorem halves_of_parts {high low : UInt8} (highSmall : high < 16) (lowSmall : low < 16) :
    (high * 16 + low) / 16 = high ∧ (high * 16 + low) % 16 = low := by
  have table : ∀ first < 16, ∀ second < 16,
      (UInt8.ofNat first * 16 + UInt8.ofNat second) / 16 = UInt8.ofNat first ∧
      (UInt8.ofNat first * 16 + UInt8.ofNat second) % 16 = UInt8.ofNat second := by
    decide +kernel
  have place := table high.toNat (by simpa [UInt8.lt_iff_toNat_lt] using highSmall) low.toNat
    (by simpa [UInt8.lt_iff_toNat_lt] using lowSmall)
  simpa only [UInt8.ofNat_toNat] using place

/-- An ASCII code is the code of its character. -/
theorem toNat_ofNat_ascii {code : Nat} (ascii : code < 128) : (Char.ofNat code).toNat = code := by
  have table : ∀ code < 128, (Char.ofNat code).toNat = code := by decide
  exact table code ascii

/-- Bytes that are read as digit pairs are characters that are the digits of what is read, but for
their case. -/
theorem exists_of_decodePairs {offset : Nat} {spelling bytes : Bytes}
    (read : decodePairs offset spelling = .ok bytes) :
    ∃ cs : List Char, (∀ c ∈ cs, c.toNat < 128) ∧
      spelling = cs.map (fun c => UInt8.ofNat c.toNat) ∧
      cs.map Char.toLower = bytes.flatMap fun byte => [digit (byte / 16), digit (byte % 16)] := by
  fun_induction decodePairs offset spelling generalizing bytes with
  | case1 offset high low rest notDigit => contradiction
  | case2 offset high low rest highValue isHigh notDigit => contradiction
  | case3 offset high low rest highValue isHigh lowValue isLow fault failed ih => contradiction
  | case4 offset high low rest highValue isHigh lowValue isLow others inner ih =>
    obtain ⟨cs, ascii, spelt, lowered⟩ := ih inner
    obtain ⟨highAscii, highSmall, highLowered⟩ := digit_of_digitValue? isHigh
    obtain ⟨lowAscii, lowSmall, lowLowered⟩ := digit_of_digitValue? isLow
    obtain ⟨first, second⟩ := halves_of_parts highSmall lowSmall
    have highCode : (Char.ofNat high.toNat).toNat = high.toNat := toNat_ofNat_ascii highAscii
    have lowCode : (Char.ofNat low.toNat).toNat = low.toNat := toNat_ofNat_ascii lowAscii
    injection read with read
    subst read
    refine ⟨Char.ofNat high.toNat :: Char.ofNat low.toNat :: cs, ?_, ?_, ?_⟩
    · simp only [List.forall_mem_cons, highCode, lowCode]
      exact ⟨highAscii, lowAscii, ascii⟩
    · simp only [List.map_cons, highCode, lowCode, UInt8.ofNat_toNat, spelt]
    · simp only [List.map_cons, List.flatMap_cons, List.cons_append, List.nil_append, highLowered,
        lowLowered, lowered, first, second]
  | case5 offset byte => contradiction
  | case6 offset =>
    injection read with read
    subst read
    exact ⟨[], by simp, rfl, rfl⟩

/-- The digits of bytes, whatever their case, are read as these bytes, at whatever offset. -/
theorem decodePairs_of_toLower {cs : List Char} {bytes : Bytes}
    (lowered : cs.map Char.toLower =
      bytes.flatMap fun byte => [digit (byte / 16), digit (byte % 16)]) (offset : Nat) :
    (∀ c ∈ cs, c.toNat < 128) ∧ cs.length = 2 * bytes.length ∧
      decodePairs offset (cs.map fun c => UInt8.ofNat c.toNat) = .ok bytes := by
  induction bytes generalizing cs offset with
  | nil =>
    obtain rfl : cs = [] := by simpa using lowered
    exact ⟨by simp, rfl, rfl⟩
  | cons byte rest ih =>
    match cs, lowered with
    | [], lowered => simp at lowered
    | [_], lowered => simp at lowered
    | high :: low :: cs, lowered =>
      simp only [List.map_cons, List.flatMap_cons, List.cons_append, List.nil_append,
        List.cons.injEq] at lowered
      obtain ⟨highLowered, lowLowered, others⟩ := lowered
      obtain ⟨highSmall, lowSmall, whole⟩ := halves byte
      obtain ⟨highAscii, highRead⟩ := digitValue?_of_toLower highSmall highLowered
      obtain ⟨lowAscii, lowRead⟩ := digitValue?_of_toLower lowSmall lowLowered
      obtain ⟨ascii, length, inner⟩ := ih others (offset + 2)
      refine ⟨?_, ?_, ?_⟩
      · simp only [List.forall_mem_cons]
        exact ⟨highAscii, lowAscii, ascii⟩
      · simp only [List.length_cons]
        omega
      · simp only [List.map_cons, decodePairs, highRead, lowRead, inner, whole]

/-- A text spells the bytes whose digits it has, in whatever case. -/
theorem decode_eq_ok_iff (text : String) (bytes : Bytes) :
    decode text = .ok bytes ↔ text.toList.map Char.toLower = (encode bytes).toList := by
  rw [encode, String.toList_ofList]
  constructor
  · intro read
    simp only [decode] at read
    split at read
    · contradiction
    · obtain ⟨cs, ascii, spelt, lowered⟩ := exists_of_decodePairs read
      rw [← Bytes.utf8_ofList_ascii ascii] at spelt
      rw [Bytes.utf8_injective spelt, String.toList_ofList]
      exact lowered
  · intro lowered
    obtain ⟨ascii, length, read⟩ := decodePairs_of_toLower lowered 0
    have spelt := Bytes.utf8_ofList_ascii ascii
    rw [String.ofList_toList] at spelt
    have even : ¬ ((Bytes.utf8 text).length % 2 = 1) := by
      rw [spelt, List.length_map, length]
      omega
    rw [decode, if_neg even, spelt]
    exact read

/-- Bytes written are read back. -/
theorem decode_encode (bytes : Bytes) : decode (encode bytes) = .ok bytes := by
  have small : ∀ value < 16, (digit (UInt8.ofNat value)).toLower = digit (UInt8.ofNat value) := by
    decide
  have lower {half : UInt8} (bound : half < 16) : (digit half).toLower = digit half := by
    have place := small half.toNat (by simpa [UInt8.lt_iff_toNat_lt] using bound)
    rwa [UInt8.ofNat_toNat] at place
  rw [decode_eq_ok_iff, encode, String.toList_ofList, List.map_flatMap]
  congr 1
  funext byte
  obtain ⟨high, low, _⟩ := halves byte
  simp only [List.map_cons, List.map_nil, lower high, lower low]

end Hex

namespace Address

/-- Addresses of the same bytes are the same. -/
theorem ext_bytes {left right : Address} (same : left.bytes = right.bytes) : left = right := by
  cases left
  cases right
  simpa using same

/-- The bytes of an address are that address. -/
theorem ofBytes?_bytes (address : Address) : ofBytes? address.bytes = some address := by
  rw [ofBytes?, dif_pos address.length_eq]

/-- The text of an address names it. -/
theorem parse_text (address : Address) : parse address.text = .ok address := by
  simp only [parse, text, Hex.decode_encode, ofBytes?_bytes]

/-- A text names an address if it is the text of the address but for the case of its digits. -/
theorem parse_eq_ok_iff (text : String) (address : Address) :
    parse text = .ok address ↔ text.toList.map Char.toLower = address.text.toList := by
  rw [Address.text, ← Hex.decode_eq_ok_iff, parse]
  constructor
  · intro read
    cases decoded : Hex.decode text with
    | error fault =>
      rw [decoded] at read
      contradiction
    | ok bytes =>
      by_cases length : bytes.length = 20
      · simp only [decoded, ofBytes?, dif_pos length, Except.ok.injEq] at read
        rw [← read]
      · simp only [decoded, ofBytes?, dif_neg length] at read
        contradiction
  · intro decoded
    simp only [decoded, ofBytes?_bytes]

/-- The text of an address takes forty bytes. -/
theorem textLength_text (address : Address) : Bytes.textLength address.text = 40 := by
  rw [text, Hex.textLength_encode, address.length_eq]

end Address

end TokenLedger
