/-!
# Byte strings

Keys, values and encoded records are lists of bytes, ordered lexicographically. Text enters and
leaves as UTF-8; `text?_utf8` says that nothing is lost on the way. Words are written least
significant byte first.
-/

namespace TokenLedger

/-- A byte string: a key, a value or an encoded record. -/
abbrev Bytes := List UInt8

namespace Bytes

/-- The UTF-8 encoding of a text. -/
def utf8 (text : String) : Bytes := text.toByteArray.data.toList

/-- The text a byte string encodes, if it is well-formed UTF-8. -/
def text? (bytes : Bytes) : Option String := String.fromUTF8? ⟨bytes.toArray⟩

/-- Reading the encoding of a text gives the text back. -/
@[simp]
theorem text?_utf8 (text : String) : text? (utf8 text) = some text := by
  unfold text? utf8 String.fromUTF8?
  rw [Array.toArray_toList, dif_pos text.isValidUTF8]
  rfl

/-- Two texts with one encoding are the same text. -/
theorem utf8_injective {left right : String} (same : utf8 left = utf8 right) : left = right := by
  have read := congrArg text? same
  simpa using read

/-- Whatever is read from a byte string encodes to that byte string. -/
theorem utf8_of_text? {bytes : Bytes} {text : String} (read : text? bytes = some text) :
    utf8 text = bytes := by
  unfold text? String.fromUTF8? at read
  split at read
  · injection read with read
    subst read
    rfl
  · contradiction

/-- The length of a text, counted in bytes of its encoding. -/
def textLength (text : String) : Nat := (utf8 text).length

/-- A number in `width` bytes, least significant first; higher digits are dropped. -/
def ofNat : Nat → Nat → Bytes
  | 0, _ => []
  | width + 1, value => UInt8.ofNat value :: ofNat width (value / 256)

/-- The number a byte string holds, least significant byte first. -/
def toNat : Bytes → Nat
  | [] => 0
  | byte :: rest => byte.toNat + 256 * toNat rest

/-- A word takes exactly its declared width. -/
@[simp]
theorem length_ofNat (width value : Nat) : (ofNat width value).length = width := by
  induction width generalizing value with
  | zero => rfl
  | succ width ih => simp [ofNat, ih]

/-- A number that fits its width reads back. -/
theorem toNat_ofNat (width value : Nat) (fits : value < Nat.pow 256 width) :
    toNat (ofNat width value) = value := by
  induction width generalizing value with
  | zero =>
    have : value = 0 := by simpa using fits
    simp [ofNat, toNat, this]
  | succ width ih =>
    have high : value / 256 < Nat.pow 256 width := by
      rw [Nat.div_lt_iff_lt_mul (by decide)]
      simpa [Nat.pow_succ, Nat.mul_comm] using fits
    simp only [ofNat, toNat, ih _ high, UInt8.toNat_ofNat']
    omega

/-- The first `count` bytes and what follows them, or nothing if there are fewer. -/
def splitAt? (count : Nat) (bytes : Bytes) : Option (Bytes × Bytes) :=
  if count ≤ bytes.length then some (bytes.take count, bytes.drop count) else none

/-- A field in front of a byte string splits off whole. -/
theorem splitAt?_append (field rest : Bytes) :
    splitAt? field.length (field ++ rest) = some (field, rest) := by
  simp [splitAt?]

/-! ## Order -/

/-- No byte string precedes itself. -/
theorem lt_irrefl (key : Bytes) : ¬ key < key := List.lt_irrefl key

/-- Byte order is transitive. -/
theorem lt_trans {a b c : Bytes} (first : a < b) (second : b < c) : a < c :=
  List.lt_trans first second

/-- Two byte strings of which neither precedes the other are equal. -/
theorem eq_of_not_lt {a b : Bytes} (left : ¬ a < b) (right : ¬ b < a) : a = b :=
  List.le_antisymm (List.not_lt.mp right) (List.not_lt.mp left)

/-- A common front does not matter for the order of byte strings. -/
theorem append_lt_append_iff (front left right : Bytes) :
    front ++ left < front ++ right ↔ left < right := by
  induction front with
  | nil => exact Iff.rfl
  | cons byte front ih =>
    rw [List.cons_append, List.cons_append, List.cons_lt_cons_self]
    exact ih

/-- No byte string precedes one that it starts with. -/
theorem not_lt_of_prefix {start key : Bytes} (starts : start <+: key) : ¬ key < start := by
  obtain ⟨rest, rfl⟩ := starts
  induction start with
  | nil => exact List.not_lt_nil _
  | cons byte start ih =>
    rw [List.cons_append, List.cons_lt_cons_self]
    exact ih

/-- What lies between some bytes and a byte string that starts with them starts with them too. -/
theorem prefix_of_between {start first second : Bytes} (notBelow : ¬ first < start)
    (before : first < second) (starts : start <+: second) : start <+: first := by
  induction start generalizing first second with
  | nil => exact List.nil_prefix
  | cons byte start ih =>
    obtain ⟨rest, rfl⟩ := starts
    cases first with
    | nil => exact absurd (List.nil_lt_cons byte start) notBelow
    | cons head tail =>
      rw [List.cons_lt_cons_iff] at notBelow
      rw [List.cons_append, List.cons_lt_cons_iff] at before
      rcases before with lower | ⟨same, later⟩
      · exact absurd (.inl lower) notBelow
      · subst same
        have notBelowTail : ¬ tail < start := fun below => notBelow (.inr ⟨rfl, below⟩)
        have inner := ih notBelowTail later (List.prefix_append start rest)
        exact List.cons_prefix_cons.mpr ⟨rfl, inner⟩

end Bytes

end TokenLedger
