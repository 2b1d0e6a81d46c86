import TokenLedger.Json
import TokenLedger.Bytes
import TokenLedger.Text.Hexadecimal

/-!
# Reading JSON text

One value with white space around it and nothing else. A string is read in two steps: first its
units, characters and numbered escapes, which is where malformed text is refused; then the units are
joined to a text, which fails when an escape names half of a surrogate pair.
-/

namespace TokenLedger.Json

/-- The white space of JSON. -/
def isSpace (c : Char) : Bool := c = ' ' || c = '\n' || c = '\t' || c = '\r'

/-- The characters after leading white space. -/
def skipSpace (cs : List Char) : List Char := cs.dropWhile isSpace

/-! ## Strings -/

/-- A unit of a string: a character, or an escape that names a 16-bit code. -/
inductive StringUnit where
  /-- A character, written as itself or by a letter escape. -/
  | char (c : Char)
  /-- An escape of four hexadecimal digits. -/
  | code (value : Nat)
  deriving DecidableEq, Repr

/-- The value of four hexadecimal digits. -/
def hexCode? (a b c d : Char) : Option Nat := do
  let a ← Text.hexValue? a
  let b ← Text.hexValue? b
  let c ← Text.hexValue? c
  let d ← Text.hexValue? d
  some (((a * 16 + b) * 16 + c) * 16 + d)

/-- The character a letter escape stands for. -/
def letterEscape? : Char → Option Char
  | '"' => some '"'
  | '\\' => some '\\'
  | '/' => some '/'
  | 'b' => some '\x08'
  | 'f' => some '\x0c'
  | 'n' => some '\n'
  | 'r' => some '\r'
  | 't' => some '\t'
  | _ => none

/-- The units up to the closing quote, and what follows it. -/
def stringUnits : List Char → Option (List StringUnit × List Char)
  | [] => none
  | '"' :: rest => some ([], rest)
  | '\\' :: 'u' :: a :: b :: c :: d :: rest => do
    let code ← hexCode? a b c d
    let (units, rest) ← stringUnits rest
    some (.code code :: units, rest)
  | '\\' :: letter :: rest => do
    let c ← letterEscape? letter
    let (units, rest) ← stringUnits rest
    some (.char c :: units, rest)
  | c :: rest =>
    if c.toNat < 32 ∨ c = '\\' then none
    else do
      let (units, rest) ← stringUnits rest
      some (.char c :: units, rest)

/-- Whether a code is the first half of a surrogate pair. -/
def isHighSurrogate (code : Nat) : Bool := 0xD800 ≤ code && code ≤ 0xDBFF

/-- Whether a code is the second half of a surrogate pair. -/
def isLowSurrogate (code : Nat) : Bool := 0xDC00 ≤ code && code ≤ 0xDFFF

/-- The characters the units spell, unless a half of a surrogate pair stands alone. -/
def joinUnits : List StringUnit → Option (List Char)
  | [] => some []
  | .char c :: rest => (joinUnits rest).map (c :: ·)
  | .code high :: .code low :: rest =>
    if isHighSurrogate high then
      if isLowSurrogate low then
        (joinUnits rest).map (Char.ofNat (0x10000 + (high - 0xD800) * 0x400 + (low - 0xDC00)) :: ·)
      else none
    else if isLowSurrogate high then none
    else (joinUnits (.code low :: rest)).map (Char.ofNat high :: ·)
  | .code code :: rest =>
    if isHighSurrogate code || isLowSurrogate code then none
    else (joinUnits rest).map (Char.ofNat code :: ·)

/-- Two first halves of surrogate pairs in a row spell no text, whatever stands around them. -/
theorem joinUnits_highs_eq_none {high next : Nat} (first : isHighSurrogate high = true)
    (second : isHighSurrogate next = true) (front back : List StringUnit) :
    joinUnits (front ++ .code high :: .code next :: back) = none := by
  have apart {code : Nat} (half : isHighSurrogate code = true) : isLowSurrogate code = false := by
    simp only [isHighSurrogate, isLowSurrogate, Bool.and_eq_true, decide_eq_true_eq,
      Bool.and_eq_false_iff, decide_eq_false_iff_not] at half ⊢
    omega
  fun_induction joinUnits front with
  | case1 => simp [joinUnits, first, apart second]
  | case2 c rest hyp => simp [joinUnits, hyp]
  | case3 code low rest isHigh isLow hyp => simp [joinUnits, isHigh, isLow, hyp]
  | case4 code low rest isHigh isLow => simp [joinUnits, isHigh, isLow]
  | case5 code low rest notHigh isLow => simp [joinUnits, notHigh, isLow]
  | case6 code low rest notHigh notLow hyp => simpa [joinUnits, notHigh, notLow] using hyp
  | case7 code rest single isHalf =>
    match rest with
    | [] => cases isHigh : isHighSurrogate code <;> simp_all [joinUnits]
    | .char c :: rest => simp [joinUnits, isHalf]
    | .code low :: rest => exact (single low rest rfl).elim
  | case8 code rest single notHalf hyp =>
    match rest with
    | [] => cases isHigh : isHighSurrogate code <;> simp_all [joinUnits]
    | .char c :: rest => simpa [joinUnits, notHalf] using hyp
    | .code low :: rest => exact (single low rest rfl).elim

/-- A string after its opening quote. -/
def stringAfterQuote (cs : List Char) : Option (Option String × List Char) :=
  (stringUnits cs).map fun (units, rest) => ((joinUnits units).map String.ofList, rest)

/-! ## Numbers -/

/-- The longest run of digits, and what follows it. -/
def spanDigits (cs : List Char) : List Char × List Char := cs.span Decimal.isDigit

/-- The digits of a whole number: a zero alone, or a run that does not start with a zero. -/
def wholeDigits : List Char → Option (List Char × List Char)
  | '0' :: rest => some (['0'], rest)
  | cs => match spanDigits cs with
    | ([], _) => none
    | found => some found

/-- The digits after a decimal point, if there is one. -/
def fractionDigits : List Char → Option (List Char × List Char)
  | '.' :: rest => match spanDigits rest with
    | ([], _) => none
    | found => some found
  | cs => some ([], cs)

/-- The exponent, if there is one. -/
def exponentPart : List Char → Option (Option Int × List Char)
  | c :: rest =>
    if c = 'e' ∨ c = 'E' then
      let (negative, digits) := match rest with
        | '-' :: digits => (true, digits)
        | '+' :: digits => (false, digits)
        | digits => (false, digits)
      match spanDigits digits with
      | ([], _) => none
      | (found, rest) =>
        let size : Int := Decimal.value found
        some (some (if negative then -size else size), rest)
    else some (none, c :: rest)
  | [] => some (none, [])

/-- A number with a fraction or an exponent. Digits are gathered as long as they fit in a word, the
fraction going on where the whole digits stopped; a whole digit left over scales the number up. -/
def realNumber (whole fraction : List Char) (exponent : Int) : Json :=
  let (leading, dropped) := Decimal.extend wordBound 0 whole
  let (significand, rest) := Decimal.extend wordBound leading fraction
  .real significand (exponent + dropped.length - (fraction.length - rest.length : Nat))

/-- A number after its sign. -/
def unsignedNumber (negative : Bool) (cs : List Char) : Option (Json × List Char) := do
  let (whole, rest) ← wholeDigits cs
  let (fraction, rest) ← fractionDigits rest
  let (exponent, rest) ← exponentPart rest
  let magnitude := Decimal.value whole
  let json := match fraction, exponent with
    | [], none =>
      if negative then
        if magnitude = 0 then .real 0 0 else .integer (-(magnitude : Int))
      else .integer magnitude
    | _, _ => realNumber whole fraction (exponent.getD 0)
  some (json, rest)

/-- A number. -/
def number : List Char → Option (Json × List Char)
  | '-' :: rest => unsignedNumber true rest
  | cs => unsignedNumber false cs

/-! ## Values -/

/-- A word in front of the text, and what follows it. -/
def afterWord (word : List Char) (json : Json) (cs : List Char) : Option (Json × List Char) :=
  if word.isPrefixOf cs then some (json, cs.drop word.length) else none

mutual

/-- A value at the front of the text. Each step takes one unit of `fuel`. -/
def value : Nat → List Char → Option (Json × List Char)
  | 0, _ => none
  | fuel + 1, cs =>
    match cs with
    | '[' :: rest =>
      match skipSpace rest with
      | ']' :: rest => some (.array [], rest)
      | rest => (items fuel rest).map fun (found, rest) => (.array found, rest)
    | '\x7b' :: rest =>
      match skipSpace rest with
      | '\x7d' :: rest => some (.object [], rest)
      | rest => (members fuel rest).map fun (found, rest) => (.object found, rest)
    | '"' :: rest => (stringAfterQuote rest).map fun (text, rest) => (.string text, rest)
    | 'n' :: _ => afterWord ['n', 'u', 'l', 'l'] .null cs
    | 't' :: _ => afterWord ['t', 'r', 'u', 'e'] (.bool true) cs
    | 'f' :: _ => afterWord ['f', 'a', 'l', 's', 'e'] (.bool false) cs
    | cs => number cs

/-- The items of an array that is not empty, up to its closing bracket. -/
def items : Nat → List Char → Option (List Json × List Char)
  | 0, _ => none
  | fuel + 1, cs => do
    let (item, rest) ← value fuel cs
    match skipSpace rest with
    | ',' :: rest =>
      let (others, rest) ← items fuel (skipSpace rest)
      some (item :: others, rest)
    | ']' :: rest => some ([item], rest)
    | _ => none

/-- The members of an object that is not empty, up to its closing brace. -/
def members : Nat → List Char → Option (List (Option String × Json) × List Char)
  | 0, _ => none
  | fuel + 1, cs =>
    match cs with
    | '"' :: rest => do
      let (name, rest) ← stringAfterQuote rest
      match skipSpace rest with
      | ':' :: rest =>
        let (item, rest) ← value fuel (skipSpace rest)
        match skipSpace rest with
        | ',' :: rest =>
          let (others, rest) ← members fuel (skipSpace rest)
          some ((name, item) :: others, rest)
        | '\x7d' :: rest => some ([(name, item)], rest)
        | _ => none
      | _ => none
    | _ => none

end

/-- The value a list of characters spells. Each character can start at most two steps. -/
def parseChars (cs : List Char) : Option Json := do
  let (json, rest) ← value (2 * cs.length + 1) (skipSpace cs)
  if (skipSpace rest).isEmpty then some json else none

/-- The value a text spells. -/
def parse (text : String) : Option Json := parseChars text.toList

/-! ## Text given as bytes

A byte that belongs to no UTF-8 sequence is an error outside strings, and inside a string leaves it
without a text. Two escapes of first halves of surrogate pairs have the same effect whatever stands
around them (`joinUnits_highs_eq_none`), so such a byte is read as those; directly after a backslash
it completes no escape, and is read as a control character. -/

/-- The number of bytes of the sequence a first byte announces. -/
def sequenceLength (first : UInt8) : Nat :=
  if first < 0x80 then 1 else if first < 0xE0 then 2 else if first < 0xF0 then 3 else 4

/-- The first UTF-8 sequence of a byte string as a character, if it starts with one. -/
def firstChar? (bytes : Bytes) : Option (Char × Nat) :=
  match bytes with
  | [] => none
  | first :: _ =>
    let size := sequenceLength first
    match Bytes.text? (bytes.take size) with
    | some text => text.toList.head?.map fun c => (c, size)
    | none => none

/-- What a byte that belongs to no sequence is read as: no value, and no text inside a string. -/
def strayByte : List Char := "\\ud800\\ud800".toList

/-- The characters of a byte string; `escaping` says that a backslash waits for its letter. -/
def charsOfBytes : Nat → Bool → Bytes → List Char
  | 0, _, _ => []
  | _, _, [] => []
  | fuel + 1, escaping, first :: rest =>
    match firstChar? (first :: rest) with
    | some (c, size) => c :: charsOfBytes fuel (c = '\\' && !escaping) ((first :: rest).drop size)
    | none =>
      if escaping then '\x00' :: charsOfBytes fuel false rest
      else strayByte ++ charsOfBytes fuel false rest

/-- The value a byte string spells. -/
def parseBytes (bytes : Bytes) : Option Json :=
  match Bytes.text? bytes with
  | some text => parse text
  | none => parseChars (charsOfBytes bytes.length false bytes)

end TokenLedger.Json
