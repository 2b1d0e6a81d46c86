import TokenLedger.Binary64
import TokenLedger.Config.Toml
import TokenLedger.Text.Hexadecimal

/-!
# Reading TOML text

A document is read line by line: a header opens a table, and a key with a value is bound in the
table opened last. Values may nest; each reader gives the characters it left.
-/

namespace TokenLedger.Toml

/-- Whether a character is a space or a tab. -/
def isSpace (c : Char) : Bool := c = ' ' || c = '\t'

/-- The characters after spaces and tabs. -/
def skipSpace (cs : List Char) : List Char := cs.dropWhile isSpace

/-- Whether a character may stand in a comment or a literal string. -/
def isPlain (c : Char) : Bool := c = '\t' || (32 ≤ c.toNat && c.toNat ≠ 127)

/-- The characters after a line break, if there is one. -/
def lineBreak? : List Char → Option (List Char)
  | '\n' :: rest => some rest
  | '\r' :: '\n' :: rest => some rest
  | _ => none

/-- The characters after a comment, if there is one. -/
def skipComment : List Char → List Char
  | '#' :: rest => rest.dropWhile isPlain
  | cs => cs

/-- The characters after the rest of a line: spaces, a comment, and a line break or the end. -/
def endOfLine? (cs : List Char) : Option (List Char) :=
  match skipComment (skipSpace cs) with
  | [] => some []
  | rest => lineBreak? rest

/-- The characters after any number of spaces, comments and line breaks. -/
def skipLines : Nat → List Char → List Char
  | 0, cs => cs
  | fuel + 1, cs =>
    let rest := skipComment (skipSpace cs)
    match lineBreak? rest with
    | some rest => skipLines fuel rest
    | none => rest

/-! ## Strings -/

/-- A character given by a number of hexadecimal digits. -/
def codePoint? (digits : Nat) (cs : List Char) : Option (Char × List Char) := do
  let codes ← (cs.take digits).mapM Text.hexValue?
  if codes.length ≠ digits then none
  else
    let code := codes.foldl (fun total digit => total * 16 + digit) 0
    if code.isValidChar then some (Char.ofNat code, cs.drop digits) else none

/-- The character of an escape, after its backslash. -/
def escape? : List Char → Option (Char × List Char)
  | 'b' :: rest => some ('\x08', rest)
  | 't' :: rest => some ('\t', rest)
  | 'n' :: rest => some ('\n', rest)
  | 'f' :: rest => some ('\x0c', rest)
  | 'r' :: rest => some ('\r', rest)
  | '"' :: rest => some ('"', rest)
  | '\\' :: rest => some ('\\', rest)
  | 'u' :: rest => codePoint? 4 rest
  | 'U' :: rest => codePoint? 8 rest
  | _ => none

/-- A basic string after its opening quote. -/
def basicString : Nat → List Char → Option (List Char × List Char)
  | 0, _ => none
  | fuel + 1, cs =>
    match cs with
    | '"' :: rest => some ([], rest)
    | '\\' :: rest => do
      let (c, rest) ← escape? rest
      let (found, rest) ← basicString fuel rest
      some (c :: found, rest)
    | c :: rest => do
      if isPlain c then
        let (found, rest) ← basicString fuel rest
        some (c :: found, rest)
      else none
    | [] => none

/-- A literal string after its opening quote. -/
def literalString : List Char → Option (List Char × List Char)
  | '\'' :: rest => some ([], rest)
  | c :: rest => do
    if isPlain c then
      let (found, rest) ← literalString rest
      some (c :: found, rest)
    else none
  | [] => none

/-- The characters after the white space that a backslash at the end of a line swallows. -/
def skipContinuation : Nat → List Char → List Char
  | 0, cs => cs
  | fuel + 1, cs =>
    match lineBreak? (skipSpace cs) with
    | some rest => skipContinuation fuel rest
    | none => skipSpace cs

/-- The quotes that belong to a string of several lines and the ones that close it, from a run. -/
def closingRun (mark : Char) (cs : List Char) : Option (List Char × List Char) :=
  let run := cs.takeWhile (· = mark)
  if run.length < 3 then none
  else if run.length ≤ 5 then some (run.drop 3, cs.drop run.length)
  else some (List.replicate 2 mark, cs.drop 5)

/-- A basic string of several lines after its opening quotes. -/
def basicLines : Nat → List Char → Option (List Char × List Char)
  | 0, _ => none
  | fuel + 1, cs =>
    match cs with
    | '"' :: rest =>
      match closingRun '"' cs with
      | some closed => some closed
      | none => do
        let (found, rest) ← basicLines fuel rest
        some ('"' :: found, rest)
    | '\\' :: rest =>
      match lineBreak? (skipSpace rest) with
      | some rest => basicLines fuel (skipContinuation fuel rest)
      | none => do
        let (c, rest) ← escape? rest
        let (found, rest) ← basicLines fuel rest
        some (c :: found, rest)
    | c :: rest =>
      match lineBreak? cs with
      | some rest => do
        let (found, rest) ← basicLines fuel rest
        some ('\n' :: found, rest)
      | none => do
        if isPlain c then
          let (found, rest) ← basicLines fuel rest
          some (c :: found, rest)
        else none
    | [] => none

/-- A literal string of several lines after its opening quotes. -/
def literalLines : Nat → List Char → Option (List Char × List Char)
  | 0, _ => none
  | fuel + 1, cs =>
    match cs with
    | '\'' :: rest =>
      match closingRun '\'' cs with
      | some closed => some closed
      | none => do
        let (found, rest) ← literalLines fuel rest
        some ('\'' :: found, rest)
    | c :: rest =>
      match lineBreak? cs with
      | some rest => do
        let (found, rest) ← literalLines fuel rest
        some ('\n' :: found, rest)
      | none => do
        if isPlain c then
          let (found, rest) ← literalLines fuel rest
          some (c :: found, rest)
        else none
    | [] => none

/-- The characters after a line break that directly follows opening quotes. -/
def skipFirstBreak (cs : List Char) : List Char := (lineBreak? cs).getD cs

/-- A string of any of the four kinds. -/
def string? (cs : List Char) : Option (String × List Char) :=
  let found := match cs with
    | '"' :: '"' :: '"' :: rest => basicLines (rest.length + 1) (skipFirstBreak rest)
    | '\'' :: '\'' :: '\'' :: rest => literalLines (rest.length + 1) (skipFirstBreak rest)
    | '"' :: rest => basicString (rest.length + 1) rest
    | '\'' :: rest => literalString rest
    | _ => none
  found.map fun (found, rest) => (String.ofList found, rest)

/-! ## Keys -/

/-- Whether a character may stand in a bare key. -/
def isBare (c : Char) : Bool :=
  ('a' ≤ c && c ≤ 'z') || ('A' ≤ c && c ≤ 'Z') || ('0' ≤ c && c ≤ '9') || c = '_' || c = '-'

/-- One part of a key: bare, or a string of one line. -/
def simpleKey? (cs : List Char) : Option (String × List Char) :=
  match cs with
  | '"' :: rest => (basicString (rest.length + 1) rest).map fun (found, rest) =>
      (String.ofList found, rest)
  | '\'' :: rest => (literalString rest).map fun (found, rest) => (String.ofList found, rest)
  | _ =>
    match cs.takeWhile isBare with
    | [] => none
    | key => some (String.ofList key, cs.dropWhile isBare)

/-- How deep values may nest, and of how many parts a key may be. -/
def maxDepth : Nat := 79

/-- The parts of a key with dots between them, and what follows the spaces after it. -/
def keyParts? : Nat → List Char → Option (List String × List Char)
  | 0, _ => none
  | fuel + 1, cs => do
    let (part, rest) ← simpleKey? (skipSpace cs)
    match skipSpace rest with
    | '.' :: rest =>
      let (parts, rest) ← keyParts? fuel rest
      some (part :: parts, rest)
    | rest => some ([part], rest)

/-- A key, and what follows the spaces after it. -/
def key? (cs : List Char) : Option (List String × List Char) :=
  (keyParts? (cs.length + 1) cs).filter fun found => found.1.length ≤ maxDepth

/-! ## Numbers, dates and times -/

/-- Digits of a base with single underscores between them. -/
def groupedDigits? (isDigit : Char → Bool) : List Char → Option (List Char)
  | [] => none
  | [c] => if isDigit c then some [c] else none
  | c :: '_' :: rest => if isDigit c then (groupedDigits? isDigit rest).map (c :: ·) else none
  | c :: rest => if isDigit c then (groupedDigits? isDigit rest).map (c :: ·) else none

/-- The number of some digits of a base. -/
def ofDigits (base : Nat) (digits : List Char) : Nat :=
  digits.foldl (fun total c => total * base + (Text.hexValue? c).getD 0) 0

/-- Whether a character is a digit of a base up to sixteen. -/
def isDigitOf (base : Nat) (c : Char) : Bool :=
  match Text.hexValue? c with
  | some digit => digit < base
  | none => false

/-- A whole number in decimal without leading zeros. -/
def wholeNumber? (cs : List Char) : Option Nat := do
  let digits ← groupedDigits? (isDigitOf 10) cs
  match digits with
  | '0' :: _ :: _ => none
  | _ => some (ofDigits 10 digits)

/-- An integer, if it fits in 64 bits. -/
def ofInteger (value : Int) : Option Toml :=
  if -0x8000000000000000 ≤ value ∧ value < 0x8000000000000000 then some (.integer value) else none

/-- Splits off a leading sign. -/
def splitSign : List Char → Int × List Char
  | '-' :: rest => (-1, rest)
  | '+' :: rest => (1, rest)
  | cs => (1, cs)

/-- The exponent of a number, after its letter. -/
def exponent? (cs : List Char) : Option Int := do
  let (sign, digits) := splitSign cs
  let digits ← groupedDigits? (isDigitOf 10) digits
  some (sign * ofDigits 10 digits)

/-- The significand and the exponent of a number with a fraction or an exponent, after its sign. -/
def decimal? (cs : List Char) : Option (Nat × Int) := do
  let isDigitish (c : Char) : Bool := isDigitOf 10 c || c = '_'
  let whole ← wholeNumber? (cs.takeWhile isDigitish)
  match cs.dropWhile isDigitish with
  | '.' :: rest =>
    let fraction ← groupedDigits? (isDigitOf 10) (rest.takeWhile isDigitish)
    let significand := whole * Nat.pow 10 fraction.length + ofDigits 10 fraction
    match rest.dropWhile isDigitish with
    | [] => some (significand, -fraction.length)
    | c :: rest =>
      if c = 'e' ∨ c = 'E' then some (significand, (← exponent? rest) - fraction.length) else none
  | c :: rest => if c = 'e' ∨ c = 'E' then some (whole, ← exponent? rest) else none
  | [] => none

/-- A number that is no integer, after its sign. A positive one has to be in range unless it is
written as infinite. -/
def real? (sign : Int) (cs : List Char) : Option Toml :=
  if cs = ['i', 'n', 'f'] || cs = ['n', 'a', 'n'] then some .real
  else do
    let (significand, exponent) ← decimal? cs
    if sign < 0 || Binary64.holds significand exponent then some .real else none

/-- The number of exactly `count` digits at the front. -/
def fixedDigits? (count : Nat) (cs : List Char) : Option (Nat × List Char) :=
  let digits := cs.take count
  if digits.length = count && digits.all (isDigitOf 10) then
    some (ofDigits 10 digits, cs.drop count)
  else none

/-- The number of days of a month. -/
def daysOf (year month : Nat) : Nat :=
  if month = 2 then
    if (year % 4 = 0 ∧ year % 100 ≠ 0) ∨ year % 400 = 0 then 29 else 28
  else if month = 4 ∨ month = 6 ∨ month = 9 ∨ month = 11 then 30
  else 31

/-- The characters after a date. -/
def afterDate? (cs : List Char) : Option (List Char) := do
  let (year, rest) ← fixedDigits? 4 cs
  let '-' :: rest := rest | none
  let (month, rest) ← fixedDigits? 2 rest
  let '-' :: rest := rest | none
  let (day, rest) ← fixedDigits? 2 rest
  if 1 ≤ month ∧ month ≤ 12 ∧ 1 ≤ day ∧ day ≤ daysOf year month then some rest else none

/-- The characters after a time of day. -/
def afterTime? (cs : List Char) : Option (List Char) := do
  let (hour, rest) ← fixedDigits? 2 cs
  let ':' :: rest := rest | none
  let (minute, rest) ← fixedDigits? 2 rest
  let ':' :: rest := rest | none
  let (second, rest) ← fixedDigits? 2 rest
  if 24 ≤ hour ∨ 60 ≤ minute ∨ 61 ≤ second then none
  else
    match rest with
    | '.' :: rest =>
      match rest.takeWhile (isDigitOf 10) with
      | [] => none
      | _ => some (rest.dropWhile (isDigitOf 10))
    | rest => some rest

/-- Whether characters are the offset of a time, or nothing. -/
def isOffset (cs : List Char) : Bool :=
  match cs with
  | [] => true
  | ['Z'] => true
  | ['z'] => true
  | sign :: rest =>
    (sign = '+' || sign = '-') &&
      match fixedDigits? 2 rest with
      | some (hour, ':' :: rest) =>
        match fixedDigits? 2 rest with
        | some (minute, []) => decide (hour < 24) && decide (minute < 60)
        | _ => false
      | _ => false

/-- Whether characters are a date, a time, or both. -/
def isMoment (cs : List Char) : Bool :=
  match afterDate? cs with
  | some [] => true
  | some (mark :: rest) =>
    (mark = 'T' || mark = 't' || mark = ' ') &&
      match afterTime? rest with
      | some rest => isOffset rest
      | none => false
  | none => afterTime? cs = some []

/-- Whether a character may stand in a number, a date, a time or a word. -/
def isScalar (c : Char) : Bool := isBare c || c = '+' || c = '.' || c = ':'

/-- The characters of a scalar. A date may be followed by a space and a time. -/
def scalarRun (cs : List Char) : List Char × List Char :=
  let run := cs.takeWhile isScalar
  let rest := cs.dropWhile isScalar
  match afterDate? run, rest with
  | some [], ' ' :: more =>
    if (fixedDigits? 2 more).isSome then
      (run ++ ' ' :: more.takeWhile isScalar, more.dropWhile isScalar)
    else (run, rest)
  | _, _ => (run, rest)

/-- A number, a date, a time or a truth value. -/
def scalar? (cs : List Char) : Option Toml :=
  match cs with
  | ['t', 'r', 'u', 'e'] => some (.bool true)
  | ['f', 'a', 'l', 's', 'e'] => some (.bool false)
  | '0' :: 'x' :: digits => (groupedDigits? (isDigitOf 16) digits).bind fun digits =>
      ofInteger (ofDigits 16 digits)
  | '0' :: 'o' :: digits => (groupedDigits? (isDigitOf 8) digits).bind fun digits =>
      ofInteger (ofDigits 8 digits)
  | '0' :: 'b' :: digits => (groupedDigits? (isDigitOf 2) digits).bind fun digits =>
      ofInteger (ofDigits 2 digits)
  | _ =>
    let (sign, digits) := splitSign cs
    match wholeNumber? digits with
    | some value => ofInteger (sign * value)
    | none =>
      if isMoment cs then some .moment else real? sign digits

/-! ## Values -/

mutual

/-- A value. Containers take one unit of `depth`, and every step one of `fuel`. -/
def value? : Nat → Nat → List Char → Option (Toml × List Char)
  | 0, _, _ => none
  | fuel + 1, depth, cs =>
    match cs with
    | '[' :: rest =>
      match depth with
      | 0 => none
      | depth + 1 => (arrayItems? fuel depth rest).map fun (found, rest) => (.array found, rest)
    | '\x7b' :: rest =>
      match depth with
      | 0 => none
      | depth + 1 =>
        match skipSpace rest with
        | '\x7d' :: rest => some (.inlineTable [], rest)
        | rest => do
          let (found, rest) ← pairs? fuel depth rest
          let members ← ofPairs [] found
          some (.inlineTable members, rest)
    | '"' :: _ => (string? cs).map fun (found, rest) => (.text found, rest)
    | '\'' :: _ => (string? cs).map fun (found, rest) => (.text found, rest)
    | _ =>
      let (run, rest) := scalarRun cs
      (scalar? run).map fun found => (found, rest)

/-- The items of an array up to its closing bracket. -/
def arrayItems? : Nat → Nat → List Char → Option (List Toml × List Char)
  | 0, _, _ => none
  | fuel + 1, depth, cs =>
    match skipLines cs.length cs with
    | ']' :: rest => some ([], rest)
    | cs => do
      let (item, rest) ← value? fuel depth cs
      match skipLines rest.length rest with
      | ',' :: rest =>
        let (others, rest) ← arrayItems? fuel depth rest
        some (item :: others, rest)
      | ']' :: rest => some ([item], rest)
      | _ => none

/-- The keys and values of a table in one line up to its closing brace. -/
def pairs? : Nat → Nat → List Char → Option (List (List String × Toml) × List Char)
  | 0, _, _ => none
  | fuel + 1, depth, cs => do
    let (key, rest) ← key? cs
    match rest with
    | '=' :: rest =>
      let (item, rest) ← value? fuel depth (skipSpace rest)
      match skipSpace rest with
      | ',' :: rest =>
        let (others, rest) ← pairs? fuel depth rest
        some ((key, item) :: others, rest)
      | '\x7d' :: rest => some ([(key, item)], rest)
      | _ => none
    | _ => none

end

/-! ## Documents -/

/-- The document so far: all members, and the header of the table opened last. -/
structure Draft where
  /-- The members of the whole document. -/
  members : Members
  /-- The path of the table opened last. -/
  header : List String

/-- Opens the table of a header with `openIt`. -/
def Draft.openAt (openIt : String → Members → Option Members) (draft : Draft)
    (path : List String) : Option Draft := do
  let last ← path.getLast?
  let members ← changeAt (openIt last) path.dropLast draft.members
  some ⟨members, path⟩

/-- One line that is neither empty nor a comment, and the characters after it. -/
def line? (draft : Draft) (cs : List Char) : Option (Draft × List Char) :=
  match cs with
  | '[' :: '[' :: rest => do
    let (path, rest) ← key? rest
    let ']' :: ']' :: rest := rest | none
    let draft ← draft.openAt openElement path
    some (draft, ← endOfLine? rest)
  | '[' :: rest => do
    let (path, rest) ← key? rest
    let ']' :: rest := rest | none
    let draft ← draft.openAt openTable path
    some (draft, ← endOfLine? rest)
  | _ => do
    let (key, rest) ← key? cs
    let '=' :: rest := rest | none
    let (found, rest) ← value? (2 * rest.length + 2) maxDepth (skipSpace rest)
    let last ← key.getLast?
    let members ← changeAt (bindDotted last found key.dropLast) draft.header draft.members
    some (⟨members, draft.header⟩, ← endOfLine? rest)

/-- The lines of a document; each step takes one unit of `fuel`. -/
def lines? : Nat → Draft → List Char → Option Draft
  | 0, _, _ => none
  | fuel + 1, draft, cs =>
    match skipLines cs.length cs with
    | [] => some draft
    | cs => do
      let (draft, rest) ← line? draft (skipSpace cs)
      lines? fuel draft rest

/-- The members of a document. -/
def parse? (text : String) : Option Members :=
  let cs := match text.toList with
    | '\uFEFF' :: rest => rest
    | cs => cs
  (lines? (cs.length + 1) ⟨[], []⟩ cs).map Draft.members

end TokenLedger.Toml
