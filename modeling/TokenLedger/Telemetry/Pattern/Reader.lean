import TokenLedger.Telemetry.Pattern
import TokenLedger.Text.Hexadecimal

/-!
# Reading patterns

A pattern is read from the left: characters, escapes and sets stand for themselves, a repetition is
put around what stands before it, and a parenthesis opens a pattern within the pattern. Counted
repetitions and everything else that needs a closing brace cannot occur, because a brace ends the
field a pattern belongs to.
-/

namespace TokenLedger.Pattern

/-- The character after a character, for deciding what a dash in a set means: blank ones and the
mark of a comment do not count if the pattern is `spaced`. -/
def peek (spaced : Bool) (cs : List Char) : Option Char :=
  if !spaced then cs.head?
  else
    match cs.dropWhile Text.isBlank with
    | '#' :: rest => (rest.dropWhile Text.isBlank).head? <|> cs.head?
    | found => found.head? <|> cs.head?

/-! ## Escapes -/

/-- What an escape stands for. -/
inductive Escape where
  /-- A character; `asByte` if it is written as a byte of two digits. -/
  | char (c : Char) (asByte : Bool)
  /-- A class of characters. -/
  | shorthand (negated : Bool)
  /-- An end of the text. -/
  | anchor
  /-- An edge of a word, or a place that is none. -/
  | wordEdge
  deriving DecidableEq, Repr

/-- The number of a given count of digits; the pattern may be `spaced`. -/
def hexDigits? (spaced : Bool) : Nat → Nat → List Char → Option (Nat × List Char)
  | 0, total, cs => some (total, skip spaced cs)
  | count + 1, total, cs =>
    match skip spaced cs with
    | [] => none
    | c :: rest => do hexDigits? spaced count (total * 16 + (← Text.hexValue? c)) rest

/-- The character named by a given count of digits. -/
def hexChar? (spaced asByte : Bool) (count : Nat) (cs : List Char) :
    Option (Escape × List Char) := do
  let (code, rest) ← hexDigits? spaced count 0 cs
  if code.isValidChar then some (.char (Char.ofNat code) asByte, rest) else none

/-- The character a letter stands for. -/
def letterChar? : Char → Option Char
  | 'a' => some '\x07'
  | 'f' => some '\x0c'
  | 't' => some '\t'
  | 'n' => some '\n'
  | 'r' => some '\r'
  | 'v' => some '\x0b'
  | _ => none

/-- Whether a character stands for itself after a backslash. -/
def isEscapable (c : Char) : Bool :=
  CharSet.isAscii c && !c.isAlphanum && c ≠ '<' && c ≠ '>'

/-- An escape, after its backslash. -/
def escape? (spaced : Bool) : List Char → Option (Escape × List Char)
  | [] => none
  | c :: rest =>
    if c = 'x' then hexChar? spaced true 2 rest
    else if c = 'u' then hexChar? spaced false 4 rest
    else if c = 'U' then hexChar? spaced false 8 rest
    else if ['d', 's', 'w'].contains c then some (.shorthand false, rest)
    else if ['D', 'S', 'W'].contains c then some (.shorthand true, rest)
    else if c = 'A' || c = 'z' then some (.anchor, rest)
    else if ['b', 'B', '<', '>'].contains c then some (.wordEdge, rest)
    else if isEscapable c then some (.char c false, rest)
    else (letterChar? c).map fun c => (.char c false, rest)

/-! ## Sets -/

/-- The names of classes of ASCII characters. -/
def classNames : List String :=
  ["alnum", "alpha", "ascii", "blank", "cntrl", "digit", "graph", "lower", "print", "punct",
    "space", "upper", "word", "xdigit"]

/-- A class named between colons in brackets, after its opening bracket. -/
def className? (cs : List Char) : Option (CharSet × List Char) :=
  match cs with
  | ':' :: rest =>
    let (negated, rest) := match rest with
      | '^' :: rest => (true, rest)
      | rest => (false, rest)
    match rest.dropWhile (· ≠ ':') with
    | ':' :: ']' :: after =>
      if classNames.contains (String.ofList (rest.takeWhile (· ≠ ':'))) then
        some (.named negated, after)
      else none
    | _ => none
  | _ => none

/-- A character or a class in a set. -/
def setAtom? (spaced : Bool) : List Char → Option (Escape × List Char)
  | [] => none
  | '\\' :: rest => escape? spaced rest
  | c :: rest => some (.char c false, rest)

/-- An item of a set that is no set: a range, or a character or class alone. A dash before another
dash or before the closing bracket makes no range. -/
def setItem? (spaced : Bool) (cs : List Char) : Option (CharSet × List Char) := do
  let (first, rest) ← setAtom? spaced cs
  let alone : Option CharSet := match first with
    | .char c _ => some (.char c)
    | .shorthand negated => some (.shorthand negated)
    | .anchor | .wordEdge => none
  let found := skip spaced rest
  match found with
  | [] => none
  | '-' :: rest =>
    if peek spaced rest = some ']' || peek spaced rest = some '-' then
      return (← alone, found)
    else
      let (last, rest) ← setAtom? spaced (skip spaced rest)
      match first, last with
      | .char first _, .char last _ => if first ≤ last then some (.range first last, rest) else none
      | _, _ => none
  | _ => return (← alone, found)

/-- The set of some items, last first. -/
def unionOf : List CharSet → CharSet
  | [] => .nothing
  | [item] => item
  | items => .union items.reverse

/-- A set joined to the one on its left, if there is one. -/
def joinTo (left : Option CharSet) (right : CharSet) : CharSet :=
  match left with
  | none => right
  | some left => .joined left right

/-- The dashes at the start of a set, and a closing bracket there, which stand for themselves. -/
def setStart? (spaced : Bool) : Nat → List CharSet → List Char →
    Option (List CharSet × List Char)
  | 0, _, _ => none
  | fuel + 1, items, cs =>
    match cs with
    | [] => none
    | '-' :: rest => setStart? spaced fuel (.char '-' :: items) (skip spaced rest)
    | ']' :: rest =>
      if items.isEmpty then
        match skip spaced rest with
        | [] => none
        | rest => some ([.char ']'], rest)
      else some (items, cs)
    | cs => some (items, cs)

mutual

/-- A set after its opening bracket. Each step takes one unit of `fuel`. -/
def set? (spaced : Bool) : Nat → List Char → Option ((Bool × CharSet) × List Char)
  | 0, _ => none
  | fuel + 1, cs => do
    let cs := skip spaced cs
    let (negated, cs) := match cs with
      | '^' :: rest => (true, skip spaced rest)
      | cs => (false, cs)
    let (items, rest) ← setStart? spaced (cs.length + 1) [] cs
    let (inner, rest) ← setItems? spaced fuel none items rest
    some ((negated, inner), rest)

/-- The items of a set up to its closing bracket: `left` is what an operator joins to them, `items`
are those read, last first. -/
def setItems? (spaced : Bool) : Nat → Option CharSet → List CharSet → List Char →
    Option (CharSet × List Char)
  | 0, _, _, _ => none
  | fuel + 1, left, items, cs =>
    match skip spaced cs with
    | [] => none
    | ']' :: rest => some (joinTo left (unionOf items), rest)
    | '[' :: rest =>
      match className? rest with
      | some (item, rest) => setItems? spaced fuel left (item :: items) rest
      | none => do
        let ((negated, inner), rest) ← set? spaced fuel rest
        setItems? spaced fuel left (.nested negated inner :: items) rest
    | '&' :: '&' :: rest => setItems? spaced fuel (joinTo left (unionOf items)) [] rest
    | '-' :: '-' :: rest => setItems? spaced fuel (joinTo left (unionOf items)) [] rest
    | '~' :: '~' :: rest => setItems? spaced fuel (joinTo left (unionOf items)) [] rest
    | cs => do
      let (item, rest) ← setItem? spaced cs
      setItems? spaced fuel left (item :: items) rest

end

/-! ## Groups -/

/-- The letters of flags. -/
def flagLetters : List Char := ['i', 'm', 's', 'U', 'u', 'R', 'x']

/-- Flags up to the colon or parenthesis that ends them: `changes` are those read, and after a minus
sign flags are `negated`, of which there must be one. -/
def flags? (changes : FlagChanges) (negated : Bool) : List Char →
    Option (FlagChanges × List Char)
  | [] => none
  | c :: rest =>
    if c = ':' || c = ')' then some (changes.reverse, c :: rest)
    else if c = '-' then
      match rest with
      | next :: _ =>
        if negated || next = ':' || next = ')' then none else flags? changes true rest
      | [] => none
    else if flagLetters.contains c && (changes.lookup c).isNone then
      flags? ((c, !negated) :: changes) negated rest
    else none

/-- Whether a character may stand in the name of a group. -/
def isNameChar (first : Bool) (c : Char) : Bool :=
  c = '_' ||
    if first then Text.isLetter c
    else ['.', '[', ']'].contains c || Text.isLetterOrNumber c

/-- The name of a group up to the mark that closes it. -/
def groupName? (cs : List Char) : Option (List Char × List Char) :=
  let name := cs.takeWhile (· ≠ '>')
  match name, cs.dropWhile (· ≠ '>') with
  | first :: others, '>' :: rest =>
    if isNameChar true first && others.all (isNameChar false) then some (name, rest) else none
  | _, _ => none

/-- What an opening parenthesis begins. -/
inductive Opening where
  /-- A group, perhaps with a name and with flags of its own. -/
  | group (name : Option (List Char)) (changes : FlagChanges)
  /-- Flags for the rest of the group around them. -/
  | flags (changes : FlagChanges)

/-- What begins at an opening parenthesis, and what follows. -/
def opening? (spaced : Bool) (cs : List Char) : Option (Opening × List Char) :=
  match skip spaced cs with
  | '?' :: 'P' :: '<' :: rest => (groupName? rest).map fun (name, rest) => (.group name [], rest)
  | '?' :: '<' :: rest => (groupName? rest).map fun (name, rest) => (.group name [], rest)
  | '?' :: rest =>
    match flags? [] false rest with
    | some (changes, ':' :: rest) => some (.group none changes, rest)
    | some (changes, ')' :: rest) =>
      if changes.isEmpty then none else some (.flags changes, rest)
    | _ => none
  | rest => some (.group none [], rest)

/-! ## Patterns -/

/-- What a reader of patterns keeps in mind. -/
structure Reading where
  /-- Whether blank characters do not count. -/
  spaced : Bool
  /-- The names of the groups so far. -/
  names : List (List Char)

/-- The reading after some flags. -/
def Reading.change (reading : Reading) (changes : FlagChanges) : Reading :=
  { reading with spaced := (changes.lookup 'x').getD reading.spaced }

/-- The pattern of some parts, last first. -/
def sequenceOf : List Pattern → Pattern
  | [] => .empty
  | [part] => part
  | parts => .sequence parts.reverse

/-- The pattern of some alternatives, last first. -/
def alternativesOf : List Pattern → Pattern
  | [choice] => choice
  | choices => .alternatives choices.reverse

/-- The parts read with the last of them repeated. Flags cannot be. -/
def repeatLast? : List Pattern → Option (List Pattern)
  | [] => none
  | .flags _ :: _ => none
  | part :: parts => some (.repeated part :: parts)

/-- The pattern of an escape. -/
def ofEscape : Escape → Pattern
  | .char c asByte => .char c asByte
  | .shorthand negated => .shorthand negated
  | .anchor => .anchor
  | .wordEdge => .wordEdge

/-- A pattern up to a closing parenthesis or the end: `choices` are the alternatives before the
present one and `parts` those of its parts that are read, both last first. -/
def read? : Nat → Reading → List Pattern → List Pattern → List Char →
    Option (Pattern × Reading × List Char)
  | 0, _, _, _, _ => none
  | fuel + 1, reading, choices, parts, cs =>
    match skip reading.spaced cs with
    | [] => some (alternativesOf (sequenceOf parts :: choices), reading, [])
    | ')' :: rest => some (alternativesOf (sequenceOf parts :: choices), reading, ')' :: rest)
    | '|' :: rest => read? fuel reading (sequenceOf parts :: choices) [] rest
    | '(' :: rest => do
      match ← opening? reading.spaced rest with
      | (.flags changes, rest) =>
        read? fuel (reading.change changes) choices (.flags changes :: parts) rest
      | (.group name changes, rest) =>
        if name.any reading.names.contains then none
        else
          let names := name.toList ++ reading.names
          let (inner, after, rest) ← read? fuel ({ reading with names }.change changes) [] [] rest
          match rest with
          | ')' :: rest =>
            read? fuel { reading with names := after.names } choices
              (.group changes inner :: parts) rest
          | _ => none
    | '[' :: rest => do
      let ((negated, inner), rest) ← set? reading.spaced (2 * rest.length + 2) rest
      read? fuel reading choices (.set negated inner :: parts) rest
    | '\x7b' :: _ => none
    | '\\' :: rest => do
      let (found, rest) ← escape? reading.spaced rest
      read? fuel reading choices (ofEscape found :: parts) rest
    | c :: rest => do
      if c = '?' ∨ c = '*' ∨ c = '+' then
        let parts ← repeatLast? parts
        match rest with
        | '?' :: rest => read? fuel reading choices parts rest
        | rest => read? fuel reading choices parts rest
      else
        let part := if c = '.' then .dot else if c = '^' ∨ c = '$' then .anchor else .char c false
        read? fuel reading choices (part :: parts) rest

/-- The pattern some characters spell. -/
def parse? (cs : List Char) : Option Pattern :=
  match read? (cs.length + 1) ⟨false, []⟩ [] [] cs with
  | some (pattern, _, []) => some pattern
  | _ => none

/-- How deep a pattern may nest. -/
def maxDepth : Nat := 250

/-- Whether some characters spell a pattern that can be used. -/
def check (cs : List Char) : Except PatternError Unit :=
  match (parse? cs).filter fun pattern => pattern.depth ≤ maxDepth with
  | none => .error .malformed
  | some pattern =>
    match pattern.support? .initial with
    | none => .error .malformed
    | some (_, true) => .error .wordEdge
    | some (_, false) => .ok ()

end TokenLedger.Pattern
