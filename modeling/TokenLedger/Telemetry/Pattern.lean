import TokenLedger.Text.Blank
import TokenLedger.Text.Letter

/-!
# Patterns of values

A filter directive may ask that the value of a field fits a regular expression. Whether a text is
one that can be used is decided here in three steps: it has to read as a pattern, the pattern must
not nest too deep, and under the flags that hold at each of its places it has to stay within what is
supported. Patterns match whole characters; no table of character properties is at hand, so that
nothing may depend on one.
-/

namespace TokenLedger

/-- Why a text is no pattern that can be used. -/
inductive PatternError where
  /-- It is malformed, or asks for properties of characters. -/
  | malformed
  /-- It asks for the edges of words in any script. -/
  | wordEdge
  deriving DecidableEq, Repr

/-- What is wrong with a pattern. -/
def PatternError.message : PatternError → String
  | .malformed => "error building NFA"
  | .wordEdge =>
    "unsupported regex feature for DFAs: cannot build DFAs for regexes with Unicode word " ++
      "boundaries; switch to ASCII word boundaries, or heuristically enable Unicode word " ++
      "boundaries or use a different regex engine"

/-- What stands between the brackets of a set of characters. -/
inductive CharSet where
  /-- Nothing. -/
  | nothing
  /-- A character. -/
  | char (c : Char)
  /-- The characters from one to another. -/
  | range (first last : Char)
  /-- A class of ASCII characters that has a name. -/
  | named (negated : Bool)
  /-- A class written as a letter after a backslash. -/
  | shorthand (negated : Bool)
  /-- A set in brackets of its own. -/
  | nested (negated : Bool) (inner : CharSet)
  /-- Two items or more. -/
  | union (items : List CharSet)
  /-- Two sets, joined by one of the operators. -/
  | joined (left right : CharSet)
  deriving Inhabited, Repr

/-- Flags named between a question mark and the end of a flag group, each with whether it is set. -/
abbrev FlagChanges := List (Char × Bool)

/-- A pattern. -/
inductive Pattern where
  /-- Nothing. -/
  | empty
  /-- Flags for the rest of the group. -/
  | flags (changes : FlagChanges)
  /-- A character; `asByte` if it is written as a byte of two digits. -/
  | char (c : Char) (asByte : Bool)
  /-- Any character. -/
  | dot
  /-- An end of the text or of a line. -/
  | anchor
  /-- An edge of a word, or a place that is none. -/
  | wordEdge
  /-- A class written as a letter after a backslash. -/
  | shorthand (negated : Bool)
  /-- A set of characters. -/
  | set (negated : Bool) (inner : CharSet)
  /-- A pattern any number of times, or at most once. -/
  | repeated (inner : Pattern)
  /-- A pattern in parentheses, under changed flags. -/
  | group (changes : FlagChanges) (inner : Pattern)
  /-- One of two patterns or more. -/
  | alternatives (choices : List Pattern)
  /-- Two patterns or more, one after the other. -/
  | sequence (parts : List Pattern)
  deriving Inhabited, Repr

/-! ## Depth -/

mutual

/-- How deep a set nests. -/
def CharSet.depth : CharSet → Nat
  | .nested _ inner => inner.depth + 1
  | .union items => CharSet.depths items + 1
  | .joined left right => max left.depth right.depth + 1
  | .nothing | .char _ | .range .. | .named _ | .shorthand _ => 0

/-- How deep the deepest of some sets nests. -/
def CharSet.depths : List CharSet → Nat
  | [] => 0
  | item :: rest => max item.depth (CharSet.depths rest)

end

mutual

/-- How deep a pattern nests. -/
def Pattern.depth : Pattern → Nat
  | .set _ inner => inner.depth + 1
  | .repeated inner => inner.depth + 1
  | .group _ inner => inner.depth + 1
  | .alternatives choices => Pattern.depths choices + 1
  | .sequence parts => Pattern.depths parts + 1
  | .empty | .flags _ | .char .. | .dot | .anchor | .wordEdge | .shorthand _ => 0

/-- How deep the deepest of some patterns nests. -/
def Pattern.depths : List Pattern → Nat
  | [] => 0
  | pattern :: rest => max pattern.depth (Pattern.depths rest)

end

/-! ## Support -/

/-- The flags that decide what is supported. -/
structure PatternFlags where
  /-- Whether letters match in any case. -/
  anyCase : Bool
  /-- Whether characters of any script are meant, and not bytes. -/
  anyScript : Bool
  deriving DecidableEq

namespace PatternFlags

/-- The flags at the start of a pattern. -/
def initial : PatternFlags := ⟨false, true⟩

/-- The flags after some changes. -/
def change (flags : PatternFlags) (changes : FlagChanges) : PatternFlags where
  anyCase := (changes.lookup 'i').getD flags.anyCase
  anyScript := (changes.lookup 'u').getD flags.anyScript

end PatternFlags

/-- Whether a character is one of ASCII. -/
def CharSet.isAscii (c : Char) : Bool := c.toNat < 128

mutual

/-- Whether a set is supported. In any script the other cases of a letter are unknown, and so are
the classes that have one. Of bytes only those of ASCII are characters, which no complement keeps
to. -/
def CharSet.isSupported (flags : PatternFlags) : CharSet → Bool
  | .nothing => true
  | .char c => if flags.anyScript then !flags.anyCase else CharSet.isAscii c
  | .range first last =>
    if flags.anyScript then !flags.anyCase else CharSet.isAscii first && CharSet.isAscii last
  | .named negated => if flags.anyScript then !flags.anyCase else !negated
  | .shorthand negated => !flags.anyScript && !negated
  | .nested negated inner => (flags.anyScript || !negated) && inner.isSupported flags
  | .union items => CharSet.areSupported flags items
  | .joined left right => left.isSupported flags && right.isSupported flags

/-- Whether all of some sets are supported. -/
def CharSet.areSupported (flags : PatternFlags) : List CharSet → Bool
  | [] => true
  | item :: rest => item.isSupported flags && CharSet.areSupported flags rest

end

namespace Pattern

mutual

/-- The flags that hold behind a supported pattern, and whether it asks for edges of words in any
script; nothing if it is not supported. -/
def support? (flags : PatternFlags) : Pattern → Option (PatternFlags × Bool)
  | .empty | .anchor => some (flags, false)
  | .flags changes => some (flags.change changes, false)
  | .char c asByte =>
    if if flags.anyScript then flags.anyCase else asByte && !CharSet.isAscii c then none
    else some (flags, false)
  | .dot => if flags.anyScript then some (flags, false) else none
  | .wordEdge => some (flags, flags.anyScript)
  | .shorthand negated =>
    if CharSet.isSupported flags (.shorthand negated) then some (flags, false) else none
  | .set negated inner =>
    if CharSet.isSupported flags (.nested negated inner) then some (flags, false) else none
  | .repeated inner => support? flags inner
  | .group changes inner => do
    let (_, edges) ← support? (flags.change changes) inner
    some (flags, edges)
  | .alternatives choices => supportAll? flags choices
  | .sequence parts => supportAll? flags parts

/-- `support?` for some patterns, each under the flags the one before it leaves. -/
def supportAll? (flags : PatternFlags) : List Pattern → Option (PatternFlags × Bool)
  | [] => some (flags, false)
  | pattern :: rest => do
    let (flags, edges) ← support? flags pattern
    let (flags, others) ← supportAll? flags rest
    some (flags, edges || others)

end

/-! ## Blank characters

Under one of the flags, blank characters and comments between the parts of a pattern do not count.
-/

/-- The characters after blank ones and comments, if the pattern is `spaced`. -/
def skip (spaced : Bool) : List Char → List Char
  | [] => []
  | c :: rest =>
    if !spaced then c :: rest
    else if Text.isBlank c then skip spaced rest
    else if c = '#' then skipComment spaced rest
    else c :: rest
where
  /-- The same inside a comment, which ends with its line. -/
  skipComment (spaced : Bool) : List Char → List Char
    | [] => []
    | c :: rest => if c = '\n' then skip spaced rest else skipComment spaced rest

end Pattern

end TokenLedger
