import TokenLedger.Fault
import TokenLedger.Telemetry.Pattern.Reader
import TokenLedger.Telemetry.Settings
import TokenLedger.Text.Slice

/-!
# Filters of records

Which records are kept is said by directives, separated by commas: a level, a target, or a target
and its level, where a target may be followed by the name of a span and by fields. Of the directives
that fit a record the most specific one decides, and a record is kept if its level is not below the
one the directive asks for.

The marks of a directive are looked for in its text without the blank characters at its ends, and
counted in bytes from its start. What stands between them is then cut from the text as it was given,
so blank characters in front move every cut, and a cut may fall inside a character.
-/

namespace TokenLedger

/-- How much a directive lets through, from nothing to everything. -/
inductive LogLevel where
  /-- Nothing. -/
  | off
  /-- Errors. -/
  | error
  /-- Warnings and what is above. -/
  | warn
  /-- Information and what is above. -/
  | info
  /-- Details and what is above. -/
  | debug
  /-- Everything. -/
  | trace
  deriving DecidableEq, Repr

namespace LogLevel

/-- Every level, from nothing to everything. -/
def all : List LogLevel := [.off, .error, .warn, .info, .debug, .trace]

/-- The place of a level among all. -/
def rank : LogLevel → Nat
  | .off => 0
  | .error => 1
  | .warn => 2
  | .info => 3
  | .debug => 4
  | .trace => 5

/-- The name of a level. -/
def name : LogLevel → String
  | .off => "off"
  | .error => "error"
  | .warn => "warn"
  | .info => "info"
  | .debug => "debug"
  | .trace => "trace"

/-- The level of a text: its name in any case, or its place. -/
def parse? (text : String) : Option LogLevel :=
  match Decimal.word? text with
  | some place => all.find? fun level => level.rank = place.toNat
  | none => all.find? fun level => level.name.toList = text.toList.map Char.toLower

end LogLevel

/-- What one directive says. -/
structure LogDirective where
  /-- The start of the targets it is about; none for all. -/
  target : Option String
  /-- Whether it is about records inside a span of a name. -/
  inSpan : Bool
  /-- The fields a record has to have, each with whether it has to have a certain value. -/
  fields : List (String × Bool)
  /-- How much it lets through. -/
  level : LogLevel
  deriving DecidableEq

namespace LogDirective

/-- A part of reading a directive: it may be refused, or ask for a cut that does not exist. -/
abbrev Reader := Except (Stop TelemetryError)

/-- Refuses a directive. -/
def refuse {α : Type} (cause : TelemetryError) : Reader α := .error (.refused cause)

/-- A cut, if it exists. -/
def ofCut : Option (List Char) → Reader (List Char)
  | some cs => .ok cs
  | none => .error (.faulted .splitCharacter)

/-- The text between two offsets. -/
def cut (text : List Char) (start stop : Nat) : Reader (List Char) :=
  ofCut (Text.slice? start stop text)

/-- The text from an offset to its end. -/
def cutFrom (text : List Char) (start : Nat) : Reader (List Char) :=
  ofCut (Text.dropBytes? start text)

/-- The level that stands behind an offset; nothing stands for everything. -/
def levelAt (text : List Char) (start : Nat) : Reader LogLevel := do
  let cs ← cutFrom text start
  if cs.isEmpty then return .trace
  match LogLevel.parse? (String.ofList cs) with
  | some level => return level
  | none => refuse .unknownLevel

/-- The end of a directive after its span: nothing, or a level. The marks `cs` that are left start
at an offset. -/
def levelAfterSpan (text : List Char) (start : Nat) : List Char → Reader LogLevel
  | [] => return .trace
  | '=' :: _ => levelAt text (start + 1)
  | _ => refuse .malformedDirective

/-- A field: its name, and whether a value follows, which has to be a number or a pattern. Of two
equals signs the second ends the value. -/
def field (cs : List Char) : Reader (String × Bool) :=
  let name := String.ofList (cs.takeWhile (· ≠ '='))
  match cs.dropWhile (· ≠ '=') with
  | [] => .ok (name, false)
  | _ :: rest =>
    let value := rest.takeWhile (· ≠ '=')
    if Decimal.isNumberText value then .ok (name, true)
    else
      match Pattern.check value with
      | .ok () => .ok (name, true)
      | .error cause => refuse (.pattern cause)

/-- The rest of a directive after the bracket that opens its span. -/
def span (text : List Char) (target : Option String) (start : Nat) (cs : List Char) :
    Reader LogDirective := do
  let isPlain (c : Char) : Bool := c ≠ ']' && c ≠ '\x7b'
  let stop := start + Text.size (cs.takeWhile isPlain)
  match cs.dropWhile isPlain with
  | ']' :: rest =>
    let _ ← cut text start stop
    return ⟨target, true, [], ← levelAfterSpan text (stop + 1) rest⟩
  | '\x7b' :: rest =>
    let name ← cut text start stop
    let start := stop + 1
    let stop := start + Text.size (rest.takeWhile (· ≠ '\x7d'))
    match rest.dropWhile (· ≠ '\x7d') with
    | _ :: rest =>
      let found ← cut text start stop
      if found.isEmpty then refuse .malformedDirective
      let field ← field found
      match rest with
      | ']' :: rest =>
        return ⟨target, !name.isEmpty, [field], ← levelAfterSpan text (stop + 2) rest⟩
      | _ => refuse .malformedDirective
    | [] => refuse .malformedDirective
  | _ => refuse .malformedDirective

/-- Whether a character may start a target or a level. -/
def isStart (c : Char) : Bool := Text.isLetterOrNumber c || c = '-' || c = ':' || c = '_'

/-- The directive of a text. -/
def parse (text : List Char) : Reader LogDirective := do
  match Text.trimList text with
  | [] => refuse .malformedDirective
  | '[' :: rest => span text none 1 rest
  | c :: rest =>
    if !isStart c then refuse .malformedDirective
    let isPlain (c : Char) : Bool := c ≠ '=' && c ≠ '['
    let stop := Text.size ((c :: rest).takeWhile isPlain)
    match (c :: rest).dropWhile isPlain with
    | [] =>
      match LogLevel.parse? (String.ofList text) with
      | some level => return ⟨none, false, [], level⟩
      | none => return ⟨some (String.ofList text), false, [], .trace⟩
    | mark :: rest =>
      let target := some (String.ofList (← cut text 0 stop))
      if mark = '=' then return ⟨target, false, [], ← levelAt text (stop + 1)⟩
      else span text target (stop + 1) rest

/-- Whether the directive can be decided without looking at spans and values. -/
def isStatic (directive : LogDirective) : Bool :=
  !directive.inSpan && directive.fields.all fun field => !field.2

/-- How specific the directive is: the length of its target first, then the number of fields. -/
def specificity (directive : LogDirective) : Nat × Nat :=
  (match directive.target with
    | some target => Bytes.textLength target + 1
    | none => 0, directive.fields.length)

/-- Whether a directive goes before another one that is as specific: the later target and the later
names of fields in the order of texts do. -/
def precedes (directive other : LogDirective) : Bool :=
  if directive.target = other.target then
    other.fields.map Prod.fst < directive.fields.map Prod.fst
  else other.target.getD "" < directive.target.getD ""

/-- Whether a directive decides before another one. -/
def outranks (directive other : LogDirective) : Bool :=
  let one := directive.specificity
  let two := other.specificity
  if one.1 ≠ two.1 then two.1 < one.1
  else if one.2 ≠ two.2 then two.2 < one.2
  else directive.precedes other

end LogDirective

/-- A record, as far as filters look at it. -/
structure LogRecord where
  /-- Where it comes from; empty if it does not say. -/
  target : String
  /-- How important it is. -/
  level : LogLevel
  /-- The names of its fields. -/
  fields : List String

/-- The directives of a node. -/
structure LogFilter where
  /-- The directives in the order in which they were given. -/
  directives : List LogDirective

namespace LogFilter

/-- The parts of a text between commas. -/
def splitCommas : List Char → List (List Char)
  | [] => [[]]
  | c :: rest =>
    match splitCommas rest with
    | part :: parts => if c = ',' then [] :: part :: parts else (c :: part) :: parts
    | [] => [[c]]

/-- The filter of a text. Nothing between two commas says nothing. -/
def parse (text : String) : LogDirective.Reader LogFilter :=
  (((splitCommas text.toList).filter fun part => !part.isEmpty).mapM LogDirective.parse).map
    LogFilter.mk

/-- The filter of an environment's settings: the general variable if it is set and not refused, and
else the level of the settings. -/
def ofSettings (env : Environment) (settings : TelemetrySettings) :
    LogDirective.Reader LogFilter :=
  match (env "RUST_LOG").map parse with
  | some (.ok filter) => .ok filter
  | some (.error (.faulted fault)) => .error (.faulted fault)
  | some (.error (.refused _)) | none => parse settings.logLevel

/-- Whether a directive fits a record. -/
def fits (record : LogRecord) (directive : LogDirective) : Bool :=
  directive.isStatic &&
    ((directive.target.getD "").toList.isPrefixOf record.target.toList &&
      directive.fields.all fun field => record.fields.contains field.1)

/-- Of two directives the one that outranks the other; of two alike the second, which was given
later. -/
def decisive (first second : LogDirective) : LogDirective :=
  if first.outranks second then first else second

/-- The directive that decides about a record. -/
def deciding? (filter : LogFilter) (record : LogRecord) : Option LogDirective :=
  match filter.directives.filter (fits record) with
  | [] => none
  | first :: rest => some (rest.foldl decisive first)

/-- Whether a record is kept. A filter that says nothing keeps errors. -/
def keeps (filter : LogFilter) (record : LogRecord) : Bool :=
  if filter.directives.isEmpty then record.level.rank ≤ LogLevel.error.rank
  else
    match filter.deciding? record with
    | some directive => record.level.rank ≤ directive.level.rank
    | none => false

end LogFilter

end TokenLedger
