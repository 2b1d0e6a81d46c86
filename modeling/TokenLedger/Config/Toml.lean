import TokenLedger.Bytes
import TokenLedger.Text.Decimal

/-!
# TOML documents

Values of TOML documents and the rules by which headers, dotted keys and inline tables build one
tree of tables. A table remembers how it came about: a table implied by a longer header may still
get a header of its own, a table made by dotted keys may only be extended by dotted keys of the same
section, and an inline table is closed.
-/

namespace TokenLedger

/-- A value of a TOML document. -/
inductive Toml where
  /-- A string. -/
  | text (value : String)
  /-- An integer of 64 bits. -/
  | integer (value : Int)
  /-- A truth value. -/
  | bool (value : Bool)
  /-- A number that is no integer. -/
  | real
  /-- A date, a time or both. -/
  | moment
  /-- An array. -/
  | array (items : List Toml)
  /-- A table written in one line. -/
  | inlineTable (members : List (String × Toml))
  /-- A table; `implied` before it has a header of its own, `dotted` if dotted keys made it. -/
  | table (implied dotted : Bool) (members : List (String × Toml))
  /-- An array of tables, each with a header. -/
  | tables (elements : List (List (String × Toml)))
  deriving Inhabited, Repr

namespace Toml

/-- The members of a table. -/
abbrev Members := List (String × Toml)

/-- The value of a key. -/
def find? (members : Members) (key : String) : Option Toml :=
  (members.find? fun member => member.1 = key).map Prod.snd

/-- The members with a key bound anew, at the place it had. -/
def bind (key : String) (value : Toml) : Members → Members
  | [] => [(key, value)]
  | member :: rest =>
    if member.1 = key then (key, value) :: rest else member :: bind key value rest

/-- The members with the last element of a non-empty list of tables changed. -/
def changeLast (change : Members → Option Members) : List Members → Option (List Members)
  | [] => none
  | [last] => (change last).map fun changed => [changed]
  | first :: rest => (changeLast change rest).map (first :: ·)

/-- Changes the table a header path leads to, making implied tables on the way. -/
def changeAt (change : Members → Option Members) : List String → Members → Option Members
  | [], members => change members
  | key :: path, members => do
    match find? members key with
    | none => return bind key (.table true false (← changeAt change path [])) members
    | some (.table implied dotted inner) =>
      return bind key (.table implied dotted (← changeAt change path inner)) members
    | some (.tables elements) =>
      return bind key (.tables (← changeLast (changeAt change path) elements)) members
    | some _ => none

/-- Opens the table of a header. It may be there only because a longer header implied it. -/
def openTable (key : String) (members : Members) : Option Members :=
  match find? members key with
  | none => some (bind key (.table false false []) members)
  | some (.table true false inner) => some (bind key (.table false false inner) members)
  | some _ => none

/-- Opens a new element of the array of tables of a header. -/
def openElement (key : String) (members : Members) : Option Members :=
  match find? members key with
  | none => some (bind key (.tables [[]]) members)
  | some (.tables elements) => some (bind key (.tables (elements ++ [[]])) members)
  | some _ => none

/-- Binds a key that is free. -/
def bindNew (key : String) (value : Toml) (members : Members) : Option Members :=
  match find? members key with
  | none => some (bind key value members)
  | some _ => none

/-- Binds a dotted key below the first of its parts, `last` being the final one. -/
def bindDotted (last : String) (value : Toml) : List String → Members → Option Members
  | [], members => bindNew last value members
  | key :: path, members => do
    match find? members key with
    | none => return bind key (.table true true (← bindDotted last value path [])) members
    | some (.table true dotted inner) =>
      if path.isEmpty && !dotted then none
      else return bind key (.table true dotted (← bindDotted last value path inner)) members
    | some (.tables elements) =>
      if path.isEmpty then none
      else
        return bind key (.tables (← changeLast (bindDotted last value path) elements)) members
    | some _ => none

/-- A table in one line, from its keys and values in order. -/
def ofPairs : Members → List (List String × Toml) → Option Members
  | members, [] => some members
  | members, (key, value) :: rest => do
    let last ← key.getLast?
    ofPairs (← bindDotted last value key.dropLast members) rest

end Toml

end TokenLedger
