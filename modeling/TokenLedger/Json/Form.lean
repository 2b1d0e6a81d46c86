import TokenLedger.Json.Parser
import TokenLedger.Json.Printer

/-!
# Typed documents

A form of a type says how its values are written as JSON and which JSON values are read as them. A
record is read from an object, in which known members may stand in any order but only once and
unknown ones are passed over, or from an array of its fields in order. A field that has a default
may be missing from either.
-/

namespace TokenLedger

/-- How the values of a type stand in a document. -/
class JsonForm (α : Type) where
  /-- The JSON value of a value. -/
  toJson : α → Json
  /-- The value a JSON value is read as, if it is read as any. -/
  ofJson? : Json → Option α

namespace JsonForm

variable {α : Type} [JsonForm α]

/-- The compact text of a value. -/
def write (value : α) : String := (toJson value).compact

/-- The pretty text of a value. -/
def writePretty (value : α) : String := (toJson value).pretty

/-- The value a text is read as. -/
def read? (text : String) : Option α := (Json.parse text).bind ofJson?

/-- The value a byte string is read as. -/
def readBytes? (bytes : Bytes) : Option α := (Json.parseBytes bytes).bind ofJson?

/-- The bytes of the compact text of a value. -/
def writeBytes (value : α) : Bytes := Bytes.utf8 (write value)

end JsonForm

namespace Json

/-- The integer a value is, if it lies in the given range. -/
def integerIn? (low high : Int) : Json → Option Int
  | .integer value => if low ≤ value ∧ value ≤ high then some value else none
  | _ => none

/-- The text a value is. -/
def text? : Json → Option String
  | .string text => text
  | _ => none

/-- The values of the members that go by one of the given names. -/
def membersNamed (names : List String) (members : List (Option String × Json)) : List Json :=
  members.filterMap fun (name, item) =>
    match name with
    | some name => if names.contains name then some item else none
    | none => none

/-- The value of a field: none if it is missing, refused if it stands more than once. -/
def memberOnce? (names : List String) (members : List (Option String × Json)) :
    Option (Option Json) :=
  match membersNamed names members with
  | [] => some none
  | [item] => some (some item)
  | _ => none

/-- The fields of a record in order, each with the names it goes by. -/
def fields? (names : List (List String)) : Json → Option (List (Option Json))
  | .object members =>
    if members.all fun member => member.1.isSome then
      names.mapM fun alternatives => memberOnce? alternatives members
    else none
  | .array items =>
    if items.length ≤ names.length then
      some (items.map some ++ List.replicate (names.length - items.length) none)
    else none
  | _ => none

/-- A field that has to be there. -/
def required? {α : Type} [JsonForm α] : Option Json → Option α
  | some json => JsonForm.ofJson? json
  | none => none

/-- A field that stands for a default when it is missing. -/
def orDefault? {α : Type} [JsonForm α] (default : α) : Option Json → Option α
  | some json => JsonForm.ofJson? json
  | none => some default

end Json

instance : JsonForm Bool where
  toJson := .bool
  ofJson? | .bool value => some value
          | _ => none

instance : JsonForm String where
  toJson := .text
  ofJson? := Json.text?

instance : JsonForm UInt8 where
  toJson value := .integer value.toNat
  ofJson? json := (json.integerIn? 0 255).map fun value => UInt8.ofNat value.toNat

instance : JsonForm UInt64 where
  toJson value := .integer value.toNat
  ofJson? json := (json.integerIn? 0 0xFFFFFFFFFFFFFFFF).map fun value => UInt64.ofNat value.toNat

instance : JsonForm Int8 where
  toJson value := .integer value.toInt
  ofJson? json := (json.integerIn? (-128) 127).map Int8.ofInt

instance : JsonForm Int64 where
  toJson value := .integer value.toInt
  ofJson? json := (json.integerIn? (-0x8000000000000000) 0x7FFFFFFFFFFFFFFF).map Int64.ofInt

instance {α : Type} [JsonForm α] : JsonForm (List α) where
  toJson values := .array (values.map JsonForm.toJson)
  ofJson? | .array items => items.mapM JsonForm.ofJson?
          | _ => none

end TokenLedger
