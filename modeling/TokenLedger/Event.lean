import TokenLedger.Json.Form

/-!
# Events

What a state transition reports: a type and attributes in order.
-/

namespace TokenLedger

/-- A key and a value inside an event. -/
structure Attribute where
  /-- What the value is about. -/
  key : String
  /-- The value. -/
  value : String
  deriving DecidableEq

/-- A typed record of something that happened. -/
structure Event where
  /-- The type. -/
  kind : String
  /-- The attributes, in the order they were added. -/
  attributes : List Attribute
  deriving DecidableEq

/-- The value of the first attribute with the given key. -/
def Event.attribute? (event : Event) (key : String) : Option String :=
  (event.attributes.find? fun entry => entry.key = key).map Attribute.value

instance : JsonForm Attribute where
  toJson entry := .record [("key", .text entry.key), ("value", .text entry.value)]
  ofJson? json := do
    let [key, value] ← json.fields? [["key"], ["value"]] | none
    some { key := ← Json.required? key, value := ← Json.required? value }

instance : JsonForm Event where
  toJson event :=
    .record [("type", .text event.kind), ("attributes", JsonForm.toJson event.attributes)]
  ofJson? json := do
    let [kind, attributes] ← json.fields? [["type"], ["attributes"]] | none
    some { kind := ← Json.required? kind, attributes := ← Json.required? attributes }

end TokenLedger
