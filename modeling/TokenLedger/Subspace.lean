import TokenLedger.Action

/-!
# Parameter subspaces

The parameters of a module live in the params store under the module's name, a slash and the key. A
subspace declares the keys it accepts; using another one is a fault, as is reading a parameter that
was never set or does not read as its type.
-/

namespace TokenLedger

/-- The parameters of one module. -/
structure Subspace where
  /-- The name in front of every key. -/
  name : String
  /-- The keys it accepts. -/
  keys : List String
  deriving DecidableEq

namespace Subspace

variable {ε α : Type}

/-- The key of a parameter in the params store. -/
def keyBytes (space : Subspace) (key : String) : Bytes := Bytes.utf8 (space.name ++ "/" ++ key)

/-- Ends with a fault unless the subspace accepts the key. -/
def requireKey (space : Subspace) (key : String) : Action ε Unit :=
  if space.keys.contains key then pure () else Action.fail (.unknownParameter key space.name)

/-- Whether a parameter is set. -/
def has (space : Subspace) (key : String) : Action ε Bool := do
  space.requireKey key
  Action.hasKey .params (space.keyBytes key)

/-- The value of a parameter, if it is set. -/
def get? [JsonForm α] (space : Subspace) (key : String) : Action ε (Option α) := do
  space.requireKey key
  match ← Action.getKey .params (space.keyBytes key) with
  | none => pure none
  | some stored =>
    match JsonForm.readBytes? stored with
    | some value => pure (some value)
    | none => Action.fail (.malformedParameter key space.name)

/-- The value of a parameter that has to be set. -/
def get [JsonForm α] (space : Subspace) (key : String) : Action ε α := do
  match ← space.get? key with
  | some value => pure value
  | none => Action.fail (.unsetParameter key space.name)

/-- Sets a parameter. -/
def set [JsonForm α] (space : Subspace) (key : String) (value : α) : Action ε Unit := do
  space.requireKey key
  Action.setKey .params (space.keyBytes key) (JsonForm.writeBytes value)

end Subspace

end TokenLedger
