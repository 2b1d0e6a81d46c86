import TokenLedger.Event
import TokenLedger.Fault
import TokenLedger.Store.Namespace

/-!
# Actions on the ledger

An action runs in a context: a view of the store, the height of the block, and the events emitted so
far. It ends in a result, in a refusal, which is an ordinary answer with a cause, or in a fault. The
context it ends in is kept in every case; `atomically` is what undoes the writes and events of an
action that does not end in a result.
-/

namespace TokenLedger

/-- What an action runs in. -/
structure Context where
  /-- The store, through all pending writes. -/
  view : View
  /-- The height of the block. -/
  height : Height
  /-- The events emitted so far, in order. -/
  events : List Event

/-- A state transition that may be refused for causes of type `ε`. -/
abbrev Action (ε : Type) := ExceptT (Stop ε) (StateM Context)

namespace Action

variable {ε ε' α : Type}

/-- Runs an action and gives what it ended in and with. -/
def perform (action : Action ε α) (context : Context) : Except (Stop ε) α × Context :=
  ExceptT.run action context

/-- Ends with a refusal. -/
def refuse (cause : ε) : Action ε α := throw (.refused cause)

/-- Ends with a fault. -/
def fail (fault : Fault) : Action ε α := throw (.faulted fault)

/-- A computation that may be refused, as an action. -/
def ofExcept : Except ε α → Action ε α
  | .ok value => pure value
  | .error cause => refuse cause

/-- A computation that may be faulty, as an action. -/
def ofFaulty : Except Fault α → Action ε α
  | .ok value => pure value
  | .error fault => fail fault

/-- An action whose refusals are passed on under another type. -/
def mapCause (change : ε → ε') (action : Action ε α) : Action ε' α :=
  fun context =>
    match action.perform context with
    | (.ok value, after) => (.ok value, after)
    | (.error (.refused cause), after) => (.error (.refused (change cause)), after)
    | (.error (.faulted fault), after) => (.error (.faulted fault), after)

/-- The value of a key of a store. -/
def getKey (name : StoreName) (key : Bytes) : Action ε (Option Bytes) := do
  return (← get).view.getIn name.keyStart key

/-- Whether a key of a store has a value. -/
def hasKey (name : StoreName) (key : Bytes) : Action ε Bool := do
  return (← get).view.hasIn name.keyStart key

/-- The entries of a store whose keys start with the given bytes. -/
def scanKeys (name : StoreName) (start : Bytes) : Action ε (List (Bytes × Bytes)) := do
  return (← get).view.scanIn name.keyStart start

/-- Gives a key of a store a value. -/
def setKey (name : StoreName) (key value : Bytes) : Action ε Unit :=
  modify fun context => { context with view := context.view.setIn name.keyStart key value }

/-- Removes a key of a store. -/
def deleteKey (name : StoreName) (key : Bytes) : Action ε Unit :=
  modify fun context => { context with view := context.view.deleteIn name.keyStart key }

/-- Emits an event. -/
def emit (event : Event) : Action ε Unit :=
  modify fun context => { context with events := context.events ++ [event] }

/-- Runs an action on a layer of its own. A result merges the layer and the events; anything else
leaves the context as it was. -/
def atomically (action : Action ε α) : Action ε α := fun context =>
  match action.perform { context with view := context.view.branch, events := [] } with
  | (.ok value, inner) =>
    (.ok value, { context with
      view := inner.view.commit, events := context.events ++ inner.events })
  | (.error stop, _) => (.error stop, context)

end Action

end TokenLedger
