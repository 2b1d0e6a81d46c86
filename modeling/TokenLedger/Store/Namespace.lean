import TokenLedger.Store.View

/-!
# Namespaces

Part of a view, told apart by the bytes its keys start with. Keys are given and returned without
those bytes.
-/

namespace TokenLedger.View

/-- The value of a key of the namespace `space`. -/
def getIn (view : View) (space key : Bytes) : Option Bytes := view.get (space ++ key)

/-- Whether a key of the namespace has a value. -/
def hasIn (view : View) (space key : Bytes) : Bool := view.has (space ++ key)

/-- Gives a key of the namespace a value. -/
def setIn (view : View) (space key value : Bytes) : View := view.set (space ++ key) value

/-- Removes a key of the namespace. -/
def deleteIn (view : View) (space key : Bytes) : View := view.delete (space ++ key)

/-- The entries of the namespace whose keys start with the given bytes, ascending. -/
def scanIn (view : View) (space start : Bytes) : List (Bytes × Bytes) :=
  (view.scan (space ++ start)).entries.map fun entry => (entry.1.drop space.length, entry.2)

end TokenLedger.View
