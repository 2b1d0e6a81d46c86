/-!
# Paths

Locations of files as they are written, with slashes between their parts. Paths are joined but never
simplified, so a message shows them as the settings spelt them. `parts` is what a look-up follows.
-/

namespace TokenLedger.Path

/-- Whether a path starts at the root. -/
def isAbsolute (path : String) : Bool := path.toList.head? = some '/'

/-- Whether a path ends in a slash. -/
def endsInSlash (path : String) : Bool := path.toList.getLast? = some '/'

/-- A path below another one. An absolute path stays what it is; otherwise a slash goes in between,
unless the first path is empty or brings its own. -/
def join (base path : String) : String :=
  if isAbsolute path then path
  else if base.isEmpty || endsInSlash base then base ++ path
  else base ++ "/" ++ path

/-- An absolute path stays what it is wherever it is looked at from. -/
theorem join_of_isAbsolute {path : String} (absolute : isAbsolute path = true) (base : String) :
    join base path = path := if_pos absolute

/-- The most bytes of a path under which there can be a file. -/
def maxLength : Nat := 4095

/-- The most bytes of one of its parts. -/
def maxPartLength : Nat := 255

/-- The parts between slashes; `pending` holds the characters of the part being read, last first. -/
def partsFrom (pending : List Char) : List Char → List (List Char)
  | [] => [pending.reverse]
  | c :: rest =>
    if c = '/' then pending.reverse :: partsFrom [] rest else partsFrom (c :: pending) rest

/-- The parts of a path that move a look-up: empty ones and single dots stay where they are. -/
def parts (path : String) : List String :=
  ((partsFrom [] path.toList).map String.ofList).filter fun part => part ≠ "" && part ≠ "."

end TokenLedger.Path
