/-!
# Slices of a text

A slice is given by two offsets that count the bytes of the UTF-8 encoding. There is no slice at an
offset inside a character.
-/

namespace TokenLedger.Text

/-- The number of bytes of some characters. -/
def size (cs : List Char) : Nat := cs.foldr (fun c later => c.utf8Size + later) 0

/-- The characters from an offset on. -/
def dropBytes? : Nat → List Char → Option (List Char)
  | 0, cs => some cs
  | _ + 1, [] => none
  | offset + 1, c :: rest =>
    if c.utf8Size ≤ offset + 1 then dropBytes? (offset + 1 - c.utf8Size) rest else none

/-- The characters up to an offset. -/
def takeBytes? : Nat → List Char → Option (List Char)
  | 0, _ => some []
  | _ + 1, [] => none
  | offset + 1, c :: rest =>
    if c.utf8Size ≤ offset + 1 then (takeBytes? (offset + 1 - c.utf8Size) rest).map (c :: ·)
    else none

/-- The characters between two offsets. -/
def slice? (start stop : Nat) (cs : List Char) : Option (List Char) :=
  (dropBytes? start cs).bind (takeBytes? (stop - start))

end TokenLedger.Text
