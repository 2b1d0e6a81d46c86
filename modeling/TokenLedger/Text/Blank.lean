/-!
# Blank characters

The white space of Unicode, and texts without it at either end.
-/

namespace TokenLedger.Text

/-- The code points with the property White_Space. -/
def blankCodes : List Nat :=
  [0x9, 0xA, 0xB, 0xC, 0xD, 0x20, 0x85, 0xA0, 0x1680, 0x2000, 0x2001, 0x2002, 0x2003, 0x2004,
   0x2005, 0x2006, 0x2007, 0x2008, 0x2009, 0x200A, 0x2028, 0x2029, 0x202F, 0x205F, 0x3000]

/-- Whether a character is white space. -/
def isBlank (c : Char) : Bool := blankCodes.contains c.toNat

/-- A list of characters without the blank ones at its ends. -/
def trimList (cs : List Char) : List Char :=
  ((cs.dropWhile isBlank).reverse.dropWhile isBlank).reverse

/-- A text without the blank characters at its ends. -/
def trim (text : String) : String := String.ofList (trimList text.toList)

/-- Whether a text has no character but blank ones. -/
def isBlankText (text : String) : Bool := text.toList.all isBlank

end TokenLedger.Text
