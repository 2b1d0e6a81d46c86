import TokenLedger.Json.Parser
import TokenLedger.Json.Printer

/-!
# Layouts of JSON text

The compact and the pretty text of a value differ only in the white space between its parts. A
layout says what that white space is, by the level of nesting, and how a value is written with it;
both printers are layouts, so what is proved of every layout holds of both texts.
-/

namespace TokenLedger.Json

/-- Characters that a reader skips between the parts of a value. -/
def Blank (cs : List Char) : Prop := ∀ c ∈ cs, isSpace c = true

/-- The white space of a text. -/
structure Layout where
  /-- What stands in front of a part that is nested so many levels deep. -/
  gap : Nat → List Char
  /-- What stands between a colon and the value of a member. -/
  afterColon : List Char
  /-- Parts are divided by white space only. -/
  blank_gap : ∀ level, Blank (gap level)
  /-- So is a value from its name. -/
  blank_afterColon : Blank afterColon

namespace Layout

mutual

/-- A value at a level of nesting. -/
def chars (layout : Layout) (level : Nat) : Json → List Char
  | .null => ['n', 'u', 'l', 'l']
  | .bool true => ['t', 'r', 'u', 'e']
  | .bool false => ['f', 'a', 'l', 's', 'e']
  | .integer value => Decimal.ofInt value
  | .real significand exponent => realChars significand exponent
  | .string text => stringOrHalf text
  | .array [] => ['[', ']']
  | .array (item :: rest) =>
    '[' :: (layout.gap (level + 1) ++ (layout.chars (level + 1) item ++
      layout.moreItems level rest))
  | .object [] => ['\x7b', '\x7d']
  | .object ((name, item) :: rest) =>
    '\x7b' :: (layout.gap (level + 1) ++ (stringOrHalf name ++ ':' :: (layout.afterColon ++
      (layout.chars (level + 1) item ++ layout.moreMembers level rest))))

/-- The items after the first, each behind a comma, and the closing bracket. -/
def moreItems (layout : Layout) (level : Nat) : List Json → List Char
  | [] => layout.gap level ++ [']']
  | item :: rest =>
    ',' :: (layout.gap (level + 1) ++ (layout.chars (level + 1) item ++
      layout.moreItems level rest))

/-- The members after the first, each behind a comma, and the closing brace. -/
def moreMembers (layout : Layout) (level : Nat) : List (Option String × Json) → List Char
  | [] => layout.gap level ++ ['\x7d']
  | (name, item) :: rest =>
    ',' :: (layout.gap (level + 1) ++ (stringOrHalf name ++ ':' :: (layout.afterColon ++
      (layout.chars (level + 1) item ++ layout.moreMembers level rest))))

end

/-- No white space at all. -/
def compact : Layout where
  gap _ := []
  afterColon := []
  blank_gap _ _ member := nomatch member
  blank_afterColon _ member := nomatch member

/-- A part a line, indented by its level, and a space after each colon. -/
def pretty : Layout where
  gap := newline
  afterColon := [' ']
  blank_gap level c member := by
    rcases List.mem_cons.mp member with rfl | member
    · rfl
    · rw [(List.mem_replicate.mp member).2]
      rfl
  blank_afterColon c member := by
    rw [List.mem_singleton.mp member]
    rfl

/-! ## The layout without white space is the compact text -/

/-- Nothing stands in front of a part of a compact text. -/
@[simp]
theorem gap_compact (level : Nat) : compact.gap level = [] := rfl

/-- Nothing stands behind a colon of a compact text. -/
@[simp]
theorem afterColon_compact : compact.afterColon = [] := rfl

mutual

/-- A value without white space is its compact text, at whatever level. -/
theorem chars_compact (level : Nat) (json : Json) :
    compact.chars level json = compactChars json := by
  match json with
  | .null => rfl
  | .bool true => rfl
  | .bool false => rfl
  | .integer value => rfl
  | .real significand exponent => rfl
  | .string text => rfl
  | .array [] => rfl
  | .array (item :: rest) =>
    have first := chars_compact (level + 1) item
    have items := compactItems_cons level item rest
    simp only [chars, compactChars, first, items, gap_compact, List.nil_append]
  | .object [] => rfl
  | .object ((name, item) :: rest) =>
    have first := chars_compact (level + 1) item
    have members := compactMembers_cons level name item rest
    simp only [chars, compactChars, first, members, gap_compact, afterColon_compact,
      List.nil_append]

/-- The items of an array without white space, the first one written compactly. -/
theorem compactItems_cons (level : Nat) (item : Json) (rest : List Json) :
    compactItems (item :: rest) = compactChars item ++ compact.moreItems level rest := by
  match rest with
  | [] => simp [compactItems, moreItems]
  | second :: rest =>
    have next := chars_compact (level + 1) second
    have others := compactItems_cons level second rest
    simp [compactItems, moreItems, next, others]

/-- The members of an object without white space, the first one written compactly. -/
theorem compactMembers_cons (level : Nat) (name : Option String) (item : Json)
    (rest : List (Option String × Json)) :
    compactMembers ((name, item) :: rest) =
      stringOrHalf name ++ ':' :: (compactChars item ++ compact.moreMembers level rest) := by
  match rest with
  | [] => simp [compactMembers, moreMembers]
  | (nextName, second) :: rest =>
    have next := chars_compact (level + 1) second
    have others := compactMembers_cons level nextName second rest
    simp [compactMembers, moreMembers, next, others]

end

/-! ## The layout by lines is the pretty text -/

/-- A part of a pretty text stands on a line of its own. -/
@[simp]
theorem gap_pretty (level : Nat) : pretty.gap level = newline level := rfl

/-- A space stands behind a colon of a pretty text. -/
@[simp]
theorem afterColon_pretty : pretty.afterColon = [' '] := rfl

mutual

/-- A value with one part a line is its pretty text at that level. -/
theorem chars_pretty (level : Nat) (json : Json) :
    pretty.chars level json = prettyChars level json := by
  match json with
  | .null => rfl
  | .bool true => rfl
  | .bool false => rfl
  | .integer value => rfl
  | .real significand exponent => rfl
  | .string text => rfl
  | .array [] => rfl
  | .array (item :: rest) =>
    have first := chars_pretty (level + 1) item
    have others := moreItems_pretty level rest
    simp [chars, prettyChars, first, others]
  | .object [] => rfl
  | .object ((name, item) :: rest) =>
    have first := chars_pretty (level + 1) item
    have others := moreMembers_pretty level rest
    simp [chars, prettyChars, first, others]

/-- The items after the first, one a line. -/
theorem moreItems_pretty (level : Nat) (items : List Json) :
    pretty.moreItems level items = prettyItems level items := by
  match items with
  | [] => rfl
  | item :: rest =>
    have first := chars_pretty (level + 1) item
    have others := moreItems_pretty level rest
    simp [moreItems, prettyItems, first, others]

/-- The members after the first, one a line. -/
theorem moreMembers_pretty (level : Nat) (members : List (Option String × Json)) :
    pretty.moreMembers level members = prettyMembers level members := by
  match members with
  | [] => rfl
  | (name, item) :: rest =>
    have first := chars_pretty (level + 1) item
    have others := moreMembers_pretty level rest
    simp [moreMembers, prettyMembers, first, others]

end

end Layout

end TokenLedger.Json
