import TokenLedger.Proofs.Json.Layouts
import TokenLedger.Proofs.Json.Scalars

/-!
# Written documents read back

A plain value has texts for all its strings and whole numbers only, which is what the ledger writes.
Its text reads back as the value in every layout, so the compact and the pretty text do. The fuel of
the reader is bounded by the length of the text, so each step of the induction has to account for
the characters that it takes.
-/

namespace TokenLedger.Json

/-- A value built from texts, whole numbers and records. -/
inductive Plain : Json → Prop where
  /-- The literal `null`. -/
  | null : Plain .null
  /-- The literals `true` and `false`. -/
  | bool (value : Bool) : Plain (.bool value)
  /-- A whole number. -/
  | integer (value : Int) : Plain (.integer value)
  /-- A text. -/
  | text (value : String) : Plain (.text value)
  /-- An array of plain values. -/
  | array {items : List Json} (each : ∀ item ∈ items, Plain item) : Plain (.array items)
  /-- An object of plain values whose names are texts. -/
  | record {members : List (String × Json)} (each : ∀ member ∈ members, Plain member.2) :
    Plain (.record members)

/-- Characters that start with something to be read, no space and no closing bracket. -/
def Solid (cs : List Char) : Prop :=
  ∃ c rest, cs = c :: rest ∧ isSpace c = false ∧ c ≠ ']'

/-- Nothing is skipped in front of solid characters. -/
theorem skipSpace_append {cs : List Char} (solid : Solid cs) (rest : List Char) :
    skipSpace (cs ++ rest) = cs ++ rest := by
  obtain ⟨c, tail, same, notSpace, _⟩ := solid
  simp [same, skipSpace, notSpace]

/-- White space is skipped. -/
theorem skipSpace_blank {blank : List Char} (skipped : Blank blank) (rest : List Char) :
    skipSpace (blank ++ rest) = skipSpace rest := by
  rw [skipSpace, List.dropWhile_append_of_pos skipped]
  rfl

/-- A value whose text is read back in front of whatever cannot continue it, in a layout and at
whatever level. -/
structure Reads (layout : Layout) (json : Json) : Prop where
  /-- The text starts with something to be read. -/
  solid : ∀ level, Solid (layout.chars level json)
  /-- Two units of fuel a character are enough. -/
  value_eq : ∀ (level fuel : Nat) (rest : List Char),
    2 * (layout.chars level json).length ≤ fuel → Closed rest →
      value fuel (layout.chars level json ++ rest) = some (json, rest)

variable {layout : Layout}

/-- Solid characters are not empty. -/
theorem Solid.length_pos {cs : List Char} (solid : Solid cs) : 0 < cs.length := by
  obtain ⟨c, rest, same, _⟩ := solid
  simp [same]

/-- Fuel for at least one step. -/
theorem exists_fuel (fuel : Nat) (positive : 0 < fuel) : ∃ left, fuel = left + 1 :=
  ⟨fuel - 1, by omega⟩

/-! ## Scalars -/

/-- What does not start like any other value is read as a number. -/
theorem value_of_number (fuel : Nat) {cs : List Char}
    (starts : ∀ c ∈ cs.head?, Decimal.isDigit c = true ∨ c = '-') :
    value (fuel + 1) cs = number cs := by
  unfold value
  split <;> first
    | exact absurd (starts _ rfl) (by decide)
    | rfl

/-- A written number starts with a digit or a minus sign. -/
theorem starts_ofInt (whole : Int) (rest : List Char) :
    ∃ c tail, Decimal.ofInt whole ++ rest = c :: tail ∧ (Decimal.isDigit c = true ∨ c = '-') := by
  cases whole with
  | ofNat size =>
    cases digits : Decimal.ofNat size with
    | nil => exact absurd digits Nat.toDigits_ne_nil
    | cons c tail =>
      refine ⟨c, tail ++ rest, by simp [Decimal.ofInt, digits], Or.inl ?_⟩
      exact isDigit_of_mem_ofNat size (by simp [digits])
  | negSucc size => exact ⟨'-', _, rfl, Or.inr rfl⟩

/-- No digit and no minus sign is a space or a closing bracket. -/
theorem solid_of_digit {c : Char} (starts : Decimal.isDigit c = true ∨ c = '-') :
    isSpace c = false ∧ c ≠ ']' := by
  rcases starts with digit | minus
  · have apart : ∀ other : Char, Decimal.isDigit other = false → c ≠ other := by
      intro other notDigit same
      rw [same, notDigit] at digit
      contradiction
    refine ⟨?_, apart ']' (by decide)⟩
    simp [isSpace, apart ' ' (by decide), apart '\n' (by decide), apart '\t' (by decide),
      apart '\r' (by decide)]
  · subst minus
    decide

/-- A written number is solid. -/
theorem solid_ofInt (whole : Int) : Solid (Decimal.ofInt whole) := by
  obtain ⟨c, tail, same, starts⟩ := starts_ofInt whole []
  exact ⟨c, tail, by simpa using same, solid_of_digit starts⟩

/-- A whole number is read back. -/
theorem reads_integer (whole : Int) : Reads layout (.integer whole) where
  solid _ := solid_ofInt whole
  value_eq level fuel rest enough closed := by
    have filled : 0 < (Decimal.ofInt whole).length := (solid_ofInt whole).length_pos
    rw [Layout.chars] at enough ⊢
    obtain ⟨left, rfl⟩ := exists_fuel fuel (by omega)
    obtain ⟨c, tail, same, starts⟩ := starts_ofInt whole rest
    rw [value_of_number left (by simpa [same] using starts), number_ofInt whole closed]

/-- A text is read back. -/
theorem reads_text (text : String) : Reads layout (.text text) where
  solid _ := ⟨'"', _, rfl, by decide, by decide⟩
  value_eq level fuel rest enough _ := by
    simp only [Json.text, Layout.chars, stringOrHalf, stringChars, List.length_append,
      List.length_singleton] at enough
    obtain ⟨left, rfl⟩ := exists_fuel fuel (by omega)
    have read := stringAfterQuote_written text rest
    simp [Json.text, Layout.chars, stringOrHalf, stringChars, value, read]

/-- The words for nothing and for truth are read back. -/
theorem reads_word {json : Json} (word : json = .null ∨ ∃ value, json = .bool value) :
    Reads layout json where
  solid _ := by
    rcases word with rfl | ⟨_ | _, rfl⟩ <;> exact ⟨_, _, rfl, by decide, by decide⟩
  value_eq level fuel rest enough _ := by
    rcases word with rfl | ⟨_ | _, rfl⟩ <;>
      (simp only [Layout.chars, List.length_cons] at enough
       obtain ⟨left, rfl⟩ := exists_fuel fuel (by omega)
       simp [Layout.chars, value, afterWord])

/-! ## Containers -/

/-- A comma or a closing bracket ends what stands in front of it. -/
theorem closed_separator {c : Char} (separator : c = ',' ∨ c = ']' ∨ c = '\x7d')
    (rest : List Char) : Closed (c :: rest) := by
  intro other same
  obtain rfl : c = other := by simpa using same
  rcases separator with rfl | rfl | rfl <;> decide

/-- White space in front of what ends a value ends it too. -/
theorem Closed.append_blank {blank rest : List Char} (skipped : Blank blank)
    (closed : Closed rest) : Closed (blank ++ rest) := by
  cases blank with
  | nil => exact closed
  | cons c blank =>
    intro other same
    obtain rfl : c = other := by simpa using same
    have space := skipped c List.mem_cons_self
    simp only [isSpace, Bool.or_eq_true, decide_eq_true_eq] at space
    rcases space with ((rfl | rfl) | rfl) | rfl <;> decide

/-- A comma is not skipped. -/
theorem skipSpace_comma (rest : List Char) : skipSpace (',' :: rest) = ',' :: rest := rfl

/-- The items of an array are read back from the first one on, if each item is. -/
theorem items_written {item : Json} {others : List Json} (first : Reads layout item)
    (reads : ∀ other ∈ others, Reads layout other) (level fuel : Nat) (rest : List Char)
    (enough : 2 * (layout.chars (level + 1) item ++ layout.moreItems level others).length ≤ fuel) :
    items fuel (layout.chars (level + 1) item ++ (layout.moreItems level others ++ rest)) =
      some (item :: others, rest) := by
  induction others generalizing item fuel with
  | nil =>
    simp only [Layout.moreItems, List.length_append, List.length_singleton] at enough
    obtain ⟨left, rfl⟩ := exists_fuel fuel (by omega)
    have blank := layout.blank_gap level
    have closed := (closed_separator (c := ']') (by simp) rest).append_blank blank
    have read := first.value_eq (level + 1) left _ (by omega) closed
    have bracket : skipSpace (']' :: rest) = ']' :: rest := rfl
    simp only [items, Layout.moreItems, List.append_assoc, List.cons_append, List.nil_append, read,
      skipSpace_blank blank, bracket, Option.bind_eq_bind, Option.bind_some]
  | cons second others ih =>
    simp only [Layout.moreItems, List.length_append, List.length_cons] at enough
    obtain ⟨left, rfl⟩ := exists_fuel fuel (by omega)
    have next : Reads layout second := reads second List.mem_cons_self
    have remaining := ih next (fun other member => reads other (List.mem_cons_of_mem _ member)) left
      (by simp only [List.length_append]; omega)
    have solid := skipSpace_append (next.solid (level + 1)) (layout.moreItems level others ++ rest)
    have read := first.value_eq (level + 1) left
      (',' :: (layout.gap (level + 1) ++ (layout.chars (level + 1) second ++
        (layout.moreItems level others ++ rest)))) (by omega) (closed_separator (by simp) _)
    simp only [items, Layout.moreItems, List.append_assoc, List.cons_append, read, skipSpace_comma,
      skipSpace_blank (layout.blank_gap (level + 1)), solid, remaining, Option.bind_eq_bind,
      Option.bind_some]

/-- An array is read back, if its items are. -/
theorem reads_array {found : List Json} (reads : ∀ item ∈ found, Reads layout item) :
    Reads layout (.array found) where
  solid _ := by cases found <;> exact ⟨'[', _, rfl, by decide, by decide⟩
  value_eq level fuel rest enough _ := by
    cases found with
    | nil =>
      simp only [Layout.chars, List.length_cons] at enough
      obtain ⟨left, rfl⟩ := exists_fuel fuel (by omega)
      simp [Layout.chars, value, skipSpace, isSpace]
    | cons item others =>
      simp only [Layout.chars, List.length_cons, List.length_append] at enough
      obtain ⟨left, rfl⟩ := exists_fuel fuel (by omega)
      have first : Reads layout item := reads item List.mem_cons_self
      have read := items_written first
        (fun other member => reads other (List.mem_cons_of_mem _ member)) level left rest
        (by simp only [List.length_append]; omega)
      obtain ⟨c, tail, text, notSpace, notBracket⟩ := first.solid (level + 1)
      have skipped := skipSpace_append (first.solid (level + 1))
        (layout.moreItems level others ++ rest)
      simp only [Layout.chars, List.cons_append, List.append_assoc, value,
        skipSpace_blank (layout.blank_gap (level + 1)), skipped]
      -- The bracket behind the opening one is not the closing one: an item starts there.
      split
      · next closing =>
        rw [text, List.cons_append] at closing
        exact absurd (List.cons.inj closing).1 notBracket
      · rw [read, Option.map_some]

/-- A member of an object as it stands in a document. -/
def named (member : String × Json) : Option String × Json := (some member.1, member.2)

/-- The members of an object are read back from the first one on, if their values are. -/
theorem members_written (name : String) {item : Json} {others : List (String × Json)}
    (first : Reads layout item) (reads : ∀ other ∈ others, Reads layout other.2)
    (level fuel : Nat) (rest : List Char)
    (enough : 2 * (stringChars name ++ ':' :: (layout.afterColon ++
      (layout.chars (level + 1) item ++
        layout.moreMembers level (others.map named)))).length ≤ fuel) :
    members fuel (stringChars name ++ ':' :: (layout.afterColon ++
      (layout.chars (level + 1) item ++ (layout.moreMembers level (others.map named) ++ rest)))) =
        some ((some name, item) :: others.map named, rest) := by
  have colon (cs : List Char) : skipSpace (':' :: cs) = ':' :: cs := rfl
  have afterColon := layout.blank_afterColon
  induction others generalizing name item fuel with
  | nil =>
    simp only [List.map_nil, Layout.moreMembers, stringChars, List.length_append, List.length_cons,
      List.length_nil] at enough
    obtain ⟨left, rfl⟩ := exists_fuel fuel (by omega)
    have blank := layout.blank_gap level
    have closed := (closed_separator (c := '\x7d') (by simp) rest).append_blank blank
    have nameRead := stringAfterQuote_written name (':' :: (layout.afterColon ++
      (layout.chars (level + 1) item ++ (layout.gap level ++ '\x7d' :: rest))))
    have read := first.value_eq (level + 1) left _ (by omega) closed
    have solid := skipSpace_append (first.solid (level + 1)) (layout.gap level ++ '\x7d' :: rest)
    have brace : skipSpace ('\x7d' :: rest) = '\x7d' :: rest := rfl
    simp only [List.map_nil, Layout.moreMembers, stringChars, members, List.append_assoc,
      List.cons_append, List.nil_append, nameRead, colon, skipSpace_blank afterColon, solid, read,
      skipSpace_blank blank, brace, Option.bind_eq_bind, Option.bind_some]
  | cons second others ih =>
    obtain ⟨nextName, next⟩ := second
    simp only [List.map_cons, named, Layout.moreMembers, stringOrHalf, stringChars,
      List.length_append, List.length_cons, List.length_nil] at enough
    obtain ⟨left, rfl⟩ := exists_fuel fuel (by omega)
    have remaining := ih nextName (reads _ List.mem_cons_self)
      (fun other member => reads other (List.mem_cons_of_mem _ member)) left
      (by simp only [stringChars, List.length_append, List.length_cons, List.length_nil]; omega)
    generalize tail : stringChars nextName ++ ':' :: (layout.afterColon ++
      (layout.chars (level + 1) next ++ (layout.moreMembers level (others.map named) ++ rest))) =
        after at remaining
    have quoted : Solid after := by
      rw [← tail]
      exact ⟨'"', _, rfl, by decide, by decide⟩
    have skipped : skipSpace after = after := by simpa using skipSpace_append quoted []
    have nameRead := stringAfterQuote_written name (':' :: (layout.afterColon ++
      (layout.chars (level + 1) item ++ ',' :: (layout.gap (level + 1) ++ after))))
    have read := first.value_eq (level + 1) left (',' :: (layout.gap (level + 1) ++ after))
      (by omega) (closed_separator (by simp) _)
    have solid := skipSpace_append (first.solid (level + 1))
      (',' :: (layout.gap (level + 1) ++ after))
    simp only [List.map_cons, named, Layout.moreMembers, stringOrHalf, List.append_assoc,
      List.cons_append, tail]
    simp only [stringChars, members, List.append_assoc, List.cons_append, List.nil_append, nameRead,
      colon, skipSpace_blank afterColon, solid, read, skipSpace_comma,
      skipSpace_blank (layout.blank_gap (level + 1)), skipped, remaining, Option.bind_eq_bind,
      Option.bind_some]

/-- An object of named members is read back, if their values are. -/
theorem reads_record {found : List (String × Json)}
    (reads : ∀ member ∈ found, Reads layout member.2) : Reads layout (.record found) where
  solid _ := by cases found <;> exact ⟨'\x7b', _, rfl, by decide, by decide⟩
  value_eq level fuel rest enough _ := by
    cases found with
    | nil =>
      simp only [Json.record, List.map_nil, Layout.chars, List.length_cons] at enough
      obtain ⟨left, rfl⟩ := exists_fuel fuel (by omega)
      simp [Json.record, Layout.chars, value, skipSpace, isSpace]
    | cons member others =>
      obtain ⟨name, item⟩ := member
      change 2 * (layout.chars level (.object ((some name, item) :: others.map named))).length ≤
        fuel at enough
      change value fuel (layout.chars level (.object ((some name, item) :: others.map named)) ++
        rest) = some (.object ((some name, item) :: others.map named), rest)
      simp only [Layout.chars, stringOrHalf, List.length_cons, List.length_append] at enough
      obtain ⟨left, rfl⟩ := exists_fuel fuel (by omega)
      have first : Reads layout item := reads _ List.mem_cons_self
      have read := members_written name first
        (fun other listed => reads other (List.mem_cons_of_mem _ listed)) level left rest
        (by simp only [List.length_append, List.length_cons]; omega)
      generalize text : stringChars name ++ ':' :: (layout.afterColon ++
        (layout.chars (level + 1) item ++
          (layout.moreMembers level (others.map named) ++ rest))) = after at read
      obtain ⟨tail, quoted⟩ : ∃ tail, after = '"' :: tail := ⟨_, text.symm⟩
      have skipped : skipSpace after = after := by rw [quoted]; rfl
      simp only [Layout.chars, stringOrHalf, List.cons_append, List.append_assoc, text, value,
        skipSpace_blank (layout.blank_gap (level + 1)), skipped]
      rw [quoted] at read ⊢
      change (members left ('"' :: tail)).map _ = _
      rw [read]
      rfl

/-! ## Whole texts -/

/-- A plain value is read back wherever it stands, in every layout. -/
theorem Plain.reads {json : Json} (plain : Plain json) : Reads layout json := by
  induction plain with
  | null => exact reads_word (Or.inl rfl)
  | bool value => exact reads_word (Or.inr ⟨value, rfl⟩)
  | integer value => exact reads_integer value
  | text value => exact reads_text value
  | array each ih => exact reads_array ih
  | record each ih => exact reads_record ih

/-- The text of a plain value in a layout is read as that value. -/
theorem parse_chars (layout : Layout) {json : Json} (plain : Plain json) :
    parse (String.ofList (layout.chars 0 json)) = some json := by
  have reads : Reads layout json := plain.reads
  have skipped := skipSpace_append (reads.solid 0) []
  have read := reads.value_eq 0 (2 * (layout.chars 0 json).length + 1) [] (by omega)
    (by simp [Closed])
  rw [List.append_nil] at skipped read
  have ended : (skipSpace []).isEmpty = true := rfl
  simp only [parse, parseChars, String.toList_ofList, skipped, read, Option.bind_eq_bind,
    Option.bind_some, ended, if_true]

/-- The compact text of a plain value is read as that value. -/
theorem parse_compact {json : Json} (plain : Plain json) : parse (compact json) = some json := by
  rw [compact, ← Layout.chars_compact 0]
  exact parse_chars Layout.compact plain

/-- The pretty text of a plain value is read as that value. -/
theorem parse_pretty {json : Json} (plain : Plain json) : parse (pretty json) = some json := by
  rw [pretty, ← Layout.chars_pretty 0]
  exact parse_chars Layout.pretty plain

/-- The encoding of a text is read as the text is. -/
theorem parseBytes_utf8 (text : String) : parseBytes (Bytes.utf8 text) = parse text := by
  simp only [parseBytes, Bytes.text?_utf8]

end TokenLedger.Json
