import Mathlib.Data.List.TakeDrop
import TokenLedger.Json.Parser
import TokenLedger.Json.Printer

/-!
# Written strings and numbers read back

The two kinds of scalar whose text is not fixed. A string reads back whatever characters it holds:
each is written as itself or as an escape, and the reader joins the units of the escapes to the same
characters. A whole number reads back wherever the text goes on with something that cannot
continue a number.
-/

namespace TokenLedger.Json

/-! ## Strings -/

/-- The unit a written character is read as: an escape by code for most control characters. -/
def unitOf (c : Char) : StringUnit :=
  if c.toNat < 32 ∧ c ≠ '\x08' ∧ c ≠ '\t' ∧ c ≠ '\n' ∧ c ≠ '\x0c' ∧ c ≠ '\r' then .code c.toNat
  else .char c

/-- The two digits of a control character spell its code. -/
theorem hexCode?_controlEscape {c : Char} (control : c.toNat < 32) :
    hexCode? '0' '0' (Nat.digitChar (c.toNat / 16)) (Nat.digitChar (c.toNat % 16)) =
      some c.toNat := by
  have table : ∀ code < 32,
      hexCode? '0' '0' (Nat.digitChar (code / 16)) (Nat.digitChar (code % 16)) = some code := by
    decide
  exact table c.toNat control

/-- A letter escape is read as the character it stands for. -/
theorem stringUnits_letter {letter c : Char} (escape : letterEscape? letter = some c)
    (rest : List Char) :
    stringUnits ('\\' :: letter :: rest) =
      (stringUnits rest).map fun (units, rest) => (.char c :: units, rest) := by
  have notCode : letter ≠ 'u' := by
    intro same
    subst same
    contradiction
  rw [stringUnits.eq_4 letter rest fun _ _ _ _ _ same => absurd same notCode, escape]
  cases stringUnits rest <;> rfl

/-- A written character is read as its unit. -/
theorem stringUnits_stringChar (c : Char) (rest : List Char) :
    stringUnits (stringChar c ++ rest) =
      (stringUnits rest).map fun (units, rest) => (unitOf c :: units, rest) := by
  unfold stringChar
  split
  · next same => subst same; exact stringUnits_letter rfl rest
  split
  · next same => subst same; exact stringUnits_letter rfl rest
  split
  · next same => subst same; exact stringUnits_letter rfl rest
  split
  · next same => subst same; exact stringUnits_letter rfl rest
  split
  · next same => subst same; exact stringUnits_letter rfl rest
  split
  · next same => subst same; exact stringUnits_letter rfl rest
  split
  · next same => subst same; exact stringUnits_letter rfl rest
  split
  · next control =>
    have unit : unitOf c = .code c.toNat := by simp [unitOf, *]
    rw [unit]
    simp only [controlEscape, List.cons_append, List.nil_append, stringUnits,
      hexCode?_controlEscape control]
    cases stringUnits rest <;> rfl
  · next notQuote notSlash _ _ _ _ _ plain =>
    have unit : unitOf c = .char c := by simp [unitOf, plain]
    have fits : ¬ (c.toNat < 32 ∨ c = '\\') := by simp [plain, notSlash]
    rw [unit, List.singleton_append]
    rw [stringUnits.eq_5 c rest notQuote (fun _ _ _ _ _ same => absurd same notSlash)
      (fun _ _ same => absurd same notSlash), if_neg fits]
    cases stringUnits rest <;> rfl

/-- Written characters are read as their units, up to the closing quote. -/
theorem stringUnits_written (cs rest : List Char) :
    stringUnits (cs.flatMap stringChar ++ '"' :: rest) = some (cs.map unitOf, rest) := by
  induction cs with
  | nil => rfl
  | cons c cs ih =>
    rw [List.flatMap_cons, List.append_assoc, stringUnits_stringChar, ih]
    rfl

/-- A code below the surrogates stands for its character, whatever follows it. -/
theorem joinUnits_code {code : Nat} (small : code < 0xD800) (units : List StringUnit) :
    joinUnits (.code code :: units) = (joinUnits units).map (Char.ofNat code :: ·) := by
  have notHigh : isHighSurrogate code = false := by
    simp only [isHighSurrogate, Bool.and_eq_false_iff, decide_eq_false_iff_not]
    omega
  have notLow : isLowSurrogate code = false := by
    simp only [isLowSurrogate, Bool.and_eq_false_iff, decide_eq_false_iff_not]
    omega
  cases units with
  | nil => simp [joinUnits, notHigh, notLow]
  | cons unit units => cases unit <;> simp [joinUnits, notHigh, notLow]

/-- The units of characters join to these characters. -/
theorem joinUnits_map_unitOf (cs : List Char) : joinUnits (cs.map unitOf) = some cs := by
  induction cs with
  | nil => rfl
  | cons c cs ih =>
    rw [List.map_cons, unitOf]
    split
    · next control =>
      have small : c.toNat < 0xD800 := by omega
      rw [joinUnits_code small, ih, Char.ofNat_toNat]
      rfl
    · rw [joinUnits, ih]
      rfl

/-- A written string is read back after its opening quote. -/
theorem stringAfterQuote_written (text : String) (rest : List Char) :
    stringAfterQuote (text.toList.flatMap stringChar ++ '"' :: rest) =
      some (some text, rest) := by
  simp only [stringAfterQuote, stringUnits_written, Option.map_some, joinUnits_map_unitOf,
    String.ofList_toList]

/-! ## Whole numbers -/

/-- Whether a character can stand inside a number after its first digit. -/
def continuesNumber (c : Char) : Bool := Decimal.isDigit c || c = '.' || c = 'e' || c = 'E'

/-- What follows a value cannot be taken for a part of it. -/
def Closed (rest : List Char) : Prop := ∀ c ∈ rest.head?, continuesNumber c = false

/-- The digits of a number are digits. -/
theorem isDigit_of_mem_ofNat (value : Nat) {c : Char} (member : c ∈ Decimal.ofNat value) :
    Decimal.isDigit c = true := by
  have digit := Nat.isDigit_of_mem_toDigits (by decide) (by decide) member
  simpa [Char.isDigit, Decimal.isDigit, Char.le_def] using digit

/-- A number is written without a leading zero. -/
theorem head_ofNat {value : Nat} (positive : 0 < value) :
    ∃ c digits, Decimal.ofNat value = c :: digits ∧ c ≠ '0' := by
  induction value using Nat.strongRecOn with
  | ind value ih =>
    unfold Decimal.ofNat at ih ⊢
    by_cases small : value < 10
    · refine ⟨Nat.digitChar value, [], Nat.toDigits_of_lt_base small, ?_⟩
      rw [ne_eq, Nat.digitChar_eq_zero]
      omega
    · obtain ⟨c, digits, written, notZero⟩ := ih (value / 10) (by omega) (by omega)
      rw [Nat.toDigits_of_base_le (by decide) (by omega), written]
      exact ⟨c, digits ++ _, rfl, notZero⟩

/-- The digits of a number stand for it. -/
theorem value_ofNat (value : Nat) : Decimal.value (Decimal.ofNat value) = value := by
  have same : ∀ (digits : List Char) (start : Nat),
      digits.foldl (fun total c => total * 10 + Decimal.digitValue c) start =
        Nat.ofDigitChars 10 digits start := by
    intro digits
    induction digits with
    | nil => intro start; rfl
    | cons c digits ih =>
      intro start
      rw [List.foldl_cons, ih, Nat.ofDigitChars_cons, Nat.mul_comm]
      rfl
  rw [Decimal.value, same]
  exact Nat.ofDigitChars_ten_toDigits

/-- A run of digits ends where something else follows. -/
theorem spanDigits_append {digits rest : List Char}
    (all : ∀ c ∈ digits, Decimal.isDigit c = true) (closed : Closed rest) :
    spanDigits (digits ++ rest) = (digits, rest) := by
  unfold spanDigits
  rw [List.span_eq_takeWhile_dropWhile, List.takeWhile_append_of_pos all,
    List.dropWhile_append_of_pos all]
  cases rest with
  | nil => simp
  | cons c rest =>
    have apart := closed c rfl
    simp only [continuesNumber, Bool.or_eq_false_iff] at apart
    simp [apart.1.1.1]

/-- The digits of a number are taken whole. -/
theorem wholeDigits_ofNat (value : Nat) {rest : List Char} (closed : Closed rest) :
    wholeDigits (Decimal.ofNat value ++ rest) = some (Decimal.ofNat value, rest) := by
  rcases Nat.eq_zero_or_pos value with zero | positive
  · subst zero
    rfl
  · obtain ⟨c, digits, written, notZero⟩ := head_ofNat positive
    have spanned := spanDigits_append (fun _ => isDigit_of_mem_ofNat value) closed
    rw [written, List.cons_append] at spanned ⊢
    unfold wholeDigits
    split
    · next same => exact absurd (List.cons.inj same).1 notZero
    · rw [spanned]

/-- A whole number after its sign is read back. -/
theorem unsignedNumber_ofNat (negative : Bool) (value : Nat) (nonzero : negative = true → value ≠ 0)
    {rest : List Char} (closed : Closed rest) :
    unsignedNumber negative (Decimal.ofNat value ++ rest) =
      some (.integer (if negative then -value else value), rest) := by
  have fraction : fractionDigits rest = some ([], rest) := by
    unfold fractionDigits
    split
    · exact absurd (closed _ rfl) (by decide)
    · rfl
  have exponent : exponentPart rest = some (none, rest) := by
    unfold exponentPart
    split
    · next c tail =>
      have apart := closed c rfl
      simp only [continuesNumber, Bool.or_eq_false_iff, decide_eq_false_iff_not] at apart
      rw [if_neg (not_or.mpr ⟨apart.1.2, apart.2⟩)]
    · rfl
  simp only [unsignedNumber, wholeDigits_ofNat value closed, fraction, exponent, value_ofNat,
    Option.bind_eq_bind, Option.bind_some]
  cases negative with
  | false => rfl
  | true => simp [nonzero rfl]

/-- A whole number is read back where nothing continues it. -/
theorem number_ofInt (value : Int) {rest : List Char} (closed : Closed rest) :
    number (Decimal.ofInt value ++ rest) = some (.integer value, rest) := by
  cases value with
  | ofNat value =>
    have read := unsignedNumber_ofNat false value (by simp) closed
    unfold number Decimal.ofInt
    split
    · next tail same =>
      -- A minus sign is no digit.
      cases digits : Decimal.ofNat value with
      | nil => exact absurd digits Nat.toDigits_ne_nil
      | cons c others =>
        simp only [digits, List.cons_append, List.cons.injEq] at same
        have digit := isDigit_of_mem_ofNat value (c := c) (by simp [digits])
        rw [same.1] at digit
        exact absurd digit (by decide)
    · exact read
  | negSucc value =>
    have read := unsignedNumber_ofNat true (value + 1) (by simp) closed
    simp only [Decimal.ofInt, List.cons_append, number, read]
    rfl

end TokenLedger.Json
