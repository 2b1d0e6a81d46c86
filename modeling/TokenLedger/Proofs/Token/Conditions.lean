import TokenLedger.Proofs.Token.Rules

/-!
# Conditions in order

A chain of checks can be told without its steps: as conditions in order, each with the code that is
answered where it is the first one that fails. The rules for tokens are told in this way, with their
bounds spelt out.
-/

namespace TokenLedger

/-- A condition, with the code space and the code of what fails it. -/
structure Condition where
  /-- What has to hold. -/
  holds : Prop
  /-- The code space of the answer if it does not. -/
  codespace : String
  /-- The code of the answer if it does not. -/
  code : Nat
  /-- It is not the code of success. -/
  fails : code ≠ 0

namespace Condition

/-- A condition of the token module. -/
def asset (code : Nat) (holds : Prop) (fails : code ≠ 0 := by decide) : Condition :=
  ⟨holds, "asset", code, fails⟩

/-- A condition of what the token module rests on. -/
def sdk (code : Nat) (holds : Prop) (fails : code ≠ 0 := by decide) : Condition :=
  ⟨holds, "sdk", code, fails⟩

end Condition

/-- The answer, a code space and a code, is that of the first condition that fails, or that of
success if none does. -/
inductive Decides : List Condition → String × Nat → Prop
  /-- No condition is left. -/
  | passed : Decides [] ("", 0)
  /-- The first condition fails. -/
  | failed {condition : Condition} {rest : List Condition} (broken : ¬ condition.holds) :
    Decides (condition :: rest) (condition.codespace, condition.code)
  /-- The first condition holds, and a later one decides. -/
  | next {condition : Condition} {rest : List Condition} {answer : String × Nat}
    (kept : condition.holds) (later : Decides rest answer) : Decides (condition :: rest) answer

namespace Decides

variable {first second : List Condition} {answer : String × Nat}

/-- Conditions have one answer. -/
theorem unique {conditions : List Condition} {other : String × Nat}
    (left : Decides conditions answer) (right : Decides conditions other) : answer = other := by
  induction left with
  | passed =>
    cases right
    rfl
  | failed broken =>
    cases right with
    | failed _ => rfl
    | next kept _ => exact absurd kept broken
  | next kept _ ih =>
    cases right with
    | failed broken => exact absurd kept broken
    | next _ later => exact ih later

/-- The answer is success exactly if every condition holds. -/
theorem code_eq_zero_iff {conditions : List Condition} (decides : Decides conditions answer) :
    answer.2 = 0 ↔ ∀ condition ∈ conditions, condition.holds := by
  induction decides with
  | passed => exact iff_of_true rfl fun _ member => nomatch member
  | @failed condition rest broken =>
    exact iff_of_false condition.fails fun all => broken (all condition List.mem_cons_self)
  | @next condition rest answer kept _ ih =>
    rw [ih, List.forall_mem_cons]
    exact ⟨fun all => ⟨kept, all⟩, fun all => all.2⟩

/-- If the first conditions hold, those after them decide. -/
theorem append (kept : ∀ condition ∈ first, condition.holds) (later : Decides second answer) :
    Decides (first ++ second) answer := by
  induction first with
  | nil => exact later
  | cons condition rest ih =>
    obtain ⟨here, others⟩ := List.forall_mem_cons.mp kept
    exact .next here (ih others)

/-- If one of the first conditions fails, those after them do not matter. -/
theorem append_of_failed (decides : Decides first answer) (failure : answer.2 ≠ 0) :
    Decides (first ++ second) answer := by
  induction decides with
  | passed => exact absurd rfl failure
  | failed broken => exact .failed broken
  | next kept _ ih => exact .next kept (ih failure)

end Decides

/-! ## Checks -/

/-- The code space and the code by which the result of checks is answered. -/
def AssetError.answer : Except AssetError Unit → String × Nat
  | .ok () => ("", 0)
  | .error cause => (cause.codespace, cause.code)

open AssetError

/-- A check is told by one condition if it passes exactly where the condition holds and is refused
with its code only. -/
theorem decides_check {condition : Condition} {check : Except AssetError Unit}
    (passes : check = .ok () ↔ condition.holds)
    (refused : ∀ cause, check = .error cause →
      (cause.codespace, cause.code) = (condition.codespace, condition.code)) :
    Decides [condition] (answer check) := by
  cases result : check with
  | ok value => exact .next (passes.mp result) .passed
  | error cause =>
    have broken : ¬ condition.holds := fun holds => by
      rw [passes.mpr holds] at result
      contradiction
    have failed : Decides [condition] (condition.codespace, condition.code) := .failed broken
    rw [← refused cause result] at failed
    exact failed

/-- Checks one after the other are told by the conditions of both; those of the second one need to
be right only where the first one passes. -/
theorem Decides.bind {first second : List Condition} {check rest : Except AssetError Unit}
    (one : Decides first (answer check)) (other : check = .ok () → Decides second (answer rest)) :
    Decides (first ++ second) (answer (check >>= fun _ => rest)) := by
  cases check with
  | ok value => exact .append (one.code_eq_zero_iff.mp rfl) (other rfl)
  | error cause => exact one.append_of_failed cause.code_ne_zero

namespace Token

/-- A refused condition has its cause. -/
theorem ensure_eq_error {condition : Bool} {cause given : AssetError}
    (refused : ensure condition cause = .error given) : given = cause := by
  cases condition with
  | false => exact (Except.error.inj refused).symm
  | true => contradiction

/-- One condition for a refusal. -/
theorem decides_ensure {condition : Condition} {given : Bool} {cause : AssetError}
    (spelt : given = true ↔ condition.holds)
    (code : (cause.codespace, cause.code) = (condition.codespace, condition.code)) :
    Decides [condition] (answer (ensure given cause)) := by
  refine decides_check ((ensure_eq_ok_iff given cause).trans spelt) fun other refused => ?_
  rw [ensure_eq_error refused]
  exact code

/-- A chain of checks is refused by one of them. -/
theorem refused_of_bind {first second : Except AssetError Unit} {cause : AssetError}
    (refused : (first >>= fun _ => second) = .error cause) :
    first = .error cause ∨ second = .error cause := by
  cases first with
  | error given => exact .inl refused
  | ok value => exact .inr refused

/-- The names that a token may have. -/
structure AllowsName (name : String) : Prop where
  /-- They have one to thirty-two bytes. -/
  length : 1 ≤ Bytes.textLength name ∧ Bytes.textLength name ≤ 32
  /-- They are not those of the chain's own coin. -/
  foreign : name ≠ "ubarkis" ∧ name ≠ "barkis"

/-- The least length of a symbol in bytes. -/
def symbolLeast : Regime → Nat
  | .legacy => 1
  | .extended => 3

/-- The greatest length of a description in bytes. -/
def descriptionMost : Regime → Nat
  | .legacy => 128
  | .extended => 1024

/-- The symbols that a token may have under a regime. -/
structure AllowsSymbol (regime : Regime) (symbol : String) : Prop where
  /-- They have at most twelve bytes, and as many as the regime asks for. -/
  length : symbolLeast regime ≤ Bytes.textLength symbol ∧ Bytes.textLength symbol ≤ 12
  /-- In small letters they are not the names of the chain's own coin. -/
  foreign : lowered symbol ≠ "ubarkis" ∧ lowered symbol ≠ "barkis"
  /-- They hold letters from a to z only. -/
  letters : ∀ byte ∈ Bytes.utf8 symbol, 97 ≤ byte ∧ byte ≤ 122

/-- A text is reserved if it is one of the two names. -/
theorem isReserved_eq_false_iff (name : String) :
    isReserved name = false ↔ name ≠ "ubarkis" ∧ name ≠ "barkis" := by
  rw [isReserved, Bool.or_eq_false_iff, decide_eq_false_iff_not, decide_eq_false_iff_not]
  rfl

/-- The check of names. -/
theorem decides_checkName (name : String) :
    Decides [.asset 101 (AllowsName name)] (answer (checkName name)) := by
  refine decides_check ?_ fun cause refused => ?_
  · rw [checkName, bind_eq_ok_iff, ensure_eq_ok_iff, ensure_eq_ok_iff, Bool.and_eq_true,
      decide_eq_true_eq, decide_eq_true_eq, Bool.not_eq_true', isReserved_eq_false_iff]
    exact ⟨fun both => ⟨both.1, both.2⟩, fun allowed => ⟨allowed.length, allowed.foreign⟩⟩
  · rcases refused_of_bind refused with length | reserved
    · rw [ensure_eq_error length]
      rfl
    · rw [ensure_eq_error reserved]
      rfl

/-- The check of symbols. -/
theorem decides_checkSymbol (regime : Regime) (symbol : String) :
    Decides [.asset 102 (AllowsSymbol regime symbol)] (answer (checkSymbol regime symbol)) := by
  refine decides_check ?_ fun cause refused => ?_
  · rw [checkSymbol_eq_ok_iff, checkSymbolContent_eq_ok_iff, isReserved_eq_false_iff]
    simp only [isSymbolLength, Coin.isLower, Bool.and_eq_true, decide_eq_true_eq]
    constructor
    · rintro ⟨⟨⟨filled, least⟩, most⟩, foreign, letters⟩
      exact ⟨⟨by cases regime <;> assumption, most⟩, foreign, letters⟩
    · rintro ⟨⟨least, most⟩, foreign, letters⟩
      refine ⟨⟨?_, most⟩, foreign, letters⟩
      cases regime with
      | legacy => exact ⟨least, Nat.zero_le _⟩
      | extended => exact ⟨Nat.lt_of_lt_of_le (by decide) least, least⟩
  · rcases refused_of_bind refused with length | content
    · rw [ensure_eq_error length]
      rfl
    rcases refused_of_bind content with reserved | letters
    · rw [ensure_eq_error reserved]
      rfl
    · rw [ensure_eq_error letters]
      rfl

/-- The check of total supplies. -/
theorem decides_checkTotalSupply (supply : Int64) :
    Decides [.asset 103 (0 ≤ supply.toInt ∧ supply.toInt ≤ maxTotalSupply.toInt)]
      (answer (checkTotalSupply supply)) := by
  refine decides_ensure ?_ rfl
  rw [Bool.and_eq_true, decide_eq_true_eq, decide_eq_true_eq, Int64.le_iff_toInt_le,
    Int64.le_iff_toInt_le]
  rfl

/-- The check of decimal places. -/
theorem decides_checkDecimal (decimal : Int8) :
    Decides [.asset 104 (0 ≤ decimal.toInt)] (answer (checkDecimal decimal)) := by
  refine decides_ensure ?_ rfl
  rw [decide_eq_true_eq, Int8.le_iff_toInt_le]
  rfl

/-- The check of descriptions. -/
theorem decides_checkDescription (regime : Regime) (description : String) :
    Decides [.asset 106 (Bytes.textLength description ≤ descriptionMost regime)]
      (answer (checkDescription regime description)) := by
  refine decides_ensure ?_ rfl
  rw [decide_eq_true_eq]
  cases regime <;> rfl

end Token

end TokenLedger
