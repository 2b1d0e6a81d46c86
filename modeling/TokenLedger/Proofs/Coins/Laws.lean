import TokenLedger.Proofs.Coins.Arithmetic

/-!
# The laws of sums and differences

A difference of valid sets exists exactly if every denomination is covered and no amount of zero is
taken of a denomination that is not listed. A sum of valid sets is the well-formed set that holds
what both hold together; it is missing exactly if a denomination leaves its range, and then the
first such denomination is named. So sums are commutative, causes included, and associative, the
empty set is neutral, and a difference undoes a sum.
-/

namespace TokenLedger.Coins

variable {left middle right sum : Coins}

/-! ## Differences -/

/-- The difference of valid sets exists exactly if every denomination is covered and no amount of
zero is taken of one that is not listed. It is then well-formed and, with what was taken, what was
there. -/
theorem sub?_covers_iff (leftValid : left.isValid = true) (rightValid : right.isValid = true) :
    ((∃ rest, left.sub? right = some rest) ↔
        (∀ denom, right.units denom ≤ left.units denom) ∧ ¬ left.TakesUnlisted right) ∧
      (∀ rest, left.sub? right = some rest →
        rest.WellFormed ∧ ∀ denom, rest.units denom + right.units denom = left.units denom) ∧
      (left.sub? right = none →
        (∃ denom, left.units denom < right.units denom) ∨ left.TakesUnlisted right) := by
  have exact := exists_sub?_iff leftValid rightValid
  refine ⟨exact, fun rest taken => sub?_eq_some leftValid rightValid taken, fun missing => ?_⟩
  by_contra neither
  rw [not_or, not_exists] at neither
  have covered : ∀ denom, right.units denom ≤ left.units denom := fun denom =>
    Nat.not_lt.mp (neither.1 denom)
  obtain ⟨rest, taken⟩ := exact.mpr ⟨covered, neither.2⟩
  rw [missing] at taken
  contradiction

/-- The greatest amount of one denomination is taken whole, and an amount of zero of another one
that is listed. -/
theorem sub?_covers_iff_sample :
    let held : Coins := ⟨[⟨"abc", ⟨2 ^ 128 - 1, by decide⟩⟩, ⟨"eth", 0⟩]⟩
    held.isValid = true ∧ ∃ rest, held.sub? held = some rest ∧ rest.WellFormed ∧
      ∀ denom, rest.units denom + held.units denom = held.units denom := by
  intro held
  have valid : held.isValid = true := by decide
  obtain ⟨exact, result, _⟩ := sub?_covers_iff valid valid
  have listed : ¬ held.TakesUnlisted held := by
    rintro ⟨coin, member, _, unlisted⟩
    exact unlisted (List.mem_map_of_mem member)
  obtain ⟨rest, taken⟩ := exact.mpr ⟨fun denom => Nat.le_refl _, listed⟩
  exact ⟨valid, rest, taken, result rest taken⟩

/-- Not every difference whose denominations are covered exists: an amount of zero cannot be taken
of a denomination that is not listed. -/
theorem sub?_eq_none_of_unlisted_zero :
    let held : Coins := ⟨[⟨"eth", ⟨3, by decide⟩⟩]⟩
    let nothing : Coins := ⟨[⟨"btc", 0⟩]⟩
    held.isValid = true ∧ nothing.isValid = true ∧
      (∀ denom, nothing.units denom ≤ held.units denom) ∧ held.sub? nothing = none := by
  refine ⟨by decide, by decide, fun denom => ?_, rfl⟩
  have zero : amountIn denom [⟨"btc", 0⟩] = 0 := by
    simp [amountIn]
  rw [units, amountOf, zero]
  exact Nat.zero_le _

/-! ## Sums -/

/-- A denomination of which two sets together hold more than an amount can count. -/
def Exceeds (left right : Coins) (denom : String) : Prop :=
  2 ^ 128 ≤ left.units denom + right.units denom

/-- A set that holds what two sets hold together exceeds in no denomination. -/
theorem not_exceeds {denom : String}
    (units : sum.units denom = left.units denom + right.units denom) :
    ¬ left.Exceeds right denom := by
  have fits := sum.units_lt denom
  unfold Exceeds
  omega

/-- The sum of valid sets is the well-formed set that holds what both hold together. -/
theorem add_eq_ok_iff (leftValid : left.isValid = true) (rightValid : right.isValid = true) :
    left.add right = .ok sum ↔
      sum.WellFormed ∧ ∀ denom, sum.units denom = left.units denom + right.units denom := by
  constructor
  · exact add_eq_ok leftValid rightValid
  · rintro ⟨formed, units⟩
    have range : ∀ denom, left.units denom + right.units denom < 2 ^ 128 := fun denom =>
      Nat.not_le.mp (not_exceeds (units denom))
    obtain ⟨other, added⟩ := exists_add leftValid rightValid range
    obtain ⟨otherFormed, otherUnits⟩ := add_eq_ok leftValid rightValid added
    have same : other = sum := otherFormed.eq_of_units formed fun denom => by
      rw [units]
      exact otherUnits denom
    rw [added, same]

/-- If the sum of valid sets is missing, the first denomination that exceeds is named. -/
theorem first_of_add_eq_error {cause : CoinsError} (leftValid : left.isValid = true)
    (rightValid : right.isValid = true) (refused : left.add right = .error cause) :
    ∃ denom, cause = .overflow denom ∧ left.Exceeds right denom ∧
      ∀ other, left.Exceeds right other → ¬ Bytes.utf8 other < Bytes.utf8 denom := by
  have rightDistinct := distinct_of_isValid rightValid
  have ascend := ((isValid_iff right).mp rightValid).1
  obtain ⟨front, coin, back, split, same, range, fits⟩ :=
    mergeAll_error (distinct_of_isValid leftValid) rightDistinct
      (mergeAll_of_add_eq_error leftValid rightValid refused)
  have amount {listed : Coin} (member : listed ∈ right.toList) :
      right.amountOf listed.denom = listed.amount :=
    amountIn_of_mem rightDistinct member
  have listed : coin ∈ right.toList := by
    rw [split]
    exact List.mem_append_right _ List.mem_cons_self
  refine ⟨coin.denom, same, ?_, fun other exceeds before => ?_⟩
  · rw [← amount listed] at range
    exact range
  · -- A denomination that exceeds is listed on the right, so it stands in front, here or behind.
    have held : right.amountOf other ≠ 0 := fun nothing => by
      have bound := left.units_lt other
      rw [Exceeds, units, units, nothing] at exceeds
      exact Nat.not_le.mpr bound exceeds
    have member : ⟨other, right.amountOf other⟩ ∈ front ++ coin :: back := by
      rw [← split]
      exact mem_of_amountIn held
    rw [split] at ascend
    obtain ⟨_, ascendHere, _⟩ := List.pairwise_append.mp ascend
    rcases List.mem_append.mp member with earlier | here
    · exact Nat.not_le.mpr (fits _ earlier) exceeds
    · rcases List.mem_cons.mp here with here | later
      · rw [← here] at before
        exact Bytes.lt_irrefl _ before
      · have after := (List.pairwise_cons.mp ascendHere).1 _ later
        exact Bytes.lt_irrefl _ (Bytes.lt_trans after before)

/-- The sum of valid sets is missing for the first denomination that exceeds and for no other
cause. -/
theorem add_eq_error_iff {cause : CoinsError} (leftValid : left.isValid = true)
    (rightValid : right.isValid = true) :
    left.add right = .error cause ↔ ∃ denom, cause = .overflow denom ∧ left.Exceeds right denom ∧
      ∀ other, left.Exceeds right other → ¬ Bytes.utf8 other < Bytes.utf8 denom := by
  constructor
  · exact first_of_add_eq_error leftValid rightValid
  · rintro ⟨denom, rfl, exceeds, first⟩
    cases result : left.add right with
    | ok sum =>
      have units := (add_eq_ok leftValid rightValid result).2 denom
      exact absurd exceeds (not_exceeds units)
    | error cause =>
      obtain ⟨named, rfl, namedExceeds, namedFirst⟩ :=
        first_of_add_eq_error leftValid rightValid result
      have same : Bytes.utf8 named = Bytes.utf8 denom :=
        Bytes.eq_of_not_lt (first named namedExceeds) (namedFirst denom exceeds)
      rw [Bytes.utf8_injective same]

/-- A sum of valid sets exists exactly if no denomination exceeds. -/
theorem exists_add_iff (leftValid : left.isValid = true) (rightValid : right.isValid = true) :
    (∃ sum, left.add right = .ok sum) ↔
      ∀ denom, left.units denom + right.units denom < 2 ^ 128 := by
  constructor
  · rintro ⟨sum, added⟩ denom
    have units := (add_eq_ok leftValid rightValid added).2 denom
    exact Nat.not_le.mp (not_exceeds units)
  · exact exists_add leftValid rightValid

/-- The order of two valid sets matters neither for their sum nor for the cause for which it is
missing. -/
theorem add_comm_of_valid (leftValid : left.isValid = true) (rightValid : right.isValid = true) :
    left.add right = right.add left := by
  have exceeds (denom : String) : left.Exceeds right denom ↔ right.Exceeds left denom := by
    rw [Exceeds, Exceeds, Nat.add_comm]
  cases result : left.add right with
  | ok sum =>
    obtain ⟨formed, units⟩ := add_eq_ok leftValid rightValid result
    symm
    refine (add_eq_ok_iff rightValid leftValid).mpr ⟨formed, fun denom => ?_⟩
    rw [Nat.add_comm]
    exact units denom
  | error cause =>
    have first := (add_eq_error_iff leftValid rightValid).mp result
    simp only [exceeds] at first
    symm
    exact (add_eq_error_iff rightValid leftValid).mpr first

/-- Three valid sets are added up one after the other to the well-formed set that holds what all of
them hold together. -/
theorem exists_add_add_iff (leftValid : left.isValid = true) (middleValid : middle.isValid = true)
    (rightValid : right.isValid = true) :
    (∃ both, left.add middle = .ok both ∧ both.add right = .ok sum) ↔ sum.WellFormed ∧
      ∀ denom, sum.units denom = left.units denom + middle.units denom + right.units denom := by
  constructor
  · rintro ⟨both, added, total⟩
    obtain ⟨bothFormed, bothUnits⟩ := (add_eq_ok_iff leftValid middleValid).mp added
    obtain ⟨formed, units⟩ := (add_eq_ok_iff bothFormed.isValid rightValid).mp total
    refine ⟨formed, fun denom => ?_⟩
    rw [units, bothUnits]
  · rintro ⟨formed, units⟩
    -- What the first two hold is no more than what all hold, which fits.
    have range : ∀ denom, left.units denom + middle.units denom < 2 ^ 128 := fun denom => by
      have fits := sum.units_lt denom
      have total := units denom
      omega
    obtain ⟨both, added⟩ := exists_add leftValid middleValid range
    obtain ⟨bothFormed, bothUnits⟩ := (add_eq_ok_iff leftValid middleValid).mp added
    have total : both.add right = .ok sum := by
      refine (add_eq_ok_iff bothFormed.isValid rightValid).mpr ⟨formed, fun denom => ?_⟩
      rw [units, bothUnits]
    exact ⟨both, added, total⟩

/-- It does not matter which two of three valid sets are added first. -/
theorem add_assoc_of_valid (leftValid : left.isValid = true) (middleValid : middle.isValid = true)
    (rightValid : right.isValid = true) :
    (∃ both, left.add middle = .ok both ∧ both.add right = .ok sum) ↔
      ∃ both, middle.add right = .ok both ∧ left.add both = .ok sum := by
  have turned : (∃ both, middle.add right = .ok both ∧ left.add both = .ok sum) ↔
      ∃ both, middle.add right = .ok both ∧ both.add left = .ok sum := by
    refine exists_congr fun both => and_congr_right fun added => ?_
    have bothFormed := (add_eq_ok middleValid rightValid added).1
    rw [add_comm_of_valid leftValid bothFormed.isValid]
  rw [turned, exists_add_add_iff leftValid middleValid rightValid,
    exists_add_add_iff middleValid rightValid leftValid]
  refine and_congr_right fun _ => forall_congr' fun denom => ?_
  rw [Nat.add_assoc, Nat.add_comm]

/-- Nothing added to a well-formed set leaves it. -/
theorem WellFormed.add_empty (formed : left.WellFormed) : left.add empty = .ok left :=
  (add_eq_ok_iff formed.isValid wellFormed_empty.isValid).mpr ⟨formed, fun _ => rfl⟩

/-- What was added to a well-formed set can be taken again, which leaves that set. -/
theorem WellFormed.sub?_of_add (leftFormed : left.WellFormed) (rightFormed : right.WellFormed)
    (added : left.add right = .ok sum) : sum.sub? right = some left := by
  obtain ⟨formed, units⟩ := add_eq_ok leftFormed.isValid rightFormed.isValid added
  have covered : ∀ denom, right.units denom ≤ sum.units denom := fun denom => by
    have total : sum.units denom = left.units denom + right.units denom := units denom
    omega
  obtain ⟨rest, taken⟩ := exists_sub? formed rightFormed covered
  obtain ⟨restFormed, restUnits⟩ := sub?_eq_some formed.isValid rightFormed.isValid taken
  have same : rest = left := restFormed.eq_of_units leftFormed fun denom => by
    have total : sum.units denom = left.units denom + right.units denom := units denom
    have parts : rest.units denom + right.units denom = sum.units denom := restUnits denom
    omega
  rw [taken, same]

/-- What the constructor builds is well-formed. -/
theorem wellFormed_of_ofList {coins : List Coin} {set : Coins} (built : ofList coins = .ok set) :
    set.WellFormed :=
  ((ofList_eq_ok_iff coins set).mp built).1

/-- Of sets that the constructor builds a sum exists exactly if every denomination stays in range.
It is then well-formed, holds what both sets hold together, and gives the first one back when the
second one is taken. Two sets can be added in either order, with the same cause if there is no sum,
and three sets in either grouping; the empty set is neutral. -/
theorem add_comm_assoc_cancel {leftCoins middleCoins rightCoins : List Coin}
    (leftBuilt : ofList leftCoins = .ok left) (middleBuilt : ofList middleCoins = .ok middle)
    (rightBuilt : ofList rightCoins = .ok right) :
    ((∃ sum, left.add right = .ok sum) ↔
        ∀ denom, left.units denom + right.units denom < 2 ^ 128) ∧
      (∀ sum, left.add right = .ok sum → sum.WellFormed ∧
        (∀ denom, sum.units denom = left.units denom + right.units denom) ∧
          sum.sub? right = some left) ∧
      left.add right = right.add left ∧
      (∀ sum, (∃ both, left.add middle = .ok both ∧ both.add right = .ok sum) ↔
        ∃ both, middle.add right = .ok both ∧ left.add both = .ok sum) ∧
      empty.add left = .ok left ∧ left.add empty = .ok left := by
  have leftFormed := wellFormed_of_ofList leftBuilt
  have rightFormed := wellFormed_of_ofList rightBuilt
  have leftValid := leftFormed.isValid
  have rightValid := rightFormed.isValid
  have middleValid := (wellFormed_of_ofList middleBuilt).isValid
  have neutral := leftFormed.add_empty
  refine ⟨exists_add_iff leftValid rightValid, fun sum added => ?_,
    add_comm_of_valid leftValid rightValid,
    fun sum => add_assoc_of_valid leftValid middleValid rightValid, ?_, neutral⟩
  · obtain ⟨formed, units⟩ := add_eq_ok leftValid rightValid added
    exact ⟨formed, units, leftFormed.sub?_of_add rightFormed added⟩
  · rw [add_comm_of_valid wellFormed_empty.isValid leftValid]
    exact neutral

/-- A sum reaches the greatest amount of a denomination; with the first set added once more there is
none, in whatever grouping. -/
theorem add_comm_assoc_cancel_sample :
    let left : Coins := ⟨[⟨"abc", ⟨7, by decide⟩⟩, ⟨"eth", ⟨5, by decide⟩⟩]⟩
    let right : Coins := ⟨[⟨"btc", ⟨1, by decide⟩⟩, ⟨"eth", ⟨2 ^ 128 - 6, by decide⟩⟩]⟩
    ofList [⟨"eth", ⟨5, by decide⟩⟩, ⟨"btc", 0⟩, ⟨"abc", ⟨7, by decide⟩⟩] = .ok left ∧
      ofList right.toList = .ok right ∧
      (∃ sum, left.add right = .ok sum ∧ sum.WellFormed ∧ sum.sub? right = some left) ∧
      ∀ sum, ¬ ∃ both, left.add right = .ok both ∧ left.add both = .ok sum := by
  intro left right
  have leftBuilt :
      ofList [⟨"eth", ⟨5, by decide⟩⟩, ⟨"btc", 0⟩, ⟨"abc", ⟨7, by decide⟩⟩] = .ok left := rfl
  have rightBuilt : ofList right.toList = .ok right := rfl
  obtain ⟨_, result, _, assoc, _⟩ := add_comm_assoc_cancel leftBuilt leftBuilt rightBuilt
  obtain ⟨sum, added⟩ : ∃ sum, left.add right = .ok sum := ⟨_, rfl⟩
  obtain ⟨formed, _, undone⟩ := result sum added
  refine ⟨leftBuilt, rightBuilt, ⟨sum, added, formed, undone⟩, fun total grouped => ?_⟩
  obtain ⟨both, doubled, exceeding⟩ := (assoc total).mpr grouped
  have twice : left.add left =
      .ok ⟨[⟨"abc", ⟨14, by decide⟩⟩, ⟨"eth", ⟨10, by decide⟩⟩]⟩ := rfl
  rw [twice] at doubled
  injection doubled with doubled
  rw [← doubled] at exceeding
  exact nomatch exceeding

end TokenLedger.Coins
