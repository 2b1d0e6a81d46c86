import Mathlib.Algebra.Ring.Nat
import TokenLedger.Coins

/-!
# The canonical form of a coin set

A well-formed set is sorted strictly by denomination and holds positive amounts of valid
denominations only, so the amounts it holds determine it. `ofList_eq_ok_iff` characterizes the
constructor: it gives the well-formed arrangement of the positive entries of its list, and nothing
when there is none.
-/

namespace TokenLedger.Coins

/-- No denomination stands twice in a list. -/
abbrev DistinctDenoms (coins : List Coin) : Prop :=
  coins.Pairwise fun left right => left.denom ≠ right.denom

/-- A set in the one form that its contents allow. -/
structure WellFormed (coins : Coins) : Prop where
  /-- Denominations ascend strictly. -/
  ascend : coins.toList.Pairwise fun left right => left.orderKey < right.orderKey
  /-- Every name is a denomination. -/
  denoms : ∀ coin ∈ coins.toList, Coin.isValidDenom coin.denom = true
  /-- There is some of every denomination that is listed. -/
  positive : ∀ coin ∈ coins.toList, coin.amount.isPositive = true

/-- The empty set is well-formed. -/
theorem wellFormed_empty : empty.WellFormed :=
  ⟨List.Pairwise.nil, by simp [empty], by simp [empty]⟩

/-- Coins with one order key have one denomination. -/
theorem denom_eq_of_orderKey {left right : Coin} (same : left.orderKey = right.orderKey) :
    left.denom = right.denom :=
  Bytes.utf8_injective same

/-- Coins in strict order have different denominations. -/
theorem denom_ne_of_lt {left right : Coin} (before : left.orderKey < right.orderKey) :
    left.denom ≠ right.denom := by
  intro same
  have keys : left.orderKey = right.orderKey := congrArg Bytes.utf8 same
  rw [keys] at before
  exact Bytes.lt_irrefl _ before

/-- A strictly ascending list names every denomination once. -/
theorem distinctDenoms_of_ascend {coins : List Coin}
    (ascend : coins.Pairwise fun left right => left.orderKey < right.orderKey) :
    DistinctDenoms coins :=
  ascend.imp denom_ne_of_lt

/-- A well-formed set names every denomination once. -/
theorem WellFormed.distinct {coins : Coins} (formed : coins.WellFormed) :
    DistinctDenoms coins.toList :=
  distinctDenoms_of_ascend formed.ascend

/-- The test of strict order looks at neighbours only, which transitivity makes enough. -/
theorem isStrictlySorted_iff (coins : List Coin) :
    isStrictlySorted coins = true ↔
      coins.Pairwise fun left right => left.orderKey < right.orderKey := by
  induction coins with
  | nil => simp [isStrictlySorted]
  | cons first rest ih =>
    cases rest with
    | nil => simp [isStrictlySorted]
    | cons second others =>
      simp only [isStrictlySorted, Bool.and_eq_true, decide_eq_true_eq]
      rw [ih]
      constructor
      · intro ⟨before, ascend⟩
        refine List.pairwise_cons.mpr ⟨fun coin member => ?_, ascend⟩
        rcases List.mem_cons.mp member with same | later
        · exact same ▸ before
        · exact Bytes.lt_trans before ((List.pairwise_cons.mp ascend).1 coin later)
      · intro ascend
        obtain ⟨above, tail⟩ := List.pairwise_cons.mp ascend
        exact ⟨above second List.mem_cons_self, tail⟩

/-- What the validity test of a set decides. -/
theorem isValid_iff (coins : Coins) :
    coins.isValid = true ↔
      (coins.toList.Pairwise fun left right => left.orderKey < right.orderKey) ∧
        ∀ coin ∈ coins.toList, Coin.isValidDenom coin.denom = true := by
  simp only [isValid, Bool.and_eq_true, List.all_eq_true, isStrictlySorted_iff]
  exact And.comm

/-- A set that passes the validity test names every denomination once. -/
theorem distinct_of_isValid {coins : Coins} (valid : coins.isValid = true) :
    DistinctDenoms coins.toList :=
  distinctDenoms_of_ascend ((isValid_iff coins).mp valid).1

/-- A well-formed set passes the validity test. -/
theorem WellFormed.isValid {coins : Coins} (formed : coins.WellFormed) : coins.isValid = true :=
  (isValid_iff coins).mpr ⟨formed.ascend, formed.denoms⟩

/-- A set that passes both tests is well-formed and not empty. -/
theorem wellFormed_of_tests {coins : Coins} (valid : coins.isValid = true)
    (positive : coins.isAllPositive = true) : coins.WellFormed ∧ coins.isEmpty = false := by
  obtain ⟨ascend, denoms⟩ := (isValid_iff coins).mp valid
  simp only [isAllPositive, Bool.and_eq_true, Bool.not_eq_true', List.all_eq_true] at positive
  exact ⟨⟨ascend, denoms, positive.2⟩, positive.1⟩

/-- A well-formed set that is not empty passes the test for positive amounts. -/
theorem WellFormed.isAllPositive {coins : Coins} (formed : coins.WellFormed)
    (filled : coins.isEmpty = false) : coins.isAllPositive = true := by
  simp only [Coins.isAllPositive, Bool.and_eq_true, Bool.not_eq_true', List.all_eq_true]
  exact ⟨filled, formed.positive⟩

/-! ## Amounts -/

/-- A denomination that is not listed has no amount. -/
theorem amountIn_eq_zero {denom : String} {coins : List Coin}
    (absent : ∀ coin ∈ coins, coin.denom ≠ denom) : amountIn denom coins = 0 := by
  induction coins with
  | nil => rfl
  | cons head rest ih =>
    simp only [amountIn, absent head List.mem_cons_self, if_false]
    exact ih fun coin member => absent coin (List.mem_cons_of_mem _ member)

/-- Where denominations are distinct, each coin is the amount of its denomination. -/
theorem amountIn_of_mem {coins : List Coin} (distinct : DistinctDenoms coins) {coin : Coin}
    (member : coin ∈ coins) : amountIn coin.denom coins = coin.amount := by
  induction coins with
  | nil => contradiction
  | cons head rest ih =>
    obtain ⟨apart, tail⟩ := List.pairwise_cons.mp distinct
    rcases List.mem_cons.mp member with same | later
    · simp [amountIn, same]
    · simp only [amountIn, apart coin later, if_false]
      exact ih tail later

/-- A denomination with an amount is listed with that amount. -/
theorem mem_of_amountIn {denom : String} {coins : List Coin} (held : amountIn denom coins ≠ 0) :
    ⟨denom, amountIn denom coins⟩ ∈ coins := by
  induction coins with
  | nil => exact absurd rfl held
  | cons head rest ih =>
    by_cases here : head.denom = denom
    · simp [amountIn, ← here]
    · simp only [amountIn, here, if_false] at held ⊢
      exact List.mem_cons_of_mem _ (ih held)

/-- A coin of a positive amount does not have the amount zero. -/
theorem isPositive_iff (amount : Amount) : amount.isPositive = true ↔ amount ≠ 0 := by
  simp only [Amount.isPositive, decide_eq_true_eq, ne_eq, Amount.ext_iff]
  exact Nat.pos_iff_ne_zero

/-- The positive coins of a list are the amounts of their denominations. -/
theorem mem_iff_amountIn {coins : List Coin} (distinct : DistinctDenoms coins) {coin : Coin}
    (positive : coin.amount.isPositive = true) :
    coin ∈ coins ↔ amountIn coin.denom coins = coin.amount := by
  constructor
  · exact amountIn_of_mem distinct
  · intro same
    have found : amountIn coin.denom coins ≠ 0 := same ▸ (isPositive_iff _).mp positive
    have listed := mem_of_amountIn found
    rw [same] at listed
    exact listed

/-- Two lists with the same positive coins and distinct denominations hold the same amounts. -/
theorem amountIn_congr {left right : List Coin} (leftDistinct : DistinctDenoms left)
    (rightDistinct : DistinctDenoms right)
    (same : ∀ coin : Coin, coin.amount.isPositive = true → (coin ∈ left ↔ coin ∈ right))
    (denom : String) : amountIn denom left = amountIn denom right := by
  by_cases absent : amountIn denom left = 0
  · by_cases missing : amountIn denom right = 0
    · rw [absent, missing]
    · have listed := (same _ ((isPositive_iff _).mpr missing)).mpr (mem_of_amountIn missing)
      exact amountIn_of_mem leftDistinct listed
  · have listed := (same _ ((isPositive_iff _).mpr absent)).mp (mem_of_amountIn absent)
    exact (amountIn_of_mem rightDistinct listed).symm

/-- Well-formed sets that hold the same amounts are equal. -/
theorem WellFormed.ext {left right : Coins} (leftFormed : left.WellFormed)
    (rightFormed : right.WellFormed) (same : ∀ denom, left.amountOf denom = right.amountOf denom) :
    left = right := by
  have members : ∀ coin, coin ∈ left.toList ↔ coin ∈ right.toList := fun coin => by
    constructor
    · intro member
      have positive := leftFormed.positive coin member
      rw [mem_iff_amountIn rightFormed.distinct positive]
      exact (same coin.denom).symm.trans (amountIn_of_mem leftFormed.distinct member)
    · intro member
      have positive := rightFormed.positive coin member
      rw [mem_iff_amountIn leftFormed.distinct positive]
      exact (same coin.denom).trans (amountIn_of_mem rightFormed.distinct member)
  have nodup {coins : Coins} (formed : coins.WellFormed) : coins.toList.Nodup :=
    formed.distinct.imp fun apart equal => apart (congrArg Coin.denom equal)
  have perm := (List.perm_ext_iff_of_nodup (nodup leftFormed) (nodup rightFormed)).mpr members
  have lists : left.toList = right.toList :=
    perm.eq_of_pairwise (fun _ _ _ _ before after =>
      absurd (Bytes.lt_trans before after) (Bytes.lt_irrefl _)) leftFormed.ascend rightFormed.ascend
  cases left
  cases right
  simpa using lists

/-- The units of a denomination in a coin set. -/
def units (coins : Coins) (denom : String) : Nat := (coins.amountOf denom).toNat

/-- There are less units than an amount can count. -/
theorem units_lt (coins : Coins) (denom : String) : coins.units denom < 2 ^ 128 :=
  (coins.amountOf denom).fits

/-- Well-formed sets of the same units are equal. -/
theorem WellFormed.eq_of_units {left right : Coins} (leftFormed : left.WellFormed)
    (rightFormed : right.WellFormed) (same : ∀ denom, left.units denom = right.units denom) :
    left = right :=
  leftFormed.ext rightFormed fun denom => Amount.ext (same denom)

/-- A set holds an amount of valid denominations only. -/
theorem WellFormed.isValidDenom_of_amountOf {coins : Coins} (formed : coins.WellFormed)
    {denom : String} (held : coins.amountOf denom ≠ 0) : Coin.isValidDenom denom = true :=
  formed.denoms _ (mem_of_amountIn held)

/-- A well-formed set is empty exactly if it holds no amount. -/
theorem WellFormed.isEmpty_iff {coins : Coins} (formed : coins.WellFormed) :
    coins.isEmpty = true ↔ ∀ denom, coins.amountOf denom = 0 := by
  rw [isEmpty, List.isEmpty_iff]
  constructor
  · intro nothing denom
    simp [amountOf, nothing, amountIn]
  · intro nothing
    have same : coins = empty := formed.ext wellFormed_empty fun denom => nothing denom
    rw [same, empty]

/-! ## The constructor -/

/-- Putting a coin in its place adds that coin and no other. -/
theorem perm_insertSorted (coin : Coin) (coins : List Coin) :
    (insertSorted coin coins).Perm (coin :: coins) := by
  induction coins with
  | nil => exact List.Perm.refl _
  | cons head rest ih =>
    unfold insertSorted
    split
    · exact (ih.cons head).trans (List.Perm.swap coin head rest)
    · exact List.Perm.refl _

/-- Sorting rearranges. -/
theorem perm_sort (coins : List Coin) : (sort coins).Perm coins := by
  induction coins with
  | nil => exact List.Perm.refl _
  | cons head rest ih => exact (perm_insertSorted head (sort rest)).trans (ih.cons head)

/-- Denominations ascend, equal ones standing side by side. -/
abbrev Ascends (coins : List Coin) : Prop :=
  coins.Pairwise fun left right => ¬ right.orderKey < left.orderKey

/-- Two coins in order are in strict order unless they are of one denomination. -/
theorem lt_of_ascends {left right : Coin}
    (ordered : ¬ right.orderKey < left.orderKey ∧ left.denom ≠ right.denom) :
    left.orderKey < right.orderKey :=
  Decidable.byContradiction fun notBefore =>
    ordered.2 (denom_eq_of_orderKey (Bytes.eq_of_not_lt notBefore ordered.1))

/-- A coin put in its place keeps the denominations ascending. -/
theorem ascends_insertSorted (coin : Coin) {coins : List Coin} (ascends : Ascends coins) :
    Ascends (insertSorted coin coins) := by
  induction coins with
  | nil => simp [insertSorted, Ascends]
  | cons head rest ih =>
    obtain ⟨above, tail⟩ := List.pairwise_cons.mp ascends
    unfold insertSorted
    split
    · next before =>
      refine List.pairwise_cons.mpr ⟨fun other member => ?_, ih tail⟩
      rcases List.mem_cons.mp ((perm_insertSorted coin rest).mem_iff.mp member) with same | later
      · exact same ▸ fun after => Bytes.lt_irrefl _ (Bytes.lt_trans before after)
      · exact above other later
    · next notBefore =>
      refine List.pairwise_cons.mpr ⟨fun other member => ?_, ascends⟩
      rcases List.mem_cons.mp member with same | later
      · exact same ▸ notBefore
      · -- A coin below the new one would be below the head, or the head below the new one.
        intro below
        by_cases after : coin.orderKey < head.orderKey
        · exact above other later (Bytes.lt_trans below after)
        · exact above other later (Bytes.eq_of_not_lt notBefore after ▸ below)

/-- Sorting makes the denominations ascend. -/
theorem ascends_sort (coins : List Coin) : Ascends (sort coins) := by
  induction coins with
  | nil => exact List.Pairwise.nil
  | cons head rest ih => exact ascends_insertSorted head ih

/-- Where denominations ascend, the look at neighbours finds any that stands twice. -/
theorem firstRepeated?_eq_none_iff {coins : List Coin} (ascends : Ascends coins) :
    firstRepeated? coins = none ↔
      coins.Pairwise fun left right => left.orderKey < right.orderKey := by
  induction coins with
  | nil => simp [firstRepeated?]
  | cons first rest ih =>
    cases rest with
    | nil => simp [firstRepeated?]
    | cons second others =>
      obtain ⟨above, tail⟩ := List.pairwise_cons.mp ascends
      unfold firstRepeated?
      split
      · next same =>
        refine iff_of_false (by simp) fun strict => ?_
        exact denom_ne_of_lt ((List.pairwise_cons.mp strict).1 second List.mem_cons_self) same
      · next different =>
        rw [ih tail]
        constructor
        · intro strict
          have before : first.orderKey < second.orderKey :=
            lt_of_ascends ⟨above second List.mem_cons_self, different⟩
          refine List.pairwise_cons.mpr ⟨fun coin member => ?_, strict⟩
          rcases List.mem_cons.mp member with same | later
          · exact same ▸ before
          · exact Bytes.lt_trans before ((List.pairwise_cons.mp strict).1 coin later)
        · exact fun strict => (List.pairwise_cons.mp strict).2

/-- The constructor takes an ascending list exactly if it is strict and names denominations. -/
theorem ofSorted_eq_ok_iff {coins : List Coin} (ascends : Ascends coins) (set : Coins) :
    ofSorted coins = .ok set ↔ set.toList = coins ∧
      (coins.Pairwise fun left right => left.orderKey < right.orderKey) ∧
        ∀ coin ∈ coins, Coin.isValidDenom coin.denom = true := by
  unfold ofSorted
  split
  · next coin found =>
    have invalid : Coin.isValidDenom coin.denom = false := by simpa using List.find?_some found
    refine iff_of_false (by simp) fun ⟨_, _, denoms⟩ => ?_
    have valid := denoms coin (List.mem_of_find?_eq_some found)
    rw [invalid] at valid
    contradiction
  · next absent =>
    have denoms : ∀ coin ∈ coins, Coin.isValidDenom coin.denom = true := by
      simpa using absent
    split
    · next denom repeated =>
      refine iff_of_false (by simp) fun ⟨_, strict, _⟩ => ?_
      rw [(firstRepeated?_eq_none_iff ascends).mpr strict] at repeated
      contradiction
    · next unrepeated =>
      have strict := (firstRepeated?_eq_none_iff ascends).mp unrepeated
      constructor
      · intro same
        injection same with same
        exact ⟨by rw [← same], strict, denoms⟩
      · intro ⟨same, _, _⟩
        cases set
        exact congrArg (fun list => Except.ok (Coins.mk list)) same.symm

/-- The constructor gives the well-formed set of the positive coins of its list, if there is one. -/
theorem ofList_eq_ok_iff (coins : List Coin) (set : Coins) :
    ofList coins = .ok set ↔
      set.WellFormed ∧ set.toList.Perm (coins.filter fun coin => coin.amount.isPositive) := by
  have perm := perm_sort (coins.filter fun coin => coin.amount.isPositive)
  rw [ofList, ofSorted_eq_ok_iff (ascends_sort _)]
  constructor
  · intro ⟨same, strict, denoms⟩
    rw [← same] at perm strict denoms
    refine ⟨⟨strict, denoms, fun coin member => ?_⟩, perm⟩
    exact (List.mem_filter.mp (perm.mem_iff.mp member)).2
  · intro ⟨formed, arranged⟩
    have rearranged := arranged.trans perm.symm
    have distinct := (rearranged.pairwise_iff Ne.symm).mp formed.distinct
    have strict := ((ascends_sort _).and distinct).imp lt_of_ascends
    have same : set.toList = sort (coins.filter fun coin => coin.amount.isPositive) :=
      rearranged.eq_of_pairwise (fun _ _ _ _ before after =>
        absurd (Bytes.lt_trans before after) (Bytes.lt_irrefl _)) formed.ascend strict
    rw [← same]
    exact ⟨rfl, formed.ascend, formed.denoms⟩

/-- Distinct coins, valid as far as they are positive, form a set that holds their amounts. -/
theorem ofList_of_distinct {coins : List Coin} (distinct : DistinctDenoms coins)
    (denoms : ∀ coin ∈ coins, coin.amount.isPositive = true →
      Coin.isValidDenom coin.denom = true) :
    ∃ set, ofList coins = .ok set ∧ set.WellFormed ∧
      ∀ denom, set.amountOf denom = amountIn denom coins := by
  have perm := perm_sort (coins.filter fun coin => coin.amount.isPositive)
  have kept : DistinctDenoms (coins.filter fun coin => coin.amount.isPositive) :=
    distinct.sublist List.filter_sublist
  have sorted := (perm.pairwise_iff Ne.symm).mpr kept
  have members : ∀ coin, coin ∈ sort (coins.filter fun coin => coin.amount.isPositive) ↔
      coin ∈ coins ∧ coin.amount.isPositive = true := fun coin => by
    rw [perm.mem_iff, List.mem_filter]
  have formed : WellFormed ⟨sort (coins.filter fun coin => coin.amount.isPositive)⟩ := {
    ascend := ((ascends_sort _).and sorted).imp lt_of_ascends
    denoms := fun coin member =>
      denoms coin ((members coin).mp member).1 ((members coin).mp member).2
    positive := fun coin member => ((members coin).mp member).2 }
  refine ⟨_, (ofList_eq_ok_iff coins _).mpr ⟨formed, perm⟩, formed, fun denom => ?_⟩
  refine amountIn_congr sorted distinct (fun coin positive => ?_) denom
  rw [members, and_iff_left positive]

/-- Building a set from a well-formed set gives it back. -/
theorem WellFormed.ofList_toList {coins : Coins} (formed : coins.WellFormed) :
    ofList coins.toList = .ok coins := by
  rw [ofList_eq_ok_iff]
  refine ⟨formed, ?_⟩
  rw [List.filter_eq_self.mpr formed.positive]

end TokenLedger.Coins
