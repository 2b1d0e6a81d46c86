import TokenLedger.Proofs.Coins.Canonical

/-!
# Sums and differences of coin sets

A sum exists exactly if no denomination leaves the range of an amount, and a difference exists if
every denomination is covered; both are well-formed and hold, for each denomination, the sum or the
difference of what the two sets hold. The sets themselves may list amounts of zero. The loops work
on lists that are out of order, so the steps are stated for lists with distinct denominations and
the constructor restores the form at the end.
-/

namespace TokenLedger.Coins

/-- The units of one coin that count for a denomination. -/
def unitsOf (denom : String) (coin : Coin) : Nat :=
  if coin.denom = denom then coin.amount.toNat else 0

/-- The first coin of a list of distinct coins, counted apart from the rest. -/
theorem amountIn_cons {head : Coin} {rest : List Coin} (distinct : DistinctDenoms (head :: rest))
    (denom : String) :
    (amountIn denom (head :: rest)).toNat = unitsOf denom head + (amountIn denom rest).toNat := by
  obtain ⟨apart, _⟩ := List.pairwise_cons.mp distinct
  by_cases here : head.denom = denom
  · have absent : amountIn denom rest = 0 :=
      amountIn_eq_zero fun coin member same => apart coin member (here.trans same.symm)
    rw [absent]
    simp only [amountIn, unitsOf, here, if_true]
    rfl
  · simp [amountIn, unitsOf, here]

/-! ## Sums -/

/-- How a coin ends up in a list: added to the coin of its denomination, or behind all others. -/
inductive Merges (coin : Coin) : List Coin → List Coin → Prop
  /-- No coin is left that it could be added to. -/
  | last : Merges coin [] [coin]
  /-- It is added to the first coin. -/
  | here {head : Coin} {rest : List Coin} {sum : Amount} (same : head.denom = coin.denom)
    (added : head.amount.add? coin.amount = some sum) :
    Merges coin (head :: rest) (⟨head.denom, sum⟩ :: rest)
  /-- It ends up behind the first coin. -/
  | there {head : Coin} {rest others : List Coin} (different : head.denom ≠ coin.denom)
    (inner : Merges coin rest others) : Merges coin (head :: rest) (head :: others)

/-- The loop merges a coin. -/
theorem merges_of_mergeCoin {coin : Coin} {coins merged : List Coin}
    (done : mergeCoin coin coins = .ok merged) : Merges coin coins merged := by
  induction coins generalizing merged with
  | nil =>
    injection done with done
    subst done
    exact .last
  | cons head rest ih =>
    unfold mergeCoin at done
    split at done
    · next same =>
      split at done
      · next sum added =>
        injection done with done
        subst done
        exact .here same added
      · contradiction
    · next different =>
      cases inner : mergeCoin coin rest with
      | error cause => simp [inner, Except.map] at done
      | ok others =>
        simp only [inner, Except.map, Except.ok.injEq] at done
        subst done
        exact .there different (ih inner)

namespace Merges

variable {coin : Coin} {coins merged : List Coin}

/-- Merging a coin names its denomination and those that were named. -/
theorem mem_denoms (merges : Merges coin coins merged) (denom : String) :
    denom ∈ merged.map Coin.denom ↔ denom = coin.denom ∨ denom ∈ coins.map Coin.denom := by
  induction merges with
  | last => simp
  | here same added => simp [same]
  | there different inner ih =>
    simp only [List.map_cons, List.mem_cons, ih]
    exact or_left_comm

/-- Merging a coin into distinct coins leaves them distinct. -/
theorem distinct (merges : Merges coin coins merged) (distinct : DistinctDenoms coins) :
    DistinctDenoms merged := by
  induction merges with
  | last => exact List.pairwise_singleton _ _
  | here same added =>
    obtain ⟨apart, tail⟩ := List.pairwise_cons.mp distinct
    exact List.pairwise_cons.mpr ⟨apart, tail⟩
  | @there head rest others different inner ih =>
    obtain ⟨apart, tail⟩ := List.pairwise_cons.mp distinct
    refine List.pairwise_cons.mpr ⟨fun other member same => ?_, ih tail⟩
    have named : head.denom ∈ others.map Coin.denom := by
      rw [same]
      exact List.mem_map_of_mem member
    rcases (inner.mem_denoms head.denom).mp named with merging | listed
    · exact different merging
    · obtain ⟨old, oldMember, oldSame⟩ := List.mem_map.mp listed
      exact apart old oldMember oldSame.symm

/-- Merging a coin into distinct coins adds its units. -/
theorem amountIn (merges : Merges coin coins merged) (distinct : DistinctDenoms coins)
    (denom : String) :
    (Coins.amountIn denom merged).toNat =
      (Coins.amountIn denom coins).toNat + unitsOf denom coin := by
  induction merges with
  | last =>
    rw [amountIn_cons (List.pairwise_singleton _ _), Nat.add_comm]
  | here same added =>
    have still := (Merges.here same added).distinct distinct
    have units := Amount.toNat_of_add? added
    rw [amountIn_cons still, amountIn_cons distinct]
    simp only [unitsOf, ← same]
    split <;> omega
  | there different inner ih =>
    have still := (Merges.there different inner).distinct distinct
    have units := ih (List.pairwise_cons.mp distinct).2
    rw [amountIn_cons still, amountIn_cons distinct]
    omega

end Merges

/-- Merging a coin fails only where the sum of its denomination is out of range. -/
theorem mergeCoin_error {coin : Coin} {coins : List Coin} {cause : CoinsError}
    (failed : mergeCoin coin coins = .error cause) :
    cause = .overflow coin.denom ∧
      2 ^ 128 ≤ (amountIn coin.denom coins).toNat + coin.amount.toNat := by
  induction coins with
  | nil => contradiction
  | cons head rest ih =>
    unfold mergeCoin at failed
    split at failed
    · next same =>
      split at failed
      · contradiction
      · next missing =>
        injection failed with failed
        refine ⟨failed.symm, ?_⟩
        simp only [amountIn, same, if_true]
        exact (Amount.add?_eq_none_iff _ _).mp missing
    · next different =>
      cases inner : mergeCoin coin rest with
      | error other =>
        simp only [inner, Except.map, Except.error.injEq] at failed
        subst failed
        simpa [amountIn, different] using ih inner
      | ok others => simp [inner, Except.map] at failed

/-- Merging distinct coins one by one adds all their units. -/
theorem amountIn_mergeAll {left right merged : List Coin} (leftDistinct : DistinctDenoms left)
    (rightDistinct : DistinctDenoms right) (done : mergeAll left right = .ok merged) :
    DistinctDenoms merged ∧
      (∀ denom ∈ merged.map Coin.denom,
        denom ∈ left.map Coin.denom ∨ denom ∈ right.map Coin.denom) ∧
      ∀ denom, (amountIn denom merged).toNat =
        (amountIn denom left).toNat + (amountIn denom right).toNat := by
  induction right generalizing left with
  | nil =>
    injection done with done
    subst done
    exact ⟨leftDistinct, fun denom named => .inl named, fun denom => rfl⟩
  | cons coin rest ih =>
    unfold mergeAll at done
    split at done
    · next first merging =>
      have merges := merges_of_mergeCoin merging
      have firstDistinct := merges.distinct leftDistinct
      have firstUnits := merges.amountIn leftDistinct
      obtain ⟨distinct, named, units⟩ :=
        ih firstDistinct (List.pairwise_cons.mp rightDistinct).2 done
      refine ⟨distinct, fun denom member => ?_, fun denom => ?_⟩
      · rcases named denom member with early | late
        · rcases (merges.mem_denoms denom).mp early with here | there
          · exact .inr (by simp [here])
          · exact .inl there
        · exact .inr (List.mem_cons_of_mem _ late)
      · rw [amountIn_cons rightDistinct, units, firstUnits, Nat.add_assoc]
    · contradiction

/-- Merging distinct coins fails at the first one for which the sum of its denomination is out of
range. -/
theorem mergeAll_error {left right : List Coin} {cause : CoinsError}
    (leftDistinct : DistinctDenoms left) (rightDistinct : DistinctDenoms right)
    (failed : mergeAll left right = .error cause) :
    ∃ front coin back, right = front ++ coin :: back ∧ cause = .overflow coin.denom ∧
      2 ^ 128 ≤ (amountIn coin.denom left).toNat + coin.amount.toNat ∧
      ∀ earlier ∈ front, (amountIn earlier.denom left).toNat + earlier.amount.toNat < 2 ^ 128 := by
  induction right generalizing left with
  | nil => contradiction
  | cons coin rest ih =>
    obtain ⟨apart, restDistinct⟩ := List.pairwise_cons.mp rightDistinct
    unfold mergeAll at failed
    split at failed
    · next first merging =>
      have merges := merges_of_mergeCoin merging
      have firstUnits := merges.amountIn leftDistinct
      obtain ⟨front, other, back, rfl, same, range, fits⟩ :=
        ih (merges.distinct leftDistinct) restDistinct failed
      -- A coin that was merged before does not count for the others.
      have others : ∀ later ∈ front ++ other :: back,
          (amountIn later.denom first).toNat = (amountIn later.denom left).toNat := by
        intro later member
        rw [firstUnits, unitsOf, if_neg (apart later member), Nat.add_zero]
      refine ⟨coin :: front, other, back, rfl, same, ?_, fun earlier member => ?_⟩
      · rwa [others other (by simp)] at range
      · rcases List.mem_cons.mp member with rfl | member
        · have own := firstUnits earlier.denom
          rw [unitsOf, if_pos rfl] at own
          rw [← own]
          exact (amountIn earlier.denom first).fits
        · have bound := fits earlier member
          rwa [others earlier (List.mem_append_left _ member)] at bound
    · next other merging =>
      injection failed with failed
      obtain ⟨same, range⟩ := mergeCoin_error merging
      exact ⟨[], coin, rest, rfl, failed ▸ same, range, fun _ none => nomatch none⟩

/-- Merged coins of two valid sets form a set that holds all their units. -/
theorem ofList_mergeAll {left right : Coins} {merged : List Coin} (leftValid : left.isValid = true)
    (rightValid : right.isValid = true) (done : mergeAll left.toList right.toList = .ok merged) :
    ∃ sum, ofList merged = .ok sum ∧ sum.WellFormed ∧ ∀ denom,
      (sum.amountOf denom).toNat = (left.amountOf denom).toNat + (right.amountOf denom).toNat := by
  have leftDenoms := ((isValid_iff left).mp leftValid).2
  have rightDenoms := ((isValid_iff right).mp rightValid).2
  obtain ⟨distinct, named, units⟩ :=
    amountIn_mergeAll (distinct_of_isValid leftValid) (distinct_of_isValid rightValid) done
  have valid : ∀ coin ∈ merged, coin.amount.isPositive = true →
      Coin.isValidDenom coin.denom = true := fun coin member _ => by
    rcases named _ (List.mem_map_of_mem member) with old | new
    · obtain ⟨other, otherMember, same⟩ := List.mem_map.mp old
      exact same ▸ leftDenoms other otherMember
    · obtain ⟨other, otherMember, same⟩ := List.mem_map.mp new
      exact same ▸ rightDenoms other otherMember
  obtain ⟨sum, built, formed, amounts⟩ := ofList_of_distinct distinct valid
  exact ⟨sum, built, formed, fun denom => by rw [amounts, units]; rfl⟩

/-- A sum is well-formed and holds what the two sets hold together. -/
theorem add_eq_ok {left right sum : Coins} (leftValid : left.isValid = true)
    (rightValid : right.isValid = true) (added : left.add right = .ok sum) :
    sum.WellFormed ∧ ∀ denom,
      (sum.amountOf denom).toNat = (left.amountOf denom).toNat + (right.amountOf denom).toNat := by
  unfold add at added
  split at added
  · next merged merging =>
    obtain ⟨set, built, formed, units⟩ := ofList_mergeAll leftValid rightValid merging
    rw [built] at added
    injection added with added
    subst added
    exact ⟨formed, units⟩
  · contradiction

/-- A sum is missing only where the coins cannot be merged. -/
theorem mergeAll_of_add_eq_error {left right : Coins} {cause : CoinsError}
    (leftValid : left.isValid = true) (rightValid : right.isValid = true)
    (refused : left.add right = .error cause) :
    mergeAll left.toList right.toList = .error cause := by
  unfold add at refused
  split at refused
  · next merged merging =>
    obtain ⟨set, built, _⟩ := ofList_mergeAll leftValid rightValid merging
    rw [built] at refused
    contradiction
  · next other merging =>
    injection refused with refused
    rw [← refused]
    exact merging

/-- A sum is missing only where a denomination is out of range. -/
theorem add_eq_error {left right : Coins} {cause : CoinsError} (leftValid : left.isValid = true)
    (rightValid : right.isValid = true) (refused : left.add right = .error cause) :
    ∃ denom, cause = .overflow denom ∧
      2 ^ 128 ≤ (left.amountOf denom).toNat + (right.amountOf denom).toNat := by
  have rightDistinct := distinct_of_isValid rightValid
  obtain ⟨front, coin, back, split, same, range, _⟩ :=
    mergeAll_error (distinct_of_isValid leftValid) rightDistinct
      (mergeAll_of_add_eq_error leftValid rightValid refused)
  have listed : coin ∈ right.toList := by
    rw [split]
    exact List.mem_append_right _ List.mem_cons_self
  refine ⟨coin.denom, same, ?_⟩
  rwa [← amountIn_of_mem rightDistinct listed] at range

/-- A sum exists where every denomination stays in range. -/
theorem exists_add {left right : Coins} (leftValid : left.isValid = true)
    (rightValid : right.isValid = true)
    (range : ∀ denom, (left.amountOf denom).toNat + (right.amountOf denom).toNat < 2 ^ 128) :
    ∃ sum, left.add right = .ok sum := by
  cases result : left.add right with
  | ok sum => exact ⟨sum, rfl⟩
  | error cause =>
    obtain ⟨denom, _, exceeds⟩ := add_eq_error leftValid rightValid result
    exact absurd (range denom) (Nat.not_lt.mpr exceeds)

/-! ## Differences -/

/-- Taking a coin names the same denominations in the same order. -/
theorem denoms_takeCoin? {coin : Coin} {coins rest : List Coin}
    (taken : takeCoin? coin coins = some rest) : rest.map Coin.denom = coins.map Coin.denom := by
  induction coins generalizing rest with
  | nil => contradiction
  | cons head others ih =>
    unfold takeCoin? at taken
    split at taken
    · obtain ⟨left, _, same⟩ := Option.map_eq_some_iff.mp taken
      simp [← same]
    · obtain ⟨left, inner, same⟩ := Option.map_eq_some_iff.mp taken
      simp [← same, ih inner]

/-- Distinctness depends on the denominations only. -/
theorem distinctDenoms_iff_nodup (coins : List Coin) :
    DistinctDenoms coins ↔ (coins.map Coin.denom).Nodup := by
  rw [List.Nodup, List.pairwise_map]

/-- What is left after a coin is taken, with the coin, is what was there. -/
theorem amountIn_takeCoin? {coin : Coin} {coins rest : List Coin} (distinct : DistinctDenoms coins)
    (taken : takeCoin? coin coins = some rest) :
    DistinctDenoms rest ∧ ∀ denom,
      (amountIn denom rest).toNat + unitsOf denom coin = (amountIn denom coins).toNat := by
  have still : DistinctDenoms rest := by
    rw [distinctDenoms_iff_nodup, denoms_takeCoin? taken, ← distinctDenoms_iff_nodup]
    exact distinct
  refine ⟨still, fun denom => ?_⟩
  induction coins generalizing rest with
  | nil => contradiction
  | cons head others ih =>
    unfold takeCoin? at taken
    split at taken
    · next same =>
      obtain ⟨left, subtracted, built⟩ := Option.map_eq_some_iff.mp taken
      subst built
      have units := Amount.toNat_of_sub? subtracted
      rw [amountIn_cons still, amountIn_cons distinct]
      simp only [unitsOf, ← same]
      split <;> omega
    · next different =>
      obtain ⟨left, inner, built⟩ := Option.map_eq_some_iff.mp taken
      subst built
      have units := ih (List.pairwise_cons.mp distinct).2 inner (List.pairwise_cons.mp still).2
      rw [amountIn_cons still, amountIn_cons distinct]
      omega

/-- A coin can be taken exactly if its denomination is listed and covers it. -/
theorem exists_takeCoin?_iff {coin : Coin} {coins : List Coin} :
    (∃ rest, takeCoin? coin coins = some rest) ↔
      coin.denom ∈ coins.map Coin.denom ∧
        coin.amount.toNat ≤ (amountIn coin.denom coins).toNat := by
  induction coins with
  | nil => exact iff_of_false (by rintro ⟨_, ⟨⟩⟩) (by rintro ⟨⟨⟩, _⟩)
  | cons head others ih =>
    rw [List.map_cons, List.mem_cons]
    unfold takeCoin?
    split
    · next same =>
      simp only [amountIn, same, if_true, true_or, true_and, Option.map_eq_some_iff]
      cases result : head.amount.sub? coin.amount with
      | some left =>
        have units := Amount.toNat_of_sub? result
        exact iff_of_true ⟨_, left, rfl, rfl⟩ (by omega)
      | none =>
        have short := (Amount.sub?_eq_none_iff _ _).mp result
        exact iff_of_false (by rintro ⟨_, _, ⟨⟩, _⟩) (Nat.not_le.mpr short)
    · next different =>
      simp only [amountIn, different, Ne.symm different, if_false, false_or, ← ih,
        Option.map_eq_some_iff]
      constructor
      · rintro ⟨_, rest, taken, _⟩
        exact ⟨rest, taken⟩
      · rintro ⟨rest, taken⟩
        exact ⟨_, rest, taken, rfl⟩

/-- What is left after distinct coins are taken, with these coins, is what was there. -/
theorem amountIn_takeAll? {left right rest : List Coin} (leftDistinct : DistinctDenoms left)
    (rightDistinct : DistinctDenoms right) (taken : takeAll? left right = some rest) :
    rest.map Coin.denom = left.map Coin.denom ∧ ∀ denom,
      (amountIn denom rest).toNat + (amountIn denom right).toNat =
        (amountIn denom left).toNat := by
  induction right generalizing left with
  | nil =>
    injection taken with taken
    subst taken
    exact ⟨rfl, fun denom => rfl⟩
  | cons coin others ih =>
    obtain ⟨first, taking, later⟩ := Option.bind_eq_some_iff.mp taken
    obtain ⟨firstDistinct, firstUnits⟩ := amountIn_takeCoin? leftDistinct taking
    obtain ⟨names, units⟩ := ih firstDistinct (List.pairwise_cons.mp rightDistinct).2 later
    refine ⟨names.trans (denoms_takeCoin? taking), fun denom => ?_⟩
    have here := firstUnits denom
    have there := units denom
    rw [amountIn_cons rightDistinct]
    omega

/-- Distinct coins can all be taken exactly if the denomination of each is listed and covers it. -/
theorem exists_takeAll?_iff {left right : List Coin} (leftDistinct : DistinctDenoms left)
    (rightDistinct : DistinctDenoms right) :
    (∃ rest, takeAll? left right = some rest) ↔ ∀ coin ∈ right,
      coin.denom ∈ left.map Coin.denom ∧
        coin.amount.toNat ≤ (amountIn coin.denom left).toNat := by
  induction right generalizing left with
  | nil => exact iff_of_true ⟨left, rfl⟩ fun _ none => nomatch none
  | cons coin others ih =>
    obtain ⟨apart, othersDistinct⟩ := List.pairwise_cons.mp rightDistinct
    -- What a coin leaves lists the same denominations and holds as much of the others.
    have step {first : List Coin} (taking : takeCoin? coin left = some first) :
        (∃ rest, takeAll? first others = some rest) ↔ ∀ other ∈ others,
          other.denom ∈ left.map Coin.denom ∧
            other.amount.toNat ≤ (amountIn other.denom left).toNat := by
      obtain ⟨firstDistinct, units⟩ := amountIn_takeCoin? leftDistinct taking
      rw [ih firstDistinct othersDistinct, denoms_takeCoin? taking]
      refine forall₂_congr fun other member => and_congr_right fun _ => ?_
      have same := units other.denom
      rw [unitsOf, if_neg (apart other member), Nat.add_zero] at same
      rw [same]
    rw [List.forall_mem_cons, ← exists_takeCoin?_iff]
    constructor
    · rintro ⟨rest, taken⟩
      obtain ⟨first, taking, later⟩ := Option.bind_eq_some_iff.mp taken
      exact ⟨⟨first, taking⟩, (step taking).mp ⟨rest, later⟩⟩
    · rintro ⟨⟨first, taking⟩, covered⟩
      obtain ⟨rest, later⟩ := (step taking).mpr covered
      exact ⟨rest, by rw [takeAll?, taking]; exact later⟩

/-- What is left of a valid set form a set again that holds the same amounts. -/
theorem ofList_takeAll? {left right : Coins} {remaining : List Coin}
    (leftValid : left.isValid = true) (rightValid : right.isValid = true)
    (taken : takeAll? left.toList right.toList = some remaining) :
    ∃ rest, ofList remaining = .ok rest ∧ rest.WellFormed ∧ ∀ denom,
      (rest.amountOf denom).toNat + (right.amountOf denom).toNat =
        (left.amountOf denom).toNat := by
  have leftDistinct := distinct_of_isValid leftValid
  have leftDenoms := ((isValid_iff left).mp leftValid).2
  obtain ⟨names, units⟩ := amountIn_takeAll? leftDistinct (distinct_of_isValid rightValid) taken
  have distinct : DistinctDenoms remaining := by
    rw [distinctDenoms_iff_nodup, names, ← distinctDenoms_iff_nodup]
    exact leftDistinct
  have valid : ∀ coin ∈ remaining, coin.amount.isPositive = true →
      Coin.isValidDenom coin.denom = true := fun coin member _ => by
    have named := List.mem_map_of_mem (f := Coin.denom) member
    rw [names] at named
    obtain ⟨other, otherMember, same⟩ := List.mem_map.mp named
    exact same ▸ leftDenoms other otherMember
  obtain ⟨rest, built, formed, amounts⟩ := ofList_of_distinct distinct valid
  exact ⟨rest, built, formed, fun denom => by rw [amounts]; exact units denom⟩

/-- A difference is well-formed and, with what was taken, is what was there. -/
theorem sub?_eq_some {left right rest : Coins} (leftValid : left.isValid = true)
    (rightValid : right.isValid = true) (taken : left.sub? right = some rest) :
    rest.WellFormed ∧ ∀ denom,
      (rest.amountOf denom).toNat + (right.amountOf denom).toNat =
        (left.amountOf denom).toNat := by
  obtain ⟨remaining, taking, building⟩ := Option.bind_eq_some_iff.mp taken
  obtain ⟨set, built, formed, units⟩ := ofList_takeAll? leftValid rightValid taking
  rw [built] at building
  injection building with building
  subst building
  exact ⟨formed, units⟩

/-- An amount of zero is to be taken of a denomination that is not listed. -/
def TakesUnlisted (left right : Coins) : Prop :=
  ∃ coin ∈ right.toList, coin.amount = 0 ∧ coin.denom ∉ left.toList.map Coin.denom

/-- Well-formed sets list no amounts of zero. -/
theorem WellFormed.not_takesUnlisted {right : Coins} (formed : right.WellFormed) (left : Coins) :
    ¬ left.TakesUnlisted right := by
  rintro ⟨coin, member, nothing, _⟩
  exact (isPositive_iff _).mp (formed.positive coin member) nothing

/-- A difference exists exactly if every denomination is covered and no amount of zero is taken of
one that is not listed. -/
theorem exists_sub?_iff {left right : Coins} (leftValid : left.isValid = true)
    (rightValid : right.isValid = true) :
    (∃ rest, left.sub? right = some rest) ↔
      (∀ denom, right.units denom ≤ left.units denom) ∧ ¬ left.TakesUnlisted right := by
  have rightDistinct := distinct_of_isValid rightValid
  have taking : (∃ rest, left.sub? right = some rest) ↔
      ∃ remaining, takeAll? left.toList right.toList = some remaining := by
    constructor
    · rintro ⟨rest, taken⟩
      obtain ⟨remaining, taking, _⟩ := Option.bind_eq_some_iff.mp taken
      exact ⟨remaining, taking⟩
    · rintro ⟨remaining, taking⟩
      obtain ⟨set, built, _⟩ := ofList_takeAll? leftValid rightValid taking
      exact ⟨set, by rw [sub?, taking, Option.bind_some, built]; rfl⟩
  rw [taking, exists_takeAll?_iff (distinct_of_isValid leftValid) rightDistinct]
  constructor
  · intro each
    refine ⟨fun denom => ?_, fun ⟨coin, member, _, unlisted⟩ => unlisted (each coin member).1⟩
    by_cases held : right.amountOf denom = 0
    · rw [units, held]
      exact Nat.zero_le _
    · exact (each _ (mem_of_amountIn held)).2
  · rintro ⟨covered, unlisted⟩ coin member
    have own := covered coin.denom
    rw [units, amountOf, amountIn_of_mem rightDistinct member] at own
    refine ⟨?_, own⟩
    by_cases nothing : coin.amount = 0
    · by_contra absent
      exact unlisted ⟨coin, member, nothing, absent⟩
    · have positive : 0 < coin.amount.toNat := by
        simpa [Amount.isPositive] using (isPositive_iff _).mpr nothing
      have held : left.amountOf coin.denom ≠ 0 := fun absent => by
        rw [units, absent] at own
        exact Nat.not_le.mpr positive own
      exact List.mem_map.mpr ⟨_, mem_of_amountIn held, rfl⟩

/-- A difference of well-formed sets exists where every denomination is covered. -/
theorem exists_sub? {left right : Coins} (leftFormed : left.WellFormed)
    (rightFormed : right.WellFormed)
    (covered : ∀ denom, (right.amountOf denom).toNat ≤ (left.amountOf denom).toNat) :
    ∃ rest, left.sub? right = some rest :=
  (exists_sub?_iff leftFormed.isValid rightFormed.isValid).mpr
    ⟨covered, rightFormed.not_takesUnlisted left⟩

end TokenLedger.Coins
