import TokenLedger.Proofs.Coins.Laws

/-!
# What the constructor builds and refuses

Of a list of coins only those of a positive amount count. They form a set exactly if their names are
denominations and none stands twice; otherwise the list is refused for the first name, by its bytes,
that is no denomination, and where all are denominations for the first one that stands twice. None
of this depends on the order of the list, so neither does the answer of the constructor.
-/

namespace TokenLedger.Coins

variable {coins left right : List Coin} {cause : CoinsError}

/-! ## Causes -/

/-- The coins of a list that count. -/
def kept (coins : List Coin) : List Coin := coins.filter fun coin => coin.amount.isPositive

/-- The coins that count are those of an amount other than zero. -/
theorem mem_kept {coin : Coin} : coin ∈ kept coins ↔ coin ∈ coins ∧ coin.amount ≠ 0 := by
  rw [kept, List.mem_filter, isPositive_iff]

/-- A name in a list that is no denomination. -/
def Misnamed (coins : List Coin) (denom : String) : Prop :=
  denom ∈ coins.map Coin.denom ∧ Coin.isValidDenom denom = false

/-- A name that stands more than once in a list. -/
def Repeated (coins : List Coin) (denom : String) : Prop :=
  1 < (coins.map Coin.denom).count denom

/-- The first of some names by their bytes. -/
structure First (names : String → Prop) (denom : String) : Prop where
  /-- It is one of them. -/
  named : names denom
  /-- None of them stands before it. -/
  least : ∀ other, names other → ¬ Bytes.utf8 other < Bytes.utf8 denom

/-- There is one first name. -/
theorem First.unique {names : String → Prop} {denom other : String} (one : First names denom)
    (another : First names other) : denom = other := by
  have same : Bytes.utf8 denom = Bytes.utf8 other :=
    Bytes.eq_of_not_lt (another.least denom one.named) (one.least other another.named)
  exact Bytes.utf8_injective same

/-- Why the coins of a list, all of which count, do not form a set. -/
inductive Refused (coins : List Coin) : CoinsError → Prop
  /-- A name is no denomination. -/
  | invalidDenom {denom : String} (first : First (Misnamed coins) denom) :
    Refused coins (.invalidDenom denom)
  /-- All names are denominations, and one stands more than once. -/
  | duplicateDenom {denom : String} (valid : ∀ other, ¬ Misnamed coins other)
    (first : First (Repeated coins) denom) : Refused coins (.duplicateDenom denom)

/-- A list is refused for one cause. -/
theorem Refused.unique {other : CoinsError} (one : Refused coins cause)
    (another : Refused coins other) : cause = other := by
  cases one with
  | invalidDenom first =>
    cases another with
    | invalidDenom second => rw [first.unique second]
    | duplicateDenom valid _ => exact absurd first.named (valid _)
  | duplicateDenom valid first =>
    cases another with
    | invalidDenom second => exact absurd second.named (valid _)
    | duplicateDenom _ second => rw [first.unique second]

/-- Which names are no denominations does not depend on the order of a list. -/
theorem misnamed_of_perm (perm : left.Perm right) : Misnamed left = Misnamed right := by
  funext denom
  have names := perm.map Coin.denom
  rw [Misnamed, Misnamed, names.mem_iff]

/-- Which names stand more than once does not depend on the order of a list. -/
theorem repeated_of_perm (perm : left.Perm right) : Repeated left = Repeated right := by
  funext denom
  have names := perm.map Coin.denom
  rw [Repeated, Repeated, names.count_eq]

/-- The cause for which a list is refused does not depend on its order. -/
theorem Refused.of_perm (refused : Refused left cause) (perm : left.Perm right) :
    Refused right cause := by
  cases refused with
  | invalidDenom first =>
    rw [misnamed_of_perm perm] at first
    exact .invalidDenom first
  | duplicateDenom valid first =>
    rw [misnamed_of_perm perm] at valid
    rw [repeated_of_perm perm] at first
    exact .duplicateDenom valid first

/-- No name in a list is misnamed exactly if every coin is of a denomination. -/
theorem not_misnamed_iff (coins : List Coin) :
    (∀ denom, ¬ Misnamed coins denom) ↔
      ∀ coin ∈ coins, Coin.isValidDenom coin.denom = true := by
  constructor
  · intro valid coin member
    have named : coin.denom ∈ coins.map Coin.denom := List.mem_map_of_mem member
    by_contra invalid
    exact valid coin.denom ⟨named, Bool.eq_false_iff.mpr invalid⟩
  · rintro valid denom ⟨named, invalid⟩
    obtain ⟨coin, member, rfl⟩ := List.mem_map.mp named
    rw [valid coin member] at invalid
    contradiction

/-- No name stands more than once exactly if denominations are distinct. -/
theorem not_repeated_iff (coins : List Coin) :
    (∀ denom, ¬ Repeated coins denom) ↔ DistinctDenoms coins := by
  rw [distinctDenoms_iff_nodup, List.nodup_iff_count]
  exact forall_congr' fun denom => Nat.not_lt

/-! ## What the constructor names -/

/-- In an ascending list no name stands before that of the head. -/
theorem not_before_head {first : Coin} {rest : List Coin} {denom : String}
    (ascends : Ascends (first :: rest)) (named : denom ∈ (first :: rest).map Coin.denom) :
    ¬ Bytes.utf8 denom < Bytes.utf8 first.denom := by
  obtain ⟨coin, member, rfl⟩ := List.mem_map.mp named
  rcases List.mem_cons.mp member with here | later
  · rw [here]
    exact Bytes.lt_irrefl _
  · exact (List.pairwise_cons.mp ascends).1 coin later

/-- In an ascending list the first coin that is found has the first of the misnamed names. -/
theorem first_of_find? {coin : Coin} (ascends : Ascends coins)
    (found : coins.find? (fun coin => !Coin.isValidDenom coin.denom) = some coin) :
    First (Misnamed coins) coin.denom := by
  obtain ⟨invalid, front, back, split, valid⟩ := List.find?_eq_some_iff_append.mp found
  refine ⟨⟨List.mem_map_of_mem (List.mem_of_find?_eq_some found), by simpa using invalid⟩, ?_⟩
  rintro other ⟨named, misnamed⟩
  obtain ⟨listed, member, rfl⟩ := List.mem_map.mp named
  rw [split] at ascends member
  obtain ⟨_, ascendsHere, _⟩ := List.pairwise_append.mp ascends
  -- A coin in front of the one that is found is of a denomination.
  rcases List.mem_append.mp member with earlier | here
  · have denomination := valid listed earlier
    simp only [misnamed, Bool.not_false, Bool.not_true] at denomination
    contradiction
  · exact not_before_head ascendsHere (List.mem_map_of_mem here)

/-- In an ascending list a name that stands before all others does not come back behind another
one. -/
theorem not_mem_of_ascends {first second : Coin} {rest : List Coin}
    (ascends : Ascends (first :: second :: rest)) (differ : first.denom ≠ second.denom) :
    first.denom ∉ (second :: rest).map Coin.denom := by
  intro named
  obtain ⟨coin, member, same⟩ := List.mem_map.mp named
  obtain ⟨above, tail⟩ := List.pairwise_cons.mp ascends
  have before : first.orderKey < second.orderKey :=
    lt_of_ascends ⟨above second List.mem_cons_self, differ⟩
  have keys : coin.orderKey = first.orderKey := congrArg Bytes.utf8 same
  rcases List.mem_cons.mp member with here | later
  · exact differ (here ▸ same.symm)
  · have after := (List.pairwise_cons.mp tail).1 coin later
    rw [keys] at after
    exact after before

/-- A name that stands nowhere else does not change which names stand more than once. -/
theorem repeated_cons {first : Coin} {rest : List Coin}
    (apart : first.denom ∉ rest.map Coin.denom) : Repeated (first :: rest) = Repeated rest := by
  funext denom
  have absent : (rest.map Coin.denom).count first.denom = 0 := List.count_eq_zero.mpr apart
  rw [Repeated, Repeated, List.map_cons, List.count_cons]
  by_cases same : first.denom = denom
  · rw [← same, absent]
    simp
  · simp [same]

/-- In an ascending list the look at neighbours finds the first name that stands more than once. -/
theorem first_of_firstRepeated? {denom : String} (ascends : Ascends coins)
    (found : firstRepeated? coins = some denom) : First (Repeated coins) denom := by
  induction coins with
  | nil => simp [firstRepeated?] at found
  | cons first rest ih =>
    cases rest with
    | nil => simp [firstRepeated?] at found
    | cons second others =>
      unfold firstRepeated? at found
      split at found
      · next same =>
        injection found with found
        subst found
        constructor
        · rw [Repeated, List.map_cons, List.map_cons, ← same, List.count_cons_self,
            List.count_cons_self]
          omega
        · intro other repeated
          have named : 0 < ((first :: second :: others).map Coin.denom).count other :=
            Nat.lt_trans Nat.zero_lt_one repeated
          exact not_before_head ascends (List.count_pos_iff.mp named)
      · next differ =>
        rw [repeated_cons (not_mem_of_ascends ascends differ)]
        exact ih (List.pairwise_cons.mp ascends).2 found

/-- An ascending list that is not a set is refused for its cause. -/
theorem refused_of_ofSorted (ascends : Ascends coins) (refused : ofSorted coins = .error cause) :
    Refused coins cause := by
  unfold ofSorted at refused
  split at refused
  · next coin found =>
    injection refused with refused
    subst refused
    exact .invalidDenom (first_of_find? ascends found)
  · next absent =>
    have valid : ∀ coin ∈ coins, Coin.isValidDenom coin.denom = true := by
      simpa using absent
    split at refused
    · next denom repeated =>
      injection refused with refused
      subst refused
      exact .duplicateDenom ((not_misnamed_iff coins).mpr valid)
        (first_of_firstRepeated? ascends repeated)
    · contradiction

/-- The constructor builds a set exactly if the coins that count are of distinct denominations. -/
theorem exists_ofList_iff (coins : List Coin) :
    (∃ set, ofList coins = .ok set) ↔
      (∀ coin ∈ kept coins, Coin.isValidDenom coin.denom = true) ∧ DistinctDenoms (kept coins) := by
  constructor
  · rintro ⟨set, built⟩
    obtain ⟨formed, perm⟩ := (ofList_eq_ok_iff coins set).mp built
    refine ⟨fun coin member => formed.denoms coin (perm.mem_iff.mpr member), ?_⟩
    exact (perm.pairwise_iff Ne.symm).mp formed.distinct
  · rintro ⟨valid, distinct⟩
    obtain ⟨set, built, _⟩ := ofList_of_distinct distinct fun coin member _ => valid coin member
    refine ⟨set, ?_⟩
    -- Dropping the coins that do not count a second time changes nothing.
    simpa only [ofList, kept, List.filter_filter, Bool.and_self] using built

/-- The constructor refuses a list for the cause for which the coins that count do not form a set.
-/
theorem ofList_eq_error_iff (coins : List Coin) (cause : CoinsError) :
    ofList coins = .error cause ↔ Refused (kept coins) cause := by
  have named {given : CoinsError} (refused : ofList coins = .error given) :
      Refused (kept coins) given :=
    (refused_of_ofSorted (ascends_sort _) refused).of_perm (perm_sort _)
  refine ⟨named, fun reason => ?_⟩
  cases result : ofList coins with
  | error given => rw [(named result).unique reason]
  | ok set =>
    obtain ⟨valid, distinct⟩ := (exists_ofList_iff coins).mp ⟨set, result⟩
    cases reason with
    | invalidDenom first => exact absurd first.named ((not_misnamed_iff _).mpr valid _)
    | duplicateDenom _ first => exact absurd first.named ((not_repeated_iff _).mpr distinct _)

/-- The order of a list does not matter to the constructor. -/
theorem ofList_of_perm (perm : left.Perm right) : ofList left = ofList right := by
  have kept : (kept left).Perm (kept right) := perm.filter _
  cases result : ofList left with
  | ok set =>
    obtain ⟨formed, arranged⟩ := (ofList_eq_ok_iff left set).mp result
    symm
    exact (ofList_eq_ok_iff right set).mpr ⟨formed, arranged.trans kept⟩
  | error cause =>
    have refused := (ofList_eq_error_iff left cause).mp result
    symm
    exact (ofList_eq_error_iff right cause).mpr (refused.of_perm kept)

/-- A set that is built holds the coins that count, and nothing of other denominations. -/
theorem amountOf_of_ofList {set : Coins} (built : ofList coins = .ok set) :
    (∀ coin ∈ coins, coin.amount ≠ 0 → set.amountOf coin.denom = coin.amount) ∧
      ∀ denom, (∀ coin ∈ coins, coin.denom = denom → coin.amount = 0) →
        set.amountOf denom = 0 := by
  obtain ⟨formed, perm⟩ := (ofList_eq_ok_iff coins set).mp built
  have listed (coin : Coin) : coin ∈ set.toList ↔ coin ∈ coins ∧ coin.amount ≠ 0 :=
    perm.mem_iff.trans mem_kept
  constructor
  · intro coin member held
    exact amountIn_of_mem formed.distinct ((listed coin).mpr ⟨member, held⟩)
  · intro denom nothing
    by_contra held
    obtain ⟨member, _⟩ := (listed _).mp (mem_of_amountIn held)
    exact held (nothing _ member rfl)

/-- The constructor builds a set exactly if the coins of an amount other than zero are of distinct
denominations. The set is valid, holds what these coins hold and nothing else, and is built again
from its own coins. Otherwise the list is refused for the first name that is no denomination, and if
there is none for the first one that stands more than once. The order of the list does not matter
for any of this. -/
theorem ofList_canonical (coins : List Coin) :
    ((∃ set, ofList coins = .ok set) ↔
        (∀ coin ∈ coins, coin.amount ≠ 0 → Coin.isValidDenom coin.denom = true) ∧
          DistinctDenoms (coins.filter fun coin => coin.amount ≠ 0)) ∧
      (∀ set, ofList coins = .ok set →
        set.isValid = true ∧ (∀ coin ∈ set.toList, 0 < coin.amount.toNat) ∧
          (∀ coin ∈ coins, coin.amount ≠ 0 → set.amountOf coin.denom = coin.amount) ∧
            (∀ denom, (∀ coin ∈ coins, coin.denom = denom → coin.amount = 0) →
              set.amountOf denom = 0) ∧
              ofList set.toList = .ok set) ∧
      (∀ cause, ofList coins = .error cause ↔ Refused (kept coins) cause) ∧
      ∀ other, coins.Perm other → ofList other = ofList coins := by
  have filtered : coins.filter (fun coin => coin.amount ≠ 0) = kept coins :=
    List.filter_congr fun coin _ => by
      rw [Bool.eq_iff_iff, decide_eq_true_eq, isPositive_iff]
  refine ⟨?_, fun set built => ?_, ofList_eq_error_iff coins,
    fun other perm => (ofList_of_perm perm).symm⟩
  · rw [exists_ofList_iff, filtered]
    simp only [mem_kept, and_imp]
  · obtain ⟨formed, _⟩ := (ofList_eq_ok_iff coins set).mp built
    obtain ⟨held, nothing⟩ := amountOf_of_ofList built
    have positive : ∀ coin ∈ set.toList, 0 < coin.amount.toNat := fun coin member =>
      of_decide_eq_true (formed.positive coin member)
    exact ⟨formed.isValid, positive, held, nothing, formed.ofList_toList⟩

/-- Coins of no amount may stand anywhere, under any name. Of two faults in a list a name that is no
denomination is reported, in whichever order the coins are given. -/
theorem ofList_canonical_sample :
    let coins : List Coin := [⟨"eth", ⟨5, by decide⟩⟩, ⟨"X", 0⟩, ⟨"abc", ⟨7, by decide⟩⟩,
      ⟨"eth", 0⟩, ⟨"X", 0⟩]
    let set : Coins := ⟨[⟨"abc", ⟨7, by decide⟩⟩, ⟨"eth", ⟨5, by decide⟩⟩]⟩
    let refused : List Coin := [⟨"eth", ⟨1, by decide⟩⟩, ⟨"eth", ⟨2, by decide⟩⟩,
      ⟨"eths!", ⟨3, by decide⟩⟩, ⟨"X", ⟨4, by decide⟩⟩]
    ofList coins = .ok set ∧ ofList coins.reverse = .ok set ∧ set.isValid = true ∧
      ofList set.toList = .ok set ∧ Refused (kept refused) (.invalidDenom "X") ∧
        ofList refused.reverse = .error (.invalidDenom "X") := by
  intro coins set refused
  have built : ofList coins = .ok set := rfl
  have given : ofList refused = .error (.invalidDenom "X") := rfl
  obtain ⟨_, result, _, order⟩ := ofList_canonical coins
  obtain ⟨_, _, causes, refusedOrder⟩ := ofList_canonical refused
  obtain ⟨valid, _, _, _, again⟩ := result set built
  exact ⟨built, (order _ coins.reverse_perm.symm).trans built, valid, again,
    (causes _).mp given, (refusedOrder _ refused.reverse_perm.symm).trans given⟩

end TokenLedger.Coins
