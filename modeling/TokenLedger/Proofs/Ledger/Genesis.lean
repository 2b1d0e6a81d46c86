import TokenLedger.Proofs.Ledger.Listing

/-!
# Loading and saving a genesis document

A document that passes its checks can be loaded into an empty ledger unless some total does not fit,
and then leaves a ledger in use with the balances, tokens and parameters that it lists. The document
of a ledger in use passes the checks, and loading it gives the same ledger back: the total supply,
which is not written down, is the sum of the balances.
-/

namespace TokenLedger

open TokenLedger.Action

variable {ε : Type} {ledger : Ledger} {params : Params}

/-- A walk that remembers the keys it has seen goes on from a fresh one just if all the rest is
fresh, too, and no key stands twice. -/
theorem fresh_cons_iff {ι κ : Type} (key : ι → κ) (fine : ι → Prop) (seen : List κ) {head : ι}
    (rest : List ι) (fresh : key head ∉ seen) (headFine : fine head) :
    ((∀ other ∈ rest, key other ∉ key head :: seen ∧ fine other) ∧
        rest.Pairwise fun left right => key left ≠ key right) ↔
      (∀ other ∈ head :: rest, key other ∉ seen ∧ fine other) ∧
        (head :: rest).Pairwise fun left right => key left ≠ key right := by
  rw [List.pairwise_cons]
  constructor
  · intro ⟨each, distinct⟩
    refine ⟨fun other member => ?_, fun other member same => ?_, distinct⟩
    · rcases List.mem_cons.mp member with rfl | later
      · exact ⟨fresh, headFine⟩
      · obtain ⟨unseen, others⟩ := each other later
        exact ⟨fun here => unseen (List.mem_cons_of_mem _ here), others⟩
    · exact (each other member).1 (same ▸ List.mem_cons_self)
  · intro ⟨each, apart, distinct⟩
    refine ⟨fun other member => ?_, distinct⟩
    obtain ⟨unseen, others⟩ := each other (List.mem_cons_of_mem _ member)
    refine ⟨fun here => ?_, others⟩
    rcases List.mem_cons.mp here with same | before
    · exact apart other member same.symm
    · exact unseen before

namespace Genesis

/-! ## Balances -/

/-- What a list of balances puts into an account. -/
def listedUnits (balances : List AccountBalance) (address : Address) (denom : String) : Nat :=
  (balances.map fun balance => Ledger.only balance.address balance.coins.units address denom).sum

/-- What a list of balances adds to the total supply. -/
def listedTotal (balances : List AccountBalance) (denom : String) : Nat :=
  (balances.map fun balance => balance.coins.units denom).sum

/-- What goes into the accounts is what is added to the total supply. -/
theorem sum_listedUnits (balances : List AccountBalance) (denom : String) :
    ∑ address, listedUnits balances address denom = listedTotal balances denom := by
  induction balances with
  | nil => simp [listedUnits, listedTotal]
  | cons balance rest ih =>
    simp only [listedUnits, listedTotal, List.map_cons, List.sum_cons] at ih ⊢
    rw [Finset.sum_add_distrib, Ledger.sum_only, ih]

/-- An account that stands once in a list gets what is listed for it. -/
theorem listedUnits_of_mem {balances : List AccountBalance}
    (distinct : balances.Pairwise fun left right => left.address ≠ right.address)
    {balance : AccountBalance} (member : balance ∈ balances) (denom : String) :
    listedUnits balances balance.address denom = balance.coins.units denom := by
  induction balances with
  | nil => contradiction
  | cons head rest ih =>
    obtain ⟨apart, tail⟩ := List.pairwise_cons.mp distinct
    have absent : ∀ address, (∀ other ∈ rest, address ≠ other.address) →
        listedUnits rest address denom = 0 := fun address missing => by
      rw [listedUnits, List.sum_eq_zero]
      intro units listed
      obtain ⟨other, here, rfl⟩ := List.mem_map.mp listed
      exact if_neg (missing other here)
    simp only [listedUnits, List.map_cons, List.sum_cons, Ledger.only] at ih absent ⊢
    rcases List.mem_cons.mp member with rfl | later
    · rw [if_pos rfl, absent _ apart, Nat.add_zero]
    · rw [if_neg (Ne.symm (apart balance later)), ih tail later, Nat.zero_add]

/-- An account that is not listed gets nothing. -/
theorem listedUnits_of_not_mem {balances : List AccountBalance} {address : Address}
    (absent : ∀ balance ∈ balances, address ≠ balance.address) (denom : String) :
    listedUnits balances address denom = 0 := by
  rw [listedUnits, List.sum_eq_zero]
  intro units listed
  obtain ⟨balance, here, rfl⟩ := List.mem_map.mp listed
  exact if_neg (absent balance here)

/-- The check of balances passes if each can be charged and no account stands twice. -/
theorem validateBalances_eq_ok_iff (seen : List Address) (balances : List AccountBalance) :
    validateBalances seen balances = .ok () ↔
      (∀ balance ∈ balances, balance.address ∉ seen ∧ balance.coins.Chargeable) ∧
        balances.Pairwise fun left right => left.address ≠ right.address := by
  induction balances generalizing seen with
  | nil => exact iff_of_true rfl ⟨by simp, List.Pairwise.nil⟩
  | cons balance rest ih =>
    unfold validateBalances
    split
    · next again =>
      have here : balance.address ∈ seen := by simpa using again
      exact iff_of_false (by rintro ⟨⟩) fun passed =>
        (passed.1 balance List.mem_cons_self).1 here
    · next fresh =>
      have notSeen : balance.address ∉ seen := by simpa using fresh
      split
      · next unusable =>
        refine iff_of_false (by rintro ⟨⟩) fun passed => ?_
        have usable := (Coins.chargeable_iff _).mp (passed.1 balance List.mem_cons_self).2
        rw [usable.1, usable.2] at unusable
        contradiction
      · next usable =>
        have chargeable : balance.coins.Chargeable := by
          rw [Coins.chargeable_iff]
          simpa using usable
        rw [ih]
        exact fresh_cons_iff AccountBalance.address (fun balance => balance.coins.Chargeable) seen
          rest notSeen chargeable

/-- Funding accounts creates what is listed, and is refused exactly if some total does not fit. -/
theorem runs_fundAll (balanced : ledger.Balanced) (balances : List AccountBalance)
    (chargeable : ∀ balance ∈ balances, balance.coins.Chargeable) :
    (fundAll balances).Runs ledger
      (fun _ after emitted => emitted = [] ∧
        ledger.Moved after (fun _ _ => 0) (listedUnits balances) (listedTotal balances))
      (fun cause => ∃ denom, cause = .invalidCoins (.overflow denom) ∧
        2 ^ 128 ≤ ledger.supply denom + listedTotal balances denom) := by
  induction balances generalizing ledger with
  | nil =>
    exact (yields_pure ledger ()).runs ⟨rfl, rfl, balanced.formed, fun _ _ => rfl, fun _ => rfl⟩
  | cons balance rest ih =>
    obtain ⟨formed, filled⟩ := chargeable balance List.mem_cons_self
    obtain ⟨held, positive⟩ := formed.isEmpty_eq_false_iff.mp filled
    unfold fundAll
    have units : ∃ denom, 0 < ledger.supply denom + balance.coins.units denom :=
      ⟨held, by omega⟩
    apply (Supply.runs_fund balanced balance.address units).bind_refused
    · intro cause reason
      cases reason with
      | malformed invalid =>
        rw [formed.isValid] at invalid
        contradiction
      | overflow _ denom exceeds =>
        refine ⟨denom, rfl, ?_⟩
        rw [listedTotal, List.map_cons, List.sum_cons]
        omega
    rintro _ middle _ ⟨rfl, _, created⟩
    have middleBalanced := created.balanced balanced fun denom => by
      rw [Ledger.sum_only, Finset.sum_const_zero, Nat.zero_add]
    refine (ih middleBalanced fun other member =>
      chargeable other (List.mem_cons_of_mem _ member)).mono ?_ ?_
    · rintro _ after _ ⟨rfl, moved⟩
      exact ⟨rfl, created.trans moved⟩
    · rintro cause ⟨denom, rfl, exceeds⟩
      refine ⟨denom, rfl, ?_⟩
      rw [created.supply] at exceeds
      rw [listedTotal, List.map_cons, List.sum_cons, ← listedTotal]
      omega

end Genesis

/-- The accounts that a ledger lists are different. -/
theorem Ledger.Balances.accounts {listed : List AccountBalance}
    (balances : ledger.Balances listed) :
    listed.Pairwise fun left right => left.address ≠ right.address := by
  refine balances.ascend.imp fun {left right} before same => ?_
  rw [same] at before
  exact Bytes.lt_irrefl _ before

/-- What a ledger lists for an account is what it holds. -/
theorem Ledger.Balances.listedUnits_eq {listed : List AccountBalance}
    (balances : ledger.Balances listed) (address : Address) (denom : String) :
    Genesis.listedUnits listed address denom = ledger.units address denom := by
  cases held : (ledger.balance address).isEmpty with
  | false =>
    have member := (balances.mem_iff ⟨address, ledger.balance address⟩).mpr ⟨rfl, held⟩
    exact Genesis.listedUnits_of_mem balances.accounts member denom
  | true =>
    rw [Genesis.listedUnits_of_not_mem, Ledger.units]
    · have nothing : ledger.balance address = .empty := by
        cases coins : ledger.balance address
        rw [coins] at held
        simpa [Coins.isEmpty, Coins.empty] using held
      rw [nothing]
      rfl
    · intro balance member same
      obtain ⟨coins, filled⟩ := (balances.mem_iff balance).mp member
      rw [coins, ← same, held] at filled
      contradiction

/-- What a balanced ledger lists sums to its total supply. -/
theorem Ledger.Balances.listedTotal_eq {listed : List AccountBalance}
    (balances : ledger.Balances listed) (balanced : ledger.Balanced) (denom : String) :
    Genesis.listedTotal listed denom = ledger.supply denom := by
  rw [← Genesis.sum_listedUnits, ← balanced.conserves]
  exact Finset.sum_congr rfl fun address _ => balances.listedUnits_eq address denom

namespace AssetGenesis

/-! ## Tokens -/

/-- The check of tokens passes if each may be stored and no symbol stands twice. -/
theorem validateTokens_eq_ok_iff (seen : List String) (tokens : List Token) :
    validateTokens seen tokens = .ok () ↔
      (∀ token ∈ tokens, token.symbol ∉ seen ∧ token.Storable) ∧
        tokens.Pairwise fun left right => left.symbol ≠ right.symbol := by
  induction tokens generalizing seen with
  | nil => exact iff_of_true rfl ⟨by simp, List.Pairwise.nil⟩
  | cons token rest ih =>
    unfold validateTokens
    split
    · next cause broken =>
      refine iff_of_false (by rintro ⟨⟩) fun passed => ?_
      have storable := (passed.1 token List.mem_cons_self).2
      rw [(Token.checkStored_eq_ok_iff token).mpr storable] at broken
      contradiction
    · next stored =>
      have storable := (Token.checkStored_eq_ok_iff token).mp stored
      split
      · next again =>
        have here : token.symbol ∈ seen := by simpa using again
        exact iff_of_false (by rintro ⟨⟩) fun passed =>
          (passed.1 token List.mem_cons_self).1 here
      · next fresh =>
        have notSeen : token.symbol ∉ seen := by simpa using fresh
        rw [ih]
        exact fresh_cons_iff Token.symbol Token.Storable seen rest notSeen storable

/-- Among tokens that pass their check, one that may not be stored is what the check is refused for,
wherever it stands. -/
theorem validateTokens_insert_error (seen : List String) {before after : List Token}
    (passed : validateTokens seen (before ++ after) = .ok ()) {token : Token} {cause : AssetError}
    (broken : token.checkStored = .error cause) :
    validateTokens seen (before ++ token :: after) = .error (.invalidToken token.symbol cause) := by
  induction before generalizing seen with
  | nil =>
    rw [List.nil_append, validateTokens, broken]
  | cons first rest ih =>
    rw [List.cons_append, validateTokens] at passed ⊢
    split at passed
    · contradiction
    split at passed
    · contradiction
    next stored fresh =>
      rw [if_neg fresh]
      exact ih _ passed

/-- Among tokens that pass their check, one of another symbol that may be stored passes it, too,
wherever it stands. -/
theorem validateTokens_insert_ok {before after : List Token}
    (passed : validateTokens [] (before ++ after) = .ok ()) {token : Token}
    (stored : token.checkStored = .ok ())
    (free : ∀ other ∈ before ++ after, other.symbol ≠ token.symbol) :
    validateTokens [] (before ++ token :: after) = .ok () := by
  rw [validateTokens_eq_ok_iff] at passed ⊢
  obtain ⟨each, distinct⟩ := passed
  have storable := (Token.checkStored_eq_ok_iff token).mp stored
  constructor
  · intro other member
    rcases List.mem_append.mp member with early | late
    · exact each other (List.mem_append_left after early)
    rcases List.mem_cons.mp late with rfl | late
    · exact ⟨List.not_mem_nil, storable⟩
    · exact each other (List.mem_append_right before late)
  · rw [List.pairwise_append] at distinct ⊢
    obtain ⟨front, back, across⟩ := distinct
    refine ⟨front, List.pairwise_cons.mpr ⟨fun other late => ?_, back⟩,
      fun left early other late => ?_⟩
    · exact (free other (List.mem_append_right before late)).symm
    rcases List.mem_cons.mp late with rfl | late
    · exact free left (List.mem_append_left after early)
    · exact across left early other late

/-- The ledger with tokens under their symbols. -/
def withTokens (ledger : Ledger) (tokens : List Token) : Ledger :=
  tokens.foldl Ledger.setToken ledger

/-- Tokens of different symbols are created where their symbols are free. -/
theorem yields_createAll (tokens : List Token)
    (free : ∀ token ∈ tokens, ledger.token token.symbol = none)
    (distinct : tokens.Pairwise fun left right => left.symbol ≠ right.symbol) :
    (createAll tokens : Action ε Unit).Yields ledger () (withTokens ledger tokens) := by
  induction tokens generalizing ledger with
  | nil => exact yields_pure ledger ()
  | cons token rest ih =>
    obtain ⟨apart, tail⟩ := List.pairwise_cons.mp distinct
    refine (TokenBook.yields_create token (free token List.mem_cons_self)).then (ih ?_ tail)
    intro other member
    rw [Ledger.token_setToken, if_neg (Ne.symm (apart other member))]
    exact free other (List.mem_cons_of_mem _ member)

/-- Tokens do not touch the units of accounts. -/
theorem units_withTokens (ledger : Ledger) (tokens : List Token) :
    (withTokens ledger tokens).units = ledger.units := by
  induction tokens generalizing ledger with
  | nil => rfl
  | cons token rest ih => exact ih (ledger.setToken token)

/-- Tokens do not touch balances. -/
theorem balanced_withTokens (balanced : ledger.Balanced) (tokens : List Token) :
    (withTokens ledger tokens).Balanced := by
  induction tokens generalizing ledger with
  | nil => exact balanced
  | cons token rest ih => exact ih (balanced.setToken token)

/-- The token of a symbol is the one listed for it, or the one that was there. -/
theorem token_withTokens (ledger : Ledger) (tokens : List Token)
    (distinct : tokens.Pairwise fun left right => left.symbol ≠ right.symbol) (symbol : String) :
    (withTokens ledger tokens).token symbol =
      (tokens.find? fun token => token.symbol = symbol).or (ledger.token symbol) := by
  induction tokens generalizing ledger with
  | nil => rfl
  | cons token rest ih =>
    obtain ⟨apart, tail⟩ := List.pairwise_cons.mp distinct
    change (withTokens (ledger.setToken token) rest).token symbol = _
    rw [ih _ tail, Ledger.token_setToken, List.find?_cons]
    by_cases same : token.symbol = symbol
    · have absent : (rest.find? fun other => other.symbol = symbol) = none := by
        rw [List.find?_eq_none]
        intro other member
        simpa [same] using Ne.symm (same ▸ apart other member)
      simp [same, absent]
    · simp [same, Ne.symm same]

end AssetGenesis

namespace Genesis

/-! ## Whole documents -/

/-- A document each part of which passes its check. -/
structure Loadable (genesis : Genesis) : Prop where
  /-- Each balance can be charged. -/
  chargeable : ∀ balance ∈ genesis.balances, balance.coins.Chargeable
  /-- No account stands twice. -/
  accounts : genesis.balances.Pairwise fun left right => left.address ≠ right.address
  /-- Each token may be stored. -/
  storable : ∀ token ∈ genesis.asset.tokens, token.Storable
  /-- No symbol stands twice. -/
  symbols : genesis.asset.tokens.Pairwise fun left right => left.symbol ≠ right.symbol
  /-- The parameters can be used. -/
  usable : genesis.asset.params.validate = .ok ()

/-- A document passes its checks if it is for the chain or for any, and each part passes. -/
theorem validate_eq_ok_iff (chainId : String) (genesis : Genesis) :
    genesis.validate chainId = .ok () ↔
      (genesis.chainId = "" ∨ genesis.chainId = chainId) ∧ genesis.Loadable := by
  have balances := validateBalances_eq_ok_iff [] genesis.balances
  have tokens := AssetGenesis.validateTokens_eq_ok_iff [] genesis.asset.tokens
  simp only [List.not_mem_nil, not_false_eq_true, true_and] at balances tokens
  unfold validate AssetGenesis.validate
  split
  · next foreign =>
    refine iff_of_false (by rintro ⟨⟩) fun passed => ?_
    rcases passed.1 with same | same
    · exact foreign.1 same
    · exact foreign.2 same
  next own =>
  have named : genesis.chainId = "" ∨ genesis.chainId = chainId := by
    by_contra neither
    exact own (not_or.mp neither)
  split
  · next cause broken =>
    refine iff_of_false (by rintro ⟨⟩) fun passed => ?_
    rw [balances.mpr ⟨passed.2.chargeable, passed.2.accounts⟩] at broken
    contradiction
  next funded =>
  obtain ⟨chargeable, accounts⟩ := balances.mp funded
  split
  · next cause broken =>
    refine iff_of_false (by rintro ⟨⟩) fun passed => ?_
    rw [tokens.mpr ⟨passed.2.storable, passed.2.symbols⟩] at broken
    contradiction
  next stored =>
  obtain ⟨storable, symbols⟩ := tokens.mp stored
  cases result : genesis.asset.params.validate with
  | error cause =>
    refine iff_of_false (by rintro ⟨⟩) fun passed => ?_
    rw [passed.2.usable] at result
    contradiction
  | ok value => exact iff_of_true rfl ⟨named, chargeable, accounts, storable, symbols, result⟩

/-- What loading a document leaves. -/
structure Loaded (genesis : Genesis) (after : Ledger) : Prop where
  /-- The ledger is in use, with the parameters listed. -/
  sound : after.Sound genesis.asset.params
  /-- Each account has what is listed for it. -/
  units : ∀ address denom, after.units address denom = listedUnits genesis.balances address denom
  /-- The tokens are those listed. -/
  token : ∀ symbol, after.token symbol =
    genesis.asset.tokens.find? fun token => token.symbol = symbol

/-- The total supply is what the balances add up to. -/
theorem Loaded.supply {genesis : Genesis} {after : Ledger} (loaded : genesis.Loaded after)
    (denom : String) : after.supply denom = listedTotal genesis.balances denom := by
  rw [← loaded.sound.balanced.conserves, ← sum_listedUnits]
  exact Finset.sum_congr rfl fun address _ => loaded.units address denom

/-- With the accounts funded, the tokens under their symbols and the parameters set, a document is
loaded. -/
theorem loaded_of_moved {genesis : Genesis} (loadable : genesis.Loadable) {funded : Ledger}
    (moved : Ledger.empty.Moved funded (fun _ _ => 0) (listedUnits genesis.balances)
      (listedTotal genesis.balances)) :
    genesis.Loaded ((AssetGenesis.withTokens funded genesis.asset.tokens).setParams
      genesis.asset.params) := by
  have fundedBalanced := moved.balanced Ledger.balanced_empty fun denom => by
    rw [sum_listedUnits, Finset.sum_const_zero, Nat.zero_add]
  have balanced := AssetGenesis.balanced_withTokens fundedBalanced genesis.asset.tokens
  have tokens : ∀ symbol, (AssetGenesis.withTokens funded genesis.asset.tokens).token symbol =
      genesis.asset.tokens.find? fun token => token.symbol = symbol := fun symbol => by
    have nothing : funded.token symbol = none := by
      rw [moved.token_eq]
      rfl
    rw [AssetGenesis.token_withTokens _ _ loadable.symbols, nothing, Option.or_none]
  have registered : (AssetGenesis.withTokens funded genesis.asset.tokens).Registered := by
    intro symbol token found
    have listed := (tokens symbol).symm.trans found
    have named : decide (token.symbol = symbol) = true := by
      simpa using List.find?_some listed
    exact ⟨by simpa using named, loadable.storable token (List.mem_of_find?_eq_some listed)⟩
  refine ⟨⟨balanced.setParams _, registered, Ledger.configured_setParams _ _, loadable.usable⟩,
    fun address denom => ?_, tokens⟩
  have units := moved.units address denom
  have nothing : Ledger.empty.units address denom = 0 := rfl
  change (AssetGenesis.withTokens funded genesis.asset.tokens).units address denom = _
  rw [AssetGenesis.units_withTokens]
  omega

/-- Loading a document that passes its checks leaves what it lists, and is refused exactly if some
total does not fit. -/
theorem runs_load {genesis : Genesis} (loadable : genesis.Loadable) :
    genesis.load.Runs Ledger.empty
      (fun _ after emitted => emitted = [] ∧ genesis.Loaded after)
      (fun cause => ∃ denom, cause = .invalidCoins (.overflow denom) ∧
        2 ^ 128 ≤ listedTotal genesis.balances denom) := by
  unfold load
  apply (runs_fundAll Ledger.balanced_empty genesis.balances loadable.chargeable).bind_refused
  · rintro cause ⟨denom, rfl, exceeds⟩
    have nothing : Ledger.empty.supply denom = 0 := rfl
    exact ⟨denom, rfl, by omega⟩
  rintro _ funded _ ⟨rfl, moved⟩
  have free : ∀ token ∈ genesis.asset.tokens, funded.token token.symbol = none := by
    intro token _
    rw [moved.token_eq]
    rfl
  have loading : (genesis.asset.load : Action BaseError Unit).Yields funded ()
      ((AssetGenesis.withTokens funded genesis.asset.tokens).setParams genesis.asset.params) :=
    (AssetGenesis.yields_createAll _ free loadable.symbols).then (Params.yields_save _ _)
  exact loading.runs ⟨rfl, loaded_of_moved loadable moved⟩

/-! ## Documents of a ledger -/

/-- A document that says what a ledger says, but for the total supply. -/
structure Describes (genesis : Genesis) (chainId : String) (ledger : Ledger) : Prop where
  /-- It is for the chain. -/
  chainId : genesis.chainId = chainId
  /-- It lists the balances. -/
  balances : ledger.Balances genesis.balances
  /-- It lists the parameters. -/
  configured : ledger.Configured genesis.asset.params
  /-- It lists the tokens. -/
  tokens : ledger.Tokens genesis.asset.tokens

/-- Saving a ledger in use gives the document that describes it. -/
theorem runs_save (sound : ledger.Sound params) (chainId : String) :
    (save chainId : Action ε Genesis).Runs ledger
      (fun genesis after emitted => genesis.Describes chainId ledger ∧
        genesis.asset.params = params ∧ ledger = after ∧ emitted = [])
      fun _ => False := by
  have configured := sound.configured
  have loading := Params.yields_load (ε := ε) configured.maxDecimal configured.issueFee
    configured.mintFee
  unfold save
  apply Runs.bind (Supply.runs_balances ledger)
  rintro balances _ _ ⟨listed, rfl, rfl⟩
  have saving : (AssetGenesis.save : Action ε AssetGenesis).Runs ledger
      (fun asset after emitted => ledger.Tokens asset.tokens ∧ asset.params = params ∧
        ledger = after ∧ emitted = []) fun _ => False := by
    refine loading.bind (Runs.bind (TokenBook.runs_list sound.registered) ?_)
    rintro tokens _ _ ⟨tokensListed, rfl, rfl⟩
    exact (yields_pure _ _).runs ⟨tokensListed, rfl, rfl, rfl⟩
  apply Runs.bind saving
  rintro asset _ _ ⟨tokensListed, same, rfl, rfl⟩
  rw [← same] at configured
  exact (yields_pure _ _).runs ⟨⟨rfl, listed, configured, tokensListed⟩, same, rfl, rfl⟩

/-- Saving a ledger without parameters runs into a fault. -/
theorem faults_save (unset : ledger.maxDecimal = none) (chainId : String) :
    (save chainId : Action ε Genesis).Faults ledger
      (.unsetParameter Params.maxDecimalKey Params.subspace.name) := by
  refine Runs.faults (Supply.runs_balances ledger) ?_
  rintro _ _ _ ⟨_, rfl, rfl⟩
  exact ((Params.faults_load unset).bind _).bind _

/-- The symbols of a document of a ledger are different. -/
theorem Describes.symbols {genesis : Genesis} {chainId : String}
    (describes : genesis.Describes chainId ledger) :
    genesis.asset.tokens.Pairwise fun left right => left.symbol ≠ right.symbol := by
  refine describes.tokens.ascend.imp fun {left right} before same => ?_
  rw [same] at before
  exact Bytes.lt_irrefl _ before

/-- The document of a ledger in use passes its checks. -/
theorem Describes.loadable {genesis : Genesis} {chainId : String}
    (describes : genesis.Describes chainId ledger) (sound : ledger.Sound params)
    (same : genesis.asset.params = params) : genesis.Loadable where
  chargeable balance member := by
    obtain ⟨held, filled⟩ := (describes.balances.mem_iff balance).mp member
    refine ⟨?_, filled⟩
    rw [held]
    exact sound.balanced.formed.balance balance.address
  accounts := describes.balances.accounts
  storable token member :=
    (sound.registered _ _ ((describes.tokens.mem_iff token).mp member)).2
  symbols := describes.symbols
  usable := by
    rw [same]
    exact sound.usable

/-- What loading the document of a ledger leaves is that ledger. -/
theorem Describes.loaded_eq {genesis : Genesis} {chainId : String} {after : Ledger}
    (describes : genesis.Describes chainId ledger) (sound : ledger.Sound params)
    (loaded : genesis.Loaded after) : after = ledger := by
  have configured := loaded.sound.configured
  have units : ∀ address denom, after.units address denom = ledger.units address denom :=
    fun address denom => (loaded.units address denom).trans
      (describes.balances.listedUnits_eq address denom)
  have supply : ∀ denom, after.supply denom = ledger.supply denom := fun denom => by
    rw [← loaded.sound.balanced.conserves, ← sound.balanced.conserves]
    exact Finset.sum_congr rfl fun address _ => units address denom
  refine Ledger.ext ?_ ?_ ?_ ?_ ?_ ?_
  · rw [configured.maxDecimal, describes.configured.maxDecimal]
  · rw [configured.issueFee, describes.configured.issueFee]
  · rw [configured.mintFee, describes.configured.mintFee]
  · exact loaded.sound.balanced.formed.total.eq_of_units sound.balanced.formed.total supply
  · funext address
    exact (loaded.sound.balanced.formed.balance address).eq_of_units
      (sound.balanced.formed.balance address) (units address)
  · funext symbol
    rw [loaded.token]
    cases listed : genesis.asset.tokens.find? fun token => token.symbol = symbol with
    | some token =>
      have named : token.symbol = symbol := by simpa using List.find?_some listed
      rw [← named]
      exact ((describes.tokens.mem_iff token).mp (List.mem_of_find?_eq_some listed)).symm
    | none =>
      cases found : ledger.token symbol with
      | none => rfl
      | some token =>
        obtain ⟨rfl, _⟩ := sound.registered symbol token found
        have member := (describes.tokens.mem_iff token).mpr found
        have missed := List.find?_eq_none.mp listed token member
        exact absurd (decide_eq_true rfl) missed

end Genesis

end TokenLedger
