import TokenLedger.Proofs.Chain.Restart

/-!
# Loading a document and exporting it again

A document is loaded exactly if it passes its checks and each of its totals fits into an amount. The
export that follows gives the same document in the one form a chain writes: for the chain itself,
with balances by ascending address and tokens by ascending symbol.
-/

namespace TokenLedger

/-- A list whose keys ascend is the sorted form of any list of the same items whose keys differ. -/
theorem eq_mergeSort_of_ascends {ι : Type} (key : ι → Bytes) {ascending items : List ι}
    (ascend : ascending.Pairwise fun left right => key left < key right)
    (distinct : items.Pairwise fun left right => key left ≠ key right)
    (same : ∀ item, item ∈ ascending ↔ item ∈ items) :
    ascending = items.mergeSort fun left right => key left ≤ key right := by
  have perm := List.mergeSort_perm items fun left right => decide (key left ≤ key right)
  have ordered : (items.mergeSort fun left right => key left ≤ key right).Pairwise
      fun left right => decide (key left ≤ key right) = true :=
    List.pairwise_mergeSort
      (fun a b c first second => by
        simp only [decide_eq_true_eq] at first second ⊢
        exact List.le_trans first second)
      (fun a b => by simpa using List.le_total (key a) (key b)) items
  have apart := distinct.perm perm.symm fun differ => Ne.symm differ
  have strict : (items.mergeSort fun left right => key left ≤ key right).Pairwise
      fun left right => key left < key right := by
    refine (ordered.and apart).imp fun {left right} ⟨before, differ⟩ => ?_
    by_contra notBefore
    exact differ (Bytes.eq_of_not_lt notBefore (List.not_lt.mpr (by simpa using before)))
  have asymm : Std.Asymm fun left right : ι => key left < key right :=
    ⟨fun _ _ before after => Bytes.lt_irrefl _ (Bytes.lt_trans before after)⟩
  have irrefl : Std.Irrefl fun left right : ι => key left < key right :=
    ⟨fun _ before => Bytes.lt_irrefl _ before⟩
  exact ascend.eq_of_mem_iff strict fun item => (same item).trans perm.mem_iff.symm

namespace Genesis

variable {genesis written : Genesis} {ledger : Ledger} {params : Params} {chainId : String}

/-- A document in the form in which a chain writes it: for the chain of a name, with balances by
ascending address and tokens by ascending symbol. -/
def normalised (genesis : Genesis) (chainId : String) : Genesis where
  chainId
  balances := genesis.balances.mergeSort fun left right =>
    left.address.bytes ≤ right.address.bytes
  asset := { genesis.asset with
    tokens := genesis.asset.tokens.mergeSort fun left right =>
      Bytes.utf8 left.symbol ≤ Bytes.utf8 right.symbol }

/-- The balances listed in a document are what the accounts hold once it is loaded. -/
theorem Loaded.balance_mem_iff (loaded : genesis.Loaded ledger) (loadable : genesis.Loadable)
    (balance : AccountBalance) :
    balance ∈ genesis.balances ↔
      balance.coins = ledger.balance balance.address ∧ balance.coins.isEmpty = false := by
  have formed := loaded.sound.balanced.formed.balance balance.address
  have held (listed : AccountBalance) (member : listed ∈ genesis.balances) :
      listed.coins = ledger.balance listed.address := by
    refine (loadable.chargeable listed member).formed.eq_of_units
      (loaded.sound.balanced.formed.balance listed.address) fun denom => ?_
    calc
      listed.coins.units denom = listedUnits genesis.balances listed.address denom :=
        (listedUnits_of_mem loadable.accounts member denom).symm
      _ = ledger.units listed.address denom := (loaded.units listed.address denom).symm
  constructor
  · intro member
    exact ⟨held balance member, (loadable.chargeable balance member).filled⟩
  · intro ⟨coins, filled⟩
    -- An account that is not listed would hold nothing.
    by_contra absent
    rw [coins] at filled
    obtain ⟨denom, positive⟩ := formed.isEmpty_eq_false_iff.mp filled
    have unlisted : ∀ listed ∈ genesis.balances, balance.address ≠ listed.address := by
      intro listed member same
      have equal : balance = listed := by
        cases balance
        cases listed
        have coinsHeld := held _ member
        simp only at same coins coinsHeld
        rw [coins, coinsHeld, same]
      exact absent (equal ▸ member)
    have units := loaded.units balance.address denom
    rw [listedUnits_of_not_mem unlisted] at units
    exact absurd units (Nat.ne_of_gt positive)

/-- The tokens listed in a document are those that stand under their symbols once it is loaded. -/
theorem Loaded.token_mem_iff (loaded : genesis.Loaded ledger) (loadable : genesis.Loadable)
    (token : Token) :
    token ∈ genesis.asset.tokens ↔ ledger.token token.symbol = some token := by
  rw [loaded.token]
  constructor
  · intro member
    cases found : genesis.asset.tokens.find? fun other => other.symbol = token.symbol with
    | none =>
      have missed := List.find?_eq_none.mp found token member
      exact absurd (decide_eq_true rfl) missed
    | some other =>
      have named : other.symbol = token.symbol := by simpa using List.find?_some found
      have listed := List.mem_of_find?_eq_some found
      by_contra differ
      have apart : token ≠ other := fun same => differ (congrArg some same.symm)
      have symmetric : Std.Symm fun left right : Token => left.symbol ≠ right.symbol :=
        ⟨fun _ _ => Ne.symm⟩
      exact loadable.symbols.forall member listed apart named.symm
  · exact List.mem_of_find?_eq_some

/-- What describes a ledger that a document was loaded into is that document in the form of the
chain. -/
theorem Describes.eq_normalised (describes : written.Describes chainId ledger)
    (loaded : genesis.Loaded ledger) (loadable : genesis.Loadable)
    (same : written.asset.params = genesis.asset.params) :
    written = genesis.normalised chainId := by
  have balances : written.balances = (genesis.normalised chainId).balances :=
    eq_mergeSort_of_ascends (fun balance : AccountBalance => balance.address.bytes)
      describes.balances.ascend
      (loadable.accounts.imp fun differ bytes => differ (Address.ext_bytes bytes)) fun balance =>
        (describes.balances.mem_iff balance).trans (loaded.balance_mem_iff loadable balance).symm
  have tokens : written.asset.tokens = (genesis.normalised chainId).asset.tokens :=
    eq_mergeSort_of_ascends (fun token : Token => Bytes.utf8 token.symbol) describes.tokens.ascend
      (loadable.symbols.imp fun differ bytes => differ (Bytes.utf8_injective bytes)) fun token =>
        (describes.tokens.mem_iff token).trans (loaded.token_mem_iff loadable token).symm
  have named := describes.chainId
  obtain ⟨writtenId, writtenBalances, writtenParams, writtenTokens⟩ := written
  simp only at named balances tokens same
  rw [named, balances, tokens, same]
  rfl

end Genesis

namespace Chain

variable {config : NodeConfig} {registry : Registry Migration} {genesis : Genesis}

/-- What a chain at its beginning has loaded is a document that passes its checks. -/
theorem loaded_of_initChain {result : CommitResult} {start : Chain}
    (done : (beginning config registry).initChain genesis = (.ok result, start)) :
    ∃ committed ledger, genesis.validate config.chainId = .ok () ∧ committed.Holds ledger ∧
      genesis.Loaded ledger ∧ start = (beginning config registry).loaded committed := by
  have fresh : (beginning config registry).initialized = false := rfl
  rcases initChain_cases fresh rfl genesis with
    ⟨cause, _, refused⟩ | ⟨committed, ledger, _, passed, holds, loaded, same⟩
  · rw [refused] at done
    exact absurd (congrArg Prod.fst done) (by rintro ⟨⟩)
  · rw [same] at done
    exact ⟨committed, ledger, passed, holds, loaded, (congrArg Prod.snd done).symm⟩

/-- A document is loaded into a chain at its beginning exactly if it passes its checks and every
total of its balances fits into an amount. -/
theorem exists_initChain_iff :
    (∃ result start, (beginning config registry).initChain genesis = (.ok result, start)) ↔
      genesis.validate config.chainId = .ok () ∧
        ∀ denom, Genesis.listedTotal genesis.balances denom < 2 ^ 128 := by
  constructor
  · rintro ⟨result, start, done⟩
    obtain ⟨_, ledger, passed, _, loaded, _⟩ := loaded_of_initChain done
    refine ⟨passed, fun denom => ?_⟩
    rw [← loaded.supply]
    exact ledger.total.units_lt denom
  · rintro ⟨passed, fits⟩
    obtain ⟨_, _, result, _, _, done⟩ :=
      exists_initChain (beginning config registry) rfl rfl passed fits
    exact ⟨result, _, done⟩

/-- A document is loaded into a chain that was created exactly if it passes its checks for that
chain and every total of its balances fits into an amount. If it is loaded, the export that follows
gives the same document for the chain, with balances by ascending address and tokens by ascending
symbol. -/
theorem exportGenesis_initChain {fresh : Chain} (created : create config = .ok fresh)
    (genesis : Genesis) :
    ((∃ result start, fresh.initChain genesis = (.ok result, start)) ↔
      genesis.validate config.chainId = .ok () ∧
        ∀ denom, Genesis.listedTotal genesis.balances denom < 2 ^ 128) ∧
    ∀ result start, fresh.initChain genesis = (.ok result, start) →
      start.exportGenesis = .ok (genesis.normalised config.chainId) := by
  obtain ⟨_, registry, _, rfl⟩ := eq_beginning_of_create created
  refine ⟨exists_initChain_iff, fun result start done => ?_⟩
  obtain ⟨committed, ledger, passed, holds, loaded, rfl⟩ := loaded_of_initChain done
  have closed : ((beginning config registry).loaded committed).block = none := rfl
  obtain ⟨written, exported, describes, same⟩ := exists_exportGenesis holds loaded.sound closed
  have loadable := ((Genesis.validate_eq_ok_iff _ _).mp passed).2
  rw [exported, describes.eq_normalised loaded loadable same]
  rfl

namespace Sample

/-- An account whose address comes before that of the holder. -/
def neighbour : Address := ⟨List.replicate 20 3, rfl⟩

/-- A document that lists two accounts out of order. -/
def unordered : Genesis := ⟨"", [⟨holder, funds⟩, ⟨neighbour, funds⟩], AssetGenesis.default⟩

end Sample

/-- Two accounts that are listed out of order are loaded, and exported in order. -/
theorem exportGenesis_initChain_sample : create Sample.config = .ok Sample.fresh ∧
    ∃ result start, Sample.fresh.initChain Sample.unordered = (.ok result, start) ∧
      start.exportGenesis = .ok ⟨"barkis-chain",
        [⟨Sample.neighbour, Sample.funds⟩, ⟨Sample.holder, Sample.funds⟩],
        AssetGenesis.default⟩ := by
  obtain ⟨loads, exports⟩ := exportGenesis_initChain Sample.created Sample.unordered
  have passed : Sample.unordered.validate Sample.config.chainId = .ok () := by decide
  have fits : ∀ denom, Genesis.listedTotal Sample.unordered.balances denom < 2 ^ 128 := by
    intro denom
    have held : Sample.funds.units denom ≤ 100000000000 := by
      change (if nativeDenom = denom then ⟨100000000000, by decide⟩ else 0 : Amount).toNat ≤ _
      split <;> decide
    simp only [Genesis.listedTotal, Sample.unordered, List.map_cons, List.map_nil, List.sum_cons,
      List.sum_nil]
    omega
  have sorted : [⟨Sample.neighbour, Sample.funds⟩, ⟨Sample.holder, Sample.funds⟩] =
      Sample.unordered.balances.mergeSort fun left right =>
        left.address.bytes ≤ right.address.bytes := by
    refine eq_mergeSort_of_ascends (fun balance : AccountBalance => balance.address.bytes)
      (by decide) (by decide) fun balance => ?_
    exact (List.Perm.swap _ _ []).mem_iff
  have unissued : Sample.unordered.asset.tokens.mergeSort (fun left right =>
      Bytes.utf8 left.symbol ≤ Bytes.utf8 right.symbol) = [] := List.mergeSort_nil
  obtain ⟨result, start, done⟩ := loads.mpr ⟨passed, fits⟩
  refine ⟨Sample.created, result, start, done, ?_⟩
  rw [exports result start done, Genesis.normalised, ← sorted, unissued]
  rfl

end Chain

end TokenLedger
