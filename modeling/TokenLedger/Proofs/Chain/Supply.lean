import TokenLedger.Proofs.Chain.Tokens

/-!
# The total supply follows the tokens

The number of units of a token is recorded twice: in the token and in the total supply. Issuing and
minting add to both, and nothing else changes either, so their difference stays what the genesis
document made it. Units whose denomination is no token are neither created nor destroyed.
-/

namespace TokenLedger

open TokenLedger.Issuance

variable {ledger after : Ledger} {params : Params}

/-- The units that a token says there are; without a token there are none. -/
def Token.recorded : Option Token → Int
  | some token => token.totalSupply.toInt
  | none => 0

/-- By how much the total supply of a denomination exceeds what its token says. -/
def Ledger.excess (ledger : Ledger) (denom : String) : Int :=
  ledger.supply denom - Token.recorded (ledger.token denom)

/-! ## One message -/

/-- The units of a supply that is not negative. -/
theorem Issuance.unitsOf_eq {units : Int64} (low : 0 ≤ units.toInt) (symbol denom : String) :
    (unitsOf symbol units denom : Int) = if denom = symbol then units.toInt else 0 := by
  rw [unitsOf]
  split
  · exact Int.natAbs_of_nonneg low
  · rfl

/-- The total supply of a message that passes the rules is not negative. -/
theorem Issuance.Issuable.totalSupply_nonneg {regime : Regime} {msg : IssueMsg}
    (issuable : Issuable ledger params regime msg) : 0 ≤ msg.totalSupply.toInt := by
  have passed := issuable.rules
  rw [Issuance.rules, Token.bind_eq_ok_iff, Token.bind_eq_ok_iff, Token.bind_eq_ok_iff,
    Token.checkTotalSupply, Token.ensure_eq_ok_iff, Bool.and_eq_true, decide_eq_true_eq,
    Int64.le_iff_toInt_le] at passed
  exact passed.2.2.2.1

/-- Issuing adds to the total supply what the token says. -/
theorem Issuance.Issued.excess_eq {regime : Regime} {msg : IssueMsg}
    (issued : Issued ledger params regime msg after) (denom : String) :
    after.excess denom = ledger.excess denom := by
  have created : after.supply denom =
      ledger.supply denom + unitsOf msg.storedSymbol msg.totalSupply denom :=
    issued.moved.supply denom
  have units := unitsOf_eq issued.issuable.totalSupply_nonneg msg.storedSymbol denom
  have token : after.token denom =
      if denom = msg.storedSymbol then some msg.token else ledger.token denom := by
    rw [issued.moved.token_eq, Ledger.token_setToken]
    rfl
  have free := issued.issuable.free
  rw [Ledger.excess, Ledger.excess, created, token, Int.natCast_add, units]
  by_cases named : denom = msg.storedSymbol
  · rw [← named] at free
    rw [if_pos named, if_pos named, free]
    change _ - msg.totalSupply.toInt = _ - 0
    omega
  · rw [if_neg named, if_neg named, Int.add_zero]

/-- Minting adds to the total supply what it adds to the token. -/
theorem Issuance.Minted.excess_eq {msg : MintMsg} {token : Token}
    (minted : Minted ledger params msg token after) (registered : ledger.Registered)
    (denom : String) : after.excess denom = ledger.excess denom := by
  obtain ⟨named, storable⟩ := registered _ _ minted.mintable.found
  obtain ⟨_, sum⟩ := add_within (toInt_totalSupply storable).1 minted.mintable.positive
    minted.mintable.within
  have created : after.supply denom =
      ledger.supply denom + unitsOf msg.symbol msg.amount denom := minted.moved.supply denom
  have units := unitsOf_eq (Int.le_of_lt minted.mintable.positive) msg.symbol denom
  have stored : after.token denom =
      if denom = msg.symbol then some (grown token msg.amount) else ledger.token denom := by
    rw [minted.moved.token_eq, Ledger.token_setToken, ← named]
    rfl
  rw [Ledger.excess, Ledger.excess, created, stored, Int.natCast_add, units]
  by_cases same : denom = msg.symbol
  · have found : ledger.token denom = some token := by
      rw [same]
      exact minted.mintable.found
    rw [if_pos same, if_pos same, found]
    change _ - (token.totalSupply + msg.amount).toInt = _ - token.totalSupply.toInt
    omega
  · rw [if_neg same, if_neg same, Int.add_zero]

/-- A message that is applied changes the total supply as it changes the tokens. -/
theorem Issuance.Applied.excess_eq {regime : Regime} {message : Message}
    (applied : Applied ledger params regime message after) (registered : ledger.Registered)
    (denom : String) : after.excess denom = ledger.excess denom := by
  cases applied with
  | issue issued => exact issued.excess_eq denom
  | mint minted => exact minted.excess_eq registered denom

namespace Chain

variable {chain : Chain}

/-! ## Calls -/

/-- A chain that goes on from the genesis of a ledger: the total supply has changed as the tokens
have, and no token is gone. -/
structure Follows (base : Ledger) (chain : Chain) (ledger : Ledger) : Prop where
  /-- The genesis document was loaded. -/
  initialized : chain.initialized = true
  /-- The total supply exceeds the tokens by what it did. -/
  excess : ∀ denom, ledger.excess denom = base.excess denom
  /-- The tokens have stayed. -/
  develops : base.Develops ledger fun _ => True

/-- From the genesis on, a step changes the total supply as it changes the tokens. -/
theorem Step.follows {base : Ledger} {call : Call} {reply : Reply} {next : Chain}
    (step : chain.Step ledger call reply next after) (carries : chain.Carries ledger)
    (follows : Follows base chain ledger) : Follows base next after := by
  have stayed : base.Develops after fun _ => True :=
    (follows.develops.trans ((step.develops carries).mono fun _ _ => trivial)
      fun _ _ _ _ minted => minted).mono fun _ _ => trivial
  have kept : ∀ denom, after.excess denom = ledger.excess denom := by
    cases step with
    | notLoaded fresh | loaded fresh =>
      rw [follows.initialized] at fresh
      contradiction
    | applied sound _ _ transition => exact transition.excess_eq sound.registered
    | _ => exact fun _ => rfl
  exact ⟨step.initialized follows.initialized,
    fun denom => (kept denom).trans (follows.excess denom), stayed⟩

/-- From the genesis on, the total supply follows the tokens. -/
theorem Carries.exists_follows (carries : chain.Carries ledger)
    (initialized : chain.initialized = true) (calls : List Call) :
    ∃ after, (chain.run calls).Carries after ∧ Follows ledger (chain.run calls) after :=
  carries.run (Follows ledger) (fun carries step follows => step.follows carries follows)
    ⟨initialized, fun _ => rfl, .of_token_eq rfl _⟩ calls

/-! ## What is read of the total supply -/

/-- The total supply of the latest store is that of the ledger that the chain carries. -/
theorem Carries.totalSupply_latest (carries : chain.Carries ledger) :
    chain.latest.totalSupply = .ok ledger.total :=
  View.totalSupply_eq carries.holds

/-- No token has the denomination of the chain's own coin. -/
theorem Carries.token_native (carries : chain.Carries ledger) :
    ledger.token nativeDenom = none := by
  cases found : ledger.token nativeDenom with
  | none => rfl
  | some token =>
    obtain ⟨named, storable⟩ := carries.registered nativeDenom token found
    have content := storable.symbol
    rw [named] at content
    exact absurd content (by decide)

/-- The token of a symbol that a genesis document lists. -/
def genesisToken? (genesis : Genesis) (symbol : String) : Option Token :=
  genesis.asset.tokens.find? fun token => token.symbol = symbol

/-- A chain that was created has loaded a genesis document, and goes on from there. In the committed
store and in the store through the open block, the total supply of a denomination that is no token
is the one right after the genesis; that of a token exceeds what the token says by as much as it did
right after the genesis, where a token that the document does not list counts as none; and the
chain's own coin is no token. -/
theorem totalSupply_follows {config : NodeConfig} {fresh : Chain}
    (created : create config = .ok fresh) (early : List Call) {genesis : Genesis}
    {result : CommitResult} {start : Chain}
    (loaded : (fresh.run early).initChain genesis = (.ok result, start)) (calls : List Call)
    {view : View} (shown : (start.run calls).Shows view) (denom : String) :
    ∃ initial total token, (View.base start.committed).totalSupply = .ok initial ∧
      (View.base start.committed).token denom = .ok (genesisToken? genesis denom) ∧
      view.totalSupply = .ok total ∧ view.token denom = .ok token ∧
      (token = none → total.units denom = initial.units denom) ∧
      (∀ stored, token = some stored →
        (total.units denom : Int) - stored.totalSupply.toInt =
          initial.units denom - Token.recorded (genesisToken? genesis denom)) ∧
      (denom = nativeDenom → token = none) := by
  obtain ⟨sound, initialized, closed, base, carries, given⟩ :=
    ((sound_create created).run early).exists_started loaded
  obtain ⟨past, _, _, rfl⟩ := sound.exists_point closed shown
  obtain ⟨ledger, here, follows⟩ := carries.exists_follows initialized past
  have listed : base.token denom = genesisToken? genesis denom := given.token denom
  have excess := follows.excess denom
  rw [Ledger.excess, Ledger.excess, listed] at excess
  rw [← latest_of_closed closed]
  refine ⟨base.total, ledger.total, ledger.token denom, carries.totalSupply_latest, ?_,
    here.totalSupply_latest, here.token_latest denom, fun absent => ?_, fun stored found => ?_, ?_⟩
  · rw [carries.token_latest, listed]
  · -- A token of the genesis would still be there.
    have never : genesisToken? genesis denom = none := by
      cases present : genesisToken? genesis denom with
      | none => rfl
      | some token =>
        obtain ⟨later, found, _⟩ := follows.develops denom token (listed.trans present)
        rw [absent] at found
        contradiction
    rw [absent, never, Token.recorded, Int.sub_zero, Int.sub_zero] at excess
    exact Int.ofNat_inj.mp excess
  · rw [found] at excess
    exact excess
  · rintro rfl
    exact here.token_native

/-- In the first block of a small chain a fee is paid, and the supply of the chain's own coin is the
one right after the genesis. -/
theorem totalSupply_follows_sample : ∃ result start initial total,
    Sample.fresh.initChain Sample.genesis = (.ok result, start) ∧
    (View.base start.committed).totalSupply = .ok initial ∧
    (start.run [.beginBlock 1, .deliver (.issue Sample.shortIssue)]).latest.totalSupply =
      .ok total ∧
    Coins.units total nativeDenom = initial.units nativeDenom := by
  obtain ⟨_, _, result, _, _, loaded⟩ :=
    Sample.exists_initChain_genesis Sample.fresh rfl rfl rfl
  obtain ⟨initial, total, _, before, _, after, _, unchanged, _, native⟩ :=
    totalSupply_follows Sample.created [] loaded
      [.beginBlock 1, .deliver (.issue Sample.shortIssue)] (shows_latest _) nativeDenom
  exact ⟨result, _, initial, total, loaded, before, after, unchanged (native rfl)⟩

end Chain

end TokenLedger
