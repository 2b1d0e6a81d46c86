import TokenLedger.Proofs.Chain.Invariant
import TokenLedger.Proofs.Chain.Verdicts

/-!
# When the symbol of an issued token is a denomination

The coins of a token are named by its symbol, and a denomination takes three letters. Before the
description upgrade a symbol may be shorter. Issuing then fails if there are units to create, but
without units no coin is made and nothing looks at the name, so the token is issued, and every later
message to mint it is rejected for its denomination. This happens in no other case.
-/

namespace TokenLedger.Chain

open TokenLedger.Issuance

variable {chain : Chain} {block : OpenBlock} {ledger : Ledger} {params : Params}

/-- A message to mint that passes every check but that of its denomination. -/
structure Mints (registry : Registry Migration) (ledger : Ledger) (params : Params)
    (mint : MintMsg) : Prop where
  /-- Its kind is accepted, and it passes its own checks. -/
  admitted : admission registry (.mint mint) = .ok ()
  /-- The token is there, allows minting, belongs to the sender and has room for the amount. -/
  mintable : ∃ token, Mintable ledger mint token
  /-- The sender has the fee. -/
  covered : ∀ denom, params.mintFee.units denom ≤ ledger.units mint.sender denom
  /-- The total supply fits. -/
  fits : ledger.supply mint.symbol + mint.amount.toInt.natAbs < 2 ^ 128

/-- The cause that names a denomination. -/
def denomCause (symbol : String) : AssetError := .supply (.invalidCoins (.invalidDenom symbol))

/-- A message that only its denomination can stop is stopped by nothing else. -/
theorem Mints.cause_eq {registry : Registry Migration} {mint : MintMsg}
    (mints : Mints registry ledger params mint) {cause : AssetError}
    (rejected : Rejected registry ledger params (.mint mint) cause) :
    Coin.isValidDenom mint.symbol = false ∧ cause = denomCause mint.symbol := by
  obtain ⟨token, mintable⟩ := mints.mintable
  have same : ∀ {other}, ledger.token mint.symbol = some other → token = other := fun found =>
    Option.some.inj (mintable.found.symm.trans found)
  cases rejected with
  | admission broken =>
    rw [mints.admitted] at broken
    contradiction
  | transition _ refused =>
    cases refused with
    | mint refused =>
      cases refused with
      | unknown absent =>
        rw [mintable.found] at absent
        contradiction
      | notMintable found fixed =>
        rw [← same found, mintable.mintable] at fixed
        contradiction
      | unauthorized found _ foreign => exact absurd (same found ▸ mintable.owned) foreign
      | amount found _ _ outside =>
        have positive := mintable.positive
        have within := mintable.within
        rw [← same found] at outside
        omega
      | fee _ denom short => exact absurd (mints.covered denom) (Nat.not_le.mpr short)
      | units _ _ reason =>
        cases reason with
        | denom _ invalid => exact ⟨invalid, rfl⟩
        | overflow exceeds => exact absurd mints.fits (Nat.not_lt.mpr exceeds)

/-- A message that only its denomination can stop is accepted if the denomination is valid, and else
rejected for it. -/
theorem deliver_of_mints (processes : chain.Processes block ledger) (sound : ledger.Sound params)
    {mint : MintMsg} (mints : Mints chain.registry ledger params mint) :
    (chain.deliver (.mint mint)).1 = .ok
      (if Coin.isValidDenom mint.symbol then .accepted [createdEvent (.mint mint)]
      else .rejected (denomCause mint.symbol)) := by
  rcases deliver_cases processes sound (.mint mint) with
    ⟨cause, reason, rejected⟩ | ⟨after, writes, _, applied, accepted, _⟩
  · obtain ⟨invalid, rfl⟩ := mints.cause_eq reason
    rw [rejected, invalid]
    rfl
  · rw [accepted]
    cases applied with
    | mint minted => rw [minted.denom, if_pos rfl]

/-- The symbol of a token that is issued is a denomination exactly if there are units or the symbol
has three letters. -/
theorem isValidDenom_of_issued {regime : Regime} {msg : IssueMsg} {after : Ledger}
    (issued : Issued ledger params regime msg after) (passed : msg.checkBasic regime = .ok ()) :
    Coin.isValidDenom msg.storedSymbol = true ↔
      msg.totalSupply.toInt ≠ 0 ∨ 3 ≤ Bytes.textLength msg.storedSymbol := by
  have storable := Token.storable_of_checkBasic passed
  have short : Bytes.textLength msg.storedSymbol ≤ 12 := storable.symbolLength.2
  have long := Token.isValidDenom_iff storable.symbol short
  constructor
  · exact fun valid => .inr (long.mp valid)
  · rintro (units | letters)
    · exact issued.denom units
    · exact long.mpr letters

/-- From the description upgrade on the symbol has three letters. -/
theorem symbolLength_of_issued {msg : IssueMsg}
    (passed : msg.checkBasic .extended = .ok ()) : 3 ≤ Bytes.textLength msg.storedSymbol :=
  (Token.textLength_symbol ((Token.checkBasic_eq_ok_iff .extended msg).mp passed).2.1).2.1

/-- A token was issued that no coin can be made of: it has no units, and its symbol is too short. -/
def Unnamable (msg : IssueMsg) : Prop :=
  msg.totalSupply = 0 ∧ Bytes.textLength msg.storedSymbol < 3

/-- The symbol of a token that is issued is no denomination exactly if no coin can be made of it. -/
theorem isValidDenom_eq_false_iff {regime : Regime} {msg : IssueMsg} {after : Ledger}
    (issued : Issued ledger params regime msg after) (passed : msg.checkBasic regime = .ok ()) :
    Coin.isValidDenom msg.storedSymbol = false ↔ Unnamable msg := by
  rw [← Bool.not_eq_true, isValidDenom_of_issued issued passed, Unnamable, not_or, not_not,
    Nat.not_le, ← Int64.toInt_inj]
  rfl

/-- In every run of a chain that was created, the symbol of a token that is issued fails to be a
denomination exactly if the token has no units and the symbol has less than three letters, which is
possible before the description upgrade only. Wherever the run goes on from there, a message to mint
the token that only its denomination can stop is rejected for it in this case, and accepted in every
other. -/
theorem isValidDenom_issued_iff {config : NodeConfig} {fresh : Chain}
    (created : create config = .ok fresh) (calls : List Call) {msg : IssueMsg} {result : TxResult}
    {issued : Chain} (delivered : (fresh.run calls).deliver (.issue msg) = (.ok result, issued))
    (applied : result.code = 0) :
    (Coin.isValidDenom msg.storedSymbol = false ↔ Unnamable msg) ∧
      (Unnamable msg → Regime.ofRegistry (fresh.run calls).registry = .legacy) ∧
      ∀ (more : List Call) (block : OpenBlock), (issued.run more).block = some block →
        ∃ ledger params, (issued.run more).Processes block ledger ∧ ledger.Sound params ∧
          ∀ mint : MintMsg, mint.symbol = msg.storedSymbol →
            Mints (issued.run more).registry ledger params mint →
            (Unnamable msg → ((issued.run more).deliver (.mint mint)).1 =
              .ok (.rejected (denomCause mint.symbol))) ∧
            (¬ Unnamable msg → ((issued.run more).deliver (.mint mint)).1 =
              .ok (.accepted [createdEvent (.mint mint)])) := by
  have sound := (sound_create created).run calls
  have issuedSound : issued.Sound := by
    have after := sound.deliver (.issue msg)
    rwa [delivered] at after
  obtain ⟨_, _, _, _, _, _, admitted, transition⟩ := sound.exists_applied delivered applied
  have passed := checkBasic_of_admission admitted
  have denom : Coin.isValidDenom msg.storedSymbol = false ↔ Unnamable msg := by
    cases transition with
    | issue issue => exact isValidDenom_eq_false_iff issue passed
  refine ⟨denom, fun short => ?_, fun more block isOpen => ?_⟩
  · cases regime : Regime.ofRegistry (fresh.run calls).registry with
    | legacy => rfl
    | extended =>
      rw [regime] at passed
      exact absurd (symbolLength_of_issued passed) (Nat.not_le.mpr short.2)
  · obtain ⟨ledger, params, processes, ledgerSound⟩ := (issuedSound.run more).pending block isOpen
    refine ⟨ledger, params, processes, ledgerSound, fun mint same mints => ?_⟩
    have answer := deliver_of_mints processes ledgerSound mints
    rw [← same] at denom
    rw [answer]
    constructor
    · intro short
      rw [denom.mpr short]
      rfl
    · intro namable
      rw [if_pos]
      by_contra invalid
      exact namable (denom.mp (by simpa using invalid))

/-! ## A token that cannot be minted -/

/-- A fee in the chain's own coin is of its denomination only. -/
theorem units_nativeFee (amount : Amount) (denom : String) :
    (Params.nativeFee amount).units denom = if nativeDenom = denom then amount.toNat else 0 := by
  change (if nativeDenom = denom then amount else 0 : Amount).toNat = _
  split <;> rfl

namespace Sample

/-- What the account of the small chain holds. -/
theorem units_holder (loaded : genesis.Loaded ledger) (denom : String) :
    ledger.units holder denom = if nativeDenom = denom then 100000000000 else 0 := by
  have listed : Genesis.listedUnits genesis.balances holder denom = funds.units denom := by
    simp [Genesis.listedUnits, genesis, Ledger.only]
  rw [loaded.units, listed, funds, units_nativeFee]

/-- There are at most as many units as the account of the small chain holds. -/
theorem supply_le (loaded : genesis.Loaded ledger) (denom : String) :
    ledger.supply denom ≤ 100000000000 := by
  have listed : Genesis.listedTotal genesis.balances denom = funds.units denom := by
    simp [Genesis.listedTotal, genesis]
  rw [loaded.supply, listed, funds, units_nativeFee]
  split
  · exact Nat.le_refl _
  · exact Nat.zero_le _

/-- In the first block nothing stops a request of the account whose fields are in order. -/
theorem verdict_issue (loaded : genesis.Loaded ledger) (msg : IssueMsg)
    (sender : msg.sender = holder) (within : ¬ Migration.tokenIssueParams.maxDecimal < msg.decimal)
    (rules : rules .legacy msg = .ok ())
    (denom : msg.totalSupply.toInt ≠ 0 → Coin.isValidDenom msg.storedSymbol = true) :
    verdict (ledger.setParams Migration.tokenIssueParams) Migration.tokenIssueParams .legacy
      (.issue msg) = .ok () := by
  have sound := sound_opened loaded
  obtain ⟨_, chargeable, _⟩ := (Params.validate_eq_ok_iff _).mp sound.usable
  have issuable : Issuable (ledger.setParams Migration.tokenIssueParams)
      Migration.tokenIssueParams .legacy msg := ⟨within, loaded.token _, rules⟩
  have covered : ∀ denom, (Params.nativeFee (.ofWord 10000000000)).units denom ≤
      ledger.units msg.sender denom := fun denom => by
    rw [sender, units_holder loaded denom, units_nativeFee]
    split <;> decide
  have few := supply_le loaded msg.storedSymbol
  have low := msg.totalSupply.minValue_le_toInt
  have high := msg.totalSupply.toInt_lt
  have least : Int64.minValue.toInt = -9223372036854775808 := by decide
  refine verdict_of_units (tokenVerdict_of_issuable issuable)
    (feeVerdict_of_covered (sound.balanced.formed.balance _) chargeable covered)
    (unitsVerdict_of_fits denom ?_)
  change ledger.supply msg.storedSymbol + msg.totalSupply.toInt.natAbs < 2 ^ 128
  omega

/-- In the first block a request of the account is accepted whose fields are in order. -/
theorem exists_accepted (msg : IssueMsg) (sender : msg.sender = holder)
    (within : ¬ Migration.tokenIssueParams.maxDecimal < msg.decimal)
    (admitted : admission (registry.atHeight 1) (.issue msg) = .ok ())
    (rules : rules .legacy msg = .ok ())
    (denom : msg.totalSupply.toInt ≠ 0 → Coin.isValidDenom msg.storedSymbol = true) :
    ∃ block writes ledger after, genesis.Loaded ledger ∧ inFirstBlock.block = some block ∧
      inFirstBlock.deliver (.issue msg) =
        (.ok (.accepted [createdEvent (.issue msg)]), inFirstBlock.withWrites block writes) ∧
      (inFirstBlock.withWrites block writes).Processes { block with writes } after ∧
      Issued (ledger.setParams Migration.tokenIssueParams) Migration.tokenIssueParams .legacy msg
        after := by
  obtain ⟨_, ledger, loaded, processes, scheduled⟩ := exists_opened
  have sound := sound_opened loaded
  have regime : Regime.ofRegistry (registry.atHeight 1) = .legacy := by decide
  rcases deliver_cases processes sound (.issue msg) with
    ⟨cause, reason, _⟩ | ⟨after, writes, _, applied, accepted, left⟩
  · rw [scheduled] at reason
    cases reason with
    | admission broken =>
      rw [admitted] at broken
      contradiction
    | transition _ refused =>
      rw [regime] at refused
      have failed := verdict_of_refused sound refused
      rw [verdict_issue loaded msg sender within rules denom] at failed
      contradiction
  · rw [scheduled, regime] at applied
    cases applied with
    | issue issued =>
      exact ⟨_, writes, ledger, after, loaded, processes.isOpen, accepted, left, issued⟩

/-- The request for a token with units is accepted. -/
theorem exists_deliver_barkIssue : ∃ block writes, inFirstBlock.block = some block ∧
    inFirstBlock.deliver (.issue barkIssue) =
      (.ok (.accepted [createdEvent (.issue barkIssue)]),
        inFirstBlock.withWrites block writes) := by
  obtain ⟨block, writes, _, _, _, isOpen, accepted, _⟩ :=
    exists_accepted barkIssue rfl (by decide) (by decide) (by decide) fun _ => by decide
  exact ⟨block, writes, isOpen, accepted⟩

/-- What the account holds after the fee for issuing covers the fee for minting. -/
theorem mintFee_le {regime : Regime} {after : Ledger} (loaded : genesis.Loaded ledger)
    (issued : Issued (ledger.setParams Migration.tokenIssueParams) Migration.tokenIssueParams regime
      shortIssue after) (denom : String) :
    Migration.tokenIssueParams.mintFee.units denom ≤ after.units holder denom := by
  have left := issued.moved.units holder denom
  have paid : Ledger.only shortIssue.sender Migration.tokenIssueParams.issueFee.units holder
      denom = if nativeDenom = denom then 10000000000 else 0 :=
    (if_pos rfl).trans (units_nativeFee (.ofWord 10000000000) denom)
  have before := units_holder loaded denom
  have fee := units_nativeFee (.ofWord 5000000000) denom
  change after.units holder denom + _ = ledger.units holder denom + _ at left
  change (Params.nativeFee (.ofWord 5000000000)).units denom ≤ after.units holder denom
  rw [paid, before] at left
  rw [fee]
  by_cases native : nativeDenom = denom
  · rw [if_pos native] at left ⊢
    rw [if_pos native] at left
    change 5000000000 ≤ _
    omega
  · rw [if_neg native]
    exact Nat.zero_le _

/-- Once the token is issued, only its denomination stops a request for units. -/
theorem mints_short {regime : Regime} {after : Ledger} (loaded : genesis.Loaded ledger)
    (issued : Issued (ledger.setParams Migration.tokenIssueParams) Migration.tokenIssueParams regime
      shortIssue after) :
    Mints (registry.atHeight 1) after Migration.tokenIssueParams shortMint where
  admitted := by decide
  mintable := by
    have named : shortIssue.storedSymbol = shortMint.symbol := by decide
    have found : after.token shortMint.symbol = some shortIssue.token := by
      rw [← named]
      exact issued.token_eq
    exact ⟨shortIssue.token, found, rfl, rfl, by decide, by decide⟩
  covered := mintFee_le loaded issued
  fits := by
    have created := issued.moved.supply "ab"
    have nothing : unitsOf shortIssue.storedSymbol shortIssue.totalSupply "ab" = 0 := by decide
    have before := supply_le loaded "ab"
    change after.supply "ab" = ledger.supply "ab" + _ at created
    change after.supply "ab" + 5 < 2 ^ 128
    omega

/-- The token of the request is issued in the first block, and then only its denomination stops a
request for units. -/
theorem exists_issued : ∃ issued block ledger,
    inFirstBlock.deliver (.issue shortIssue) =
      (.ok (.accepted [createdEvent (.issue shortIssue)]), issued) ∧
    issued.Processes block ledger ∧ ledger.Sound Migration.tokenIssueParams ∧
    Mints issued.registry ledger Migration.tokenIssueParams shortMint := by
  have admitted : admission (registry.atHeight 1) (.issue shortIssue) = .ok () := by decide
  obtain ⟨_, _, _, _, scheduled⟩ := exists_opened
  obtain ⟨block, writes, ledger, after, loaded, _, accepted, left, issued⟩ :=
    exists_accepted shortIssue rfl (by decide) admitted (by decide) (absurd rfl)
  have passed := checkBasic_of_admission admitted
  have afterSound := issued.sound (sound_opened loaded) (Token.storable_of_checkBasic passed)
  have mints := mints_short loaded issued
  rw [← scheduled] at mints
  exact ⟨_, _, after, accepted, left, afterSound, mints⟩

end Sample

/-- Not every token that is issued can be minted: in the first block of a small chain one is issued
whose symbol is no denomination, and a message to mint it that passes every other check is rejected
for that. -/
theorem exists_issued_not_denom : create Sample.config = .ok Sample.fresh ∧ ∃ issued,
    (Sample.fresh.run [.initChain Sample.genesis, .beginBlock 1]).deliver
      (.issue Sample.shortIssue) =
      (.ok (.accepted [createdEvent (.issue Sample.shortIssue)]), issued) ∧
    Coin.isValidDenom Sample.shortIssue.storedSymbol = false ∧
    (issued.deliver (.mint Sample.shortMint)).1 = .ok (.rejected (denomCause "ab")) := by
  obtain ⟨issued, block, ledger, delivered, processes, sound, mints⟩ := Sample.exists_issued
  refine ⟨Sample.created, issued, delivered, by decide, ?_⟩
  rw [deliver_of_mints processes sound mints]
  rfl

/-- The symbol of that token is too short, as the general statement says. -/
theorem isValidDenom_issued_iff_sample :
    Coin.isValidDenom Sample.shortIssue.storedSymbol = false ↔ Unnamable Sample.shortIssue := by
  obtain ⟨issued, _, _, delivered, _⟩ := Sample.exists_issued
  exact (isValidDenom_issued_iff Sample.created [.initChain Sample.genesis, .beginBlock 1]
    delivered rfl).1

end TokenLedger.Chain
