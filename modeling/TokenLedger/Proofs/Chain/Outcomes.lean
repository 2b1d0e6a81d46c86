import TokenLedger.Proofs.Chain.Commutation
import TokenLedger.Proofs.Chain.Denominations
import TokenLedger.Proofs.Chain.Readings
import TokenLedger.Proofs.Token.Conditions

/-!
# How every message is answered

Each kind of message has one list of conditions, in terms of the schedule, the height of the open
block and what the block reads as before the message. The first condition that fails is the answer;
if none fails the message is accepted.
-/

namespace TokenLedger

open AssetError

/-! ## Messages alone -/

/-- What a message to issue has to satisfy by itself. -/
def IssueMsg.conditions (regime : Regime) (msg : IssueMsg) : List Condition := [
  .asset 101 (Token.AllowsName msg.name),
  .asset 102 (Token.AllowsSymbol regime (Token.lowered msg.symbol)),
  .asset 103 (0 ≤ msg.totalSupply.toInt ∧ msg.totalSupply.toInt ≤ Token.maxTotalSupply.toInt),
  .asset 104 (0 ≤ msg.decimal.toInt),
  .asset 106 (Bytes.textLength msg.description ≤ Token.descriptionMost regime)]

/-- The checks of a message to issue. -/
theorem IssueMsg.decides_checkBasic (regime : Regime) (msg : IssueMsg) :
    Decides (msg.conditions regime) (answer (msg.checkBasic regime)) :=
  (Token.decides_checkName msg.name).bind fun _ =>
    (Token.decides_checkSymbol regime msg.storedSymbol).bind fun _ =>
      (Token.decides_checkTotalSupply msg.totalSupply).bind fun _ =>
        (Token.decides_checkDecimal msg.decimal).bind fun _ =>
          Token.decides_checkDescription regime msg.description

/-- What a message to mint has to satisfy by itself. -/
def MintMsg.conditions (regime : Regime) (msg : MintMsg) : List Condition := [
  .asset 102 (Token.AllowsSymbol regime msg.symbol),
  .asset 105 (0 < msg.amount.toInt ∧ msg.amount.toInt ≤ Token.maxTotalSupply.toInt)]

/-- The checks of a message to mint. -/
theorem MintMsg.decides_checkBasic (regime : Regime) (msg : MintMsg) :
    Decides (msg.conditions regime) (answer (msg.checkBasic regime)) := by
  refine (Token.decides_checkSymbol regime msg.symbol).bind fun _ => Token.decides_ensure ?_ rfl
  rw [Bool.and_eq_true, decide_eq_true_eq, decide_eq_true_eq, Int64.lt_iff_toInt_lt,
    Int64.le_iff_toInt_le]
  rfl

/-- A message to mint that passes its own checks asks for something. -/
theorem MintMsg.amount_pos {regime : Regime} {msg : MintMsg}
    (passed : msg.checkBasic regime = .ok ()) : 0 < msg.amount.toInt := by
  have each := (msg.decides_checkBasic regime).code_eq_zero_iff.mp (by rw [passed]; rfl)
  exact (each _ (List.mem_cons_of_mem _ List.mem_cons_self)).1

/-! ## Messages in a block -/

/-- The regime in force at a height. -/
def UpgradeHeights.regimeAt (heights : UpgradeHeights) (height : Height) : Regime :=
  if heights.descriptionLimit ≤ height then .extended else .legacy

/-- The registry of a schedule finds the regime in force. -/
theorem UpgradeHeights.ofRegistry_registry (heights : UpgradeHeights) (height : Height) :
    Regime.ofRegistry (heights.registry.atHeight height) = heights.regimeAt height := by
  rw [Regime.ofRegistry, isApplied_registry, regimeAt]
  simp only [decide_eq_true_eq]
  rfl

/-- What a message to issue has to satisfy in a block: its kind is active; it satisfies its own
conditions; and what the block reads as admits it. -/
def IssueMsg.conditionsIn (heights : UpgradeHeights) (height : Height) (before : Reading)
    (msg : IssueMsg) : List Condition :=
  .sdk 6 (heights.tokenIssue ≤ height) :: msg.conditions (heights.regimeAt height) ++ [
    .asset 104 (msg.decimal.toInt ≤ before.params.maxDecimal.toInt),
    .asset 102 (before.token (Token.lowered msg.symbol) = none),
    .sdk 10 (∀ denom,
      before.params.issueFee.units denom ≤ (before.balance msg.sender).units denom),
    .sdk 11 (msg.totalSupply.toInt = 0 ∨ Coin.isValidDenom (Token.lowered msg.symbol) = true),
    .sdk 11 (before.total.units (Token.lowered msg.symbol) + msg.totalSupply.toInt < 2 ^ 128)]

/-- What a message to mint has to satisfy in a block: its kind is active; it satisfies its own
conditions; and what the block reads as admits it. -/
def MintMsg.conditionsIn (heights : UpgradeHeights) (height : Height) (before : Reading)
    (msg : MintMsg) : List Condition :=
  .sdk 6 (heights.tokenIssue ≤ height) :: msg.conditions (heights.regimeAt height) ++ [
    .asset 102 (∃ token ∈ before.token msg.symbol, token.symbol = msg.symbol),
    .asset 107 (∀ token ∈ before.token msg.symbol, token.mintable = true),
    .asset 108 (∀ token ∈ before.token msg.symbol, token.owner = msg.sender),
    .asset 105 (∀ token ∈ before.token msg.symbol,
      msg.amount.toInt ≤ Token.maxTotalSupply.toInt - token.totalSupply.toInt),
    .sdk 10 (∀ denom,
      before.params.mintFee.units denom ≤ (before.balance msg.sender).units denom),
    .sdk 11 (Coin.isValidDenom msg.symbol = true),
    .sdk 11 (before.total.units msg.symbol + msg.amount.toInt < 2 ^ 128)]

namespace Issuance

variable {params : Params} {regime : Regime}

/-- A message to issue that passes its own checks passes those that its transition repeats. -/
theorem rules_of_checkBasic {msg : IssueMsg} (passed : msg.checkBasic regime = .ok ()) :
    rules regime msg = .ok () := by
  obtain ⟨name, symbol, supply, _, description⟩ :=
    (Token.checkBasic_eq_ok_iff regime msg).mp passed
  exact (rules_eq_ok_iff regime msg).mpr ⟨name, symbol, description, supply⟩

/-- The verdict in front of the fee on a message to issue that passes its own checks. -/
theorem decides_tokenVerdict_issue {msg : IssueMsg} (passed : msg.checkBasic regime = .ok ())
    (found? : Option Token) :
    Decides [.asset 104 (msg.decimal.toInt ≤ params.maxDecimal.toInt), .asset 102 (found? = none)]
      (answer (tokenVerdict params regime found? (.issue msg))) := by
  rw [tokenVerdict, rules_of_checkBasic passed]
  by_cases above : params.maxDecimal < msg.decimal
  · rw [if_pos above]
    rw [Int8.lt_iff_toInt_lt] at above
    exact .failed (Int.not_le.mpr above)
  rw [if_neg above]
  rw [Int8.lt_iff_toInt_lt, Int.not_lt] at above
  refine .next above ?_
  cases found? with
  | none => exact .next rfl .passed
  | some token => exact .failed (Option.some_ne_none token)

/-- The verdict in front of the fee on a message to mint that passes its own checks. -/
theorem decides_tokenVerdict_mint {msg : MintMsg} (positive : 0 < msg.amount.toInt)
    {found? : Option Token} (named : ∀ token ∈ found?, token.symbol = msg.symbol) :
    Decides [
        .asset 102 (∃ token ∈ found?, token.symbol = msg.symbol),
        .asset 107 (∀ token ∈ found?, token.mintable = true),
        .asset 108 (∀ token ∈ found?, token.owner = msg.sender),
        .asset 105 (∀ token ∈ found?,
          msg.amount.toInt ≤ Token.maxTotalSupply.toInt - token.totalSupply.toInt)]
      (answer (tokenVerdict params regime found? (.mint msg))) := by
  cases found? with
  | none => exact .failed (by rintro ⟨_, ⟨⟩, _⟩)
  | some token =>
    have each (fine : Token → Prop) : (∀ other ∈ some token, fine other) ↔ fine token := by simp
    refine .next ⟨token, rfl, named token rfl⟩ ?_
    rw [tokenVerdict]
    by_cases fixed : token.mintable = false
    · rw [if_pos fixed]
      refine .failed fun mintable => ?_
      rw [(each _).mp mintable] at fixed
      contradiction
    rw [if_neg fixed]
    refine .next ((each _).mpr (by simpa using fixed)) ?_
    by_cases foreign : token.owner ≠ msg.sender
    · rw [if_pos foreign]
      exact .failed fun owned => foreign ((each _).mp owned)
    rw [if_neg foreign]
    refine .next ((each _).mpr (not_not.mp foreign)) ?_
    by_cases outside : msg.amount.toInt ≤ 0 ∨
        Token.maxTotalSupply.toInt < token.totalSupply.toInt + msg.amount.toInt
    · rw [if_pos outside]
      refine .failed fun room => ?_
      have within := (each _).mp room
      omega
    rw [if_neg outside]
    exact .next ((each _).mpr (by omega)) .passed

/-- The verdict on a fee that can be charged. -/
theorem decides_feeVerdict {held fee : Coins} (formed : held.WellFormed)
    (chargeable : fee.Chargeable) :
    Decides [.sdk 10 (∀ denom, fee.units denom ≤ held.units denom)]
      (answer (feeVerdict held fee)) := by
  by_cases covered : ∀ denom, fee.units denom ≤ held.units denom
  · rw [feeVerdict_of_covered formed chargeable covered]
    exact .next covered .passed
  · obtain ⟨denom, short⟩ := not_forall.mp covered
    rw [feeVerdict_of_short formed chargeable (Nat.not_le.mp short)]
    exact .failed covered

/-- The verdict on new units of a symbol. -/
theorem decides_unitsVerdict {supply : Nat} {symbol : String} {units : Int64} {named : Prop}
    (low : 0 ≤ units.toInt)
    (spelt : named ↔ (units.toInt ≠ 0 → Coin.isValidDenom symbol = true)) :
    Decides [.sdk 11 named, .sdk 11 (supply + units.toInt < 2 ^ 128)]
      (answer (unitsVerdict supply symbol units)) := by
  rw [unitsVerdict]
  by_cases unnamed : units.toInt ≠ 0 ∧ Coin.isValidDenom symbol = false
  · rw [if_pos unnamed]
    refine .failed fun holds => ?_
    have valid := spelt.mp holds unnamed.1
    rw [unnamed.2] at valid
    contradiction
  have holds : named := spelt.mpr fun filled => by
    by_contra invalid
    exact unnamed ⟨filled, by simpa using invalid⟩
  rw [if_neg unnamed]
  refine .next holds ?_
  by_cases exceeds : 2 ^ 128 ≤ supply + units.toInt.natAbs
  · rw [if_pos exceeds]
    refine .failed fun fits => ?_
    change (supply : Int) + units.toInt < 2 ^ 128 at fits
    omega
  · rw [if_neg exceeds]
    have fits : (supply : Int) + units.toInt < 2 ^ 128 := by omega
    exact .next fits .passed

end Issuance

namespace Chain

variable (heights : UpgradeHeights) (height : Height) {ledger : Ledger} {params : Params}

/-- Admission is decided by the gate and then by the conditions of the message itself. -/
theorem decides_admission {message : Message} {conditions : List Condition}
    (basic : Decides conditions (answer (message.checkBasic (heights.regimeAt height)))) :
    Decides (.sdk 6 (heights.tokenIssue ≤ height) :: conditions)
      (answer (admission (heights.registry.atHeight height) message)) := by
  rw [admission, UpgradeHeights.acceptsMessage_registry, UpgradeHeights.ofRegistry_registry]
  by_cases active : heights.tokenIssue ≤ height
  · rw [decide_eq_true active, if_pos rfl]
    exact .next active basic
  · rw [decide_eq_false active, if_neg Bool.false_ne_true]
    exact .failed active

/-- The verdict of the chain on a message, by the conditions of its parts. Those after the admission
need to be right only for a message that passes its own checks. -/
theorem decides_judge (ledger : Ledger) (params : Params) {message : Message}
    {basic token fee units : List Condition}
    (own : Decides basic (answer (message.checkBasic (heights.regimeAt height))))
    (rest : message.checkBasic (heights.regimeAt height) = .ok () →
      Decides token (answer (Issuance.tokenVerdict params (heights.regimeAt height)
        (ledger.token message.tokenSymbol) message)) ∧
      Decides fee (answer (Issuance.feeVerdict (ledger.balance message.signer)
        (message.fee params))) ∧
      Decides units (answer (Issuance.unitsVerdict (ledger.supply message.tokenSymbol)
        message.tokenSymbol message.units))) :
    Decides ((.sdk 6 (heights.tokenIssue ≤ height) :: basic) ++ (token ++ (fee ++ units)))
      (answer (judge (heights.registry.atHeight height) ledger params message)) := by
  refine (decides_admission heights height own).bind fun admitted => ?_
  have passed := checkBasic_of_admission admitted
  rw [UpgradeHeights.ofRegistry_registry] at passed ⊢
  obtain ⟨tokens, paid, created⟩ := rest passed
  exact tokens.bind fun _ => paid.bind fun _ => created

/-- The verdict of the chain on a message to issue. -/
theorem decides_judge_issue (sound : ledger.Sound params) (msg : IssueMsg) :
    Decides (msg.conditionsIn heights height (ledger.reading params))
      (answer (judge (heights.registry.atHeight height) ledger params (.issue msg))) := by
  obtain ⟨_, chargeable, _⟩ := (Params.validate_eq_ok_iff params).mp sound.usable
  have formed := sound.balanced.formed.balance msg.sender
  have own : Decides (msg.conditions (heights.regimeAt height))
      (answer ((Message.issue msg).checkBasic (heights.regimeAt height))) :=
    msg.decides_checkBasic (heights.regimeAt height)
  have decided := decides_judge heights height ledger params own fun passed => by
    have low := (Issuance.toInt_totalSupply (Token.storable_of_checkBasic passed)).1
    exact ⟨Issuance.decides_tokenVerdict_issue passed _,
      Issuance.decides_feeVerdict formed chargeable,
      Issuance.decides_unitsVerdict low or_iff_not_imp_left⟩
  exact decided

/-- The verdict of the chain on a message to mint. -/
theorem decides_judge_mint (sound : ledger.Sound params) (msg : MintMsg) :
    Decides (msg.conditionsIn heights height (ledger.reading params))
      (answer (judge (heights.registry.atHeight height) ledger params (.mint msg))) := by
  obtain ⟨_, _, chargeable⟩ := (Params.validate_eq_ok_iff params).mp sound.usable
  have formed := sound.balanced.formed.balance msg.sender
  have placed : ∀ token ∈ ledger.token msg.symbol, token.symbol = msg.symbol :=
    fun token found => (sound.registered _ _ found).1
  have own : Decides (msg.conditions (heights.regimeAt height))
      (answer ((Message.mint msg).checkBasic (heights.regimeAt height))) :=
    msg.decides_checkBasic (heights.regimeAt height)
  have decided := decides_judge heights height ledger params own fun passed => by
    have positive := MintMsg.amount_pos passed
    have named : Coin.isValidDenom msg.symbol = true ↔
        (msg.amount.toInt ≠ 0 → Coin.isValidDenom msg.symbol = true) :=
      ⟨fun valid _ => valid, fun valid => valid (by omega)⟩
    exact ⟨Issuance.decides_tokenVerdict_mint positive placed,
      Issuance.decides_feeVerdict formed chargeable,
      Issuance.decides_unitsVerdict (Int.le_of_lt positive) named⟩
  exact decided

/-- A delivery is answered with the code space and the code of the verdict. -/
theorem codes_answerOf (message : Message) (verdict : Except AssetError Unit) :
    ((answerOf message verdict).codespace, (answerOf message verdict).code) = answer verdict := by
  cases verdict <;> rfl

variable {config : NodeConfig} {fresh : Chain} {block : OpenBlock}

/-- After any requests to a chain that was created, every message that is delivered into the open
block is answered, by the verdict of the chain on it over what the block reads as. If it is not
accepted, the chain stays as it was. -/
theorem exists_answer_in_open (created : create config = .ok fresh) (requests : List Request)
    (isOpen : (fresh.serve requests).block = some block) (message : Message) :
    ∃ ledger params result next, ledger.Sound params ∧
      (block.view (fresh.serve requests).committed).ReadsAs (ledger.reading params) ∧
      (fresh.serve requests).deliver message = (.ok result, next) ∧
      (result.codespace, result.code) =
        answer (judge (config.upgrades.registry.atHeight block.height) ledger params message) ∧
      (result.code ≠ 0 → next = fresh.serve requests) := by
  obtain ⟨ledger, params, processes, sound, scheduled⟩ :=
    exists_open_of_serve created requests isOpen
  obtain ⟨writes, after, delivers⟩ := exists_delivers processes sound message
  have answered := delivers.answered
  obtain ⟨result, next, _, delivered, _, _, unchanged⟩ :=
    ((sound_create created).serve requests).exists_deliver isOpen message
  have same : result = answerOf message _ :=
    Except.ok.inj (congrArg Prod.fst (delivered.symm.trans answered))
  refine ⟨ledger, params, result, next, sound, sound.readsAs processes.holds, delivered, ?_,
    fun failed => unchanged (decide_eq_false failed)⟩
  rw [same, codes_answerOf, scheduled]

/-- After any requests to a chain that was created, a message to issue that is delivered into the
open block is answered by the first of its conditions that fails, and with code zero exactly if all
of them hold. The checks that its transition repeats never decide: a message that passes its own
checks passes them. -/
theorem issue_decided (created : create config = .ok fresh) (requests : List Request)
    (isOpen : (fresh.serve requests).block = some block) (msg : IssueMsg) :
    let chain := fresh.serve requests
    ∃ before result next,
      (block.view chain.committed).ReadsAs before ∧
      chain.deliver (.issue msg) = (.ok result, next) ∧
      Decides (msg.conditionsIn config.upgrades block.height before)
        (result.codespace, result.code) ∧
      (result.code = 0 ↔
        ∀ condition ∈ msg.conditionsIn config.upgrades block.height before, condition.holds) ∧
      ∀ regime, msg.checkBasic regime = .ok () →
        Token.checkName msg.name = .ok () ∧ Token.checkSymbol regime msg.storedSymbol = .ok () ∧
          Token.checkDescription regime msg.description = .ok () ∧
          Token.checkTotalSupply msg.totalSupply = .ok () := by
  intro chain
  obtain ⟨ledger, params, result, next, sound, reads, delivered, codes, _⟩ :=
    exists_answer_in_open created requests isOpen (.issue msg)
  have decides := decides_judge_issue config.upgrades block.height sound msg
  rw [← codes] at decides
  exact ⟨_, result, next, reads, delivered, decides, decides.code_eq_zero_iff,
    fun regime passed => (Issuance.rules_eq_ok_iff regime msg).mp
      (Issuance.rules_of_checkBasic passed)⟩

/-- A request for a token with too many decimal places, of an account that cannot pay for it. -/
def Sample.vainIssue : IssueMsg := ⟨⟨List.replicate 20 4, rfl⟩, "Vain", "VAIN", 7, true, 11, ""⟩

/-- In the first block of a small chain that request is answered for its decimal places, which are
looked at before the fee. -/
theorem issue_decided_sample : ∃ result next,
    Sample.inFirstBlock.deliver (.issue Sample.vainIssue) = (.ok result, next) ∧
    (result.codespace, result.code) = ("asset", 104) := by
  obtain ⟨writes, ledger, loaded, processes, _⟩ := Sample.exists_opened
  have sound := Sample.sound_opened loaded
  obtain ⟨before, result, next, reads, delivered, decides, _⟩ := issue_decided Sample.created
    [.call (.initChain Sample.genesis), .call (.beginBlock 1)] processes.isOpen Sample.vainIssue
  have read : before.params = Migration.tokenIssueParams := by
    rw [reads.unique (sound.readsAs processes.holds)]
    rfl
  have admitted : admission (Sample.config.upgrades.registry.atHeight 1)
      (.issue Sample.vainIssue) = .ok () := by decide
  have own : Decides (Sample.vainIssue.conditions .legacy)
      (answer ((Message.issue Sample.vainIssue).checkBasic .legacy)) :=
    Sample.vainIssue.decides_checkBasic .legacy
  have first := decides_admission Sample.config.upgrades 1 own
  rw [admitted] at first
  refine ⟨result, next, delivered, decides.unique (.append (first.code_eq_zero_iff.mp rfl) ?_)⟩
  refine .failed fun within => ?_
  change (11 : Int8).toInt ≤ before.params.maxDecimal.toInt at within
  rw [read] at within
  exact absurd within (by decide)

/-- After any requests to a chain that was created, a message to mint that is delivered into the
open block is answered by the first of its conditions that fails, and with code zero exactly if all
of them hold. If one fails, the chain stays as it was, and so does the total supply of the token. -/
theorem mint_decided (created : create config = .ok fresh) (requests : List Request)
    (isOpen : (fresh.serve requests).block = some block) (msg : MintMsg) :
    let chain := fresh.serve requests
    ∃ before result next,
      (block.view chain.committed).ReadsAs before ∧
      chain.deliver (.mint msg) = (.ok result, next) ∧
      Decides (msg.conditionsIn config.upgrades block.height before)
        (result.codespace, result.code) ∧
      (result.code = 0 ↔
        ∀ condition ∈ msg.conditionsIn config.upgrades block.height before, condition.holds) ∧
      (result.code ≠ 0 → next = chain) := by
  intro chain
  obtain ⟨ledger, params, result, next, sound, reads, delivered, codes, unchanged⟩ :=
    exists_answer_in_open created requests isOpen (.mint msg)
  have decides := decides_judge_mint config.upgrades block.height sound msg
  rw [← codes] at decides
  exact ⟨_, result, next, reads, delivered, decides, decides.code_eq_zero_iff, unchanged⟩

/-- In the first block of a small chain a token is issued whose symbol is too short for a
denomination, so minting it is decided by the last condition but one. -/
theorem mint_decided_sample : ∃ (issued : Chain) (block : OpenBlock) (before : Reading),
    issued.block = some block ∧ (block.view issued.committed).ReadsAs before ∧
    Sample.inFirstBlock.deliver (.issue Sample.shortIssue) =
      (.ok (.accepted [Issuance.createdEvent (.issue Sample.shortIssue)]), issued) ∧
    issued.deliver (.mint Sample.shortMint) = (.ok (.rejected (denomCause "ab")), issued) ∧
    Decides (Sample.shortMint.conditionsIn Sample.config.upgrades block.height before)
      ("sdk", 11) := by
  obtain ⟨issued, block, ledger, issues, processes, sound, mints⟩ := Sample.exists_issued
  have reached : Sample.fresh.serve ([.call (.initChain Sample.genesis), .call (.beginBlock 1)] ++
      [.call (.deliver (.issue Sample.shortIssue))]) = issued := by
    rw [serve_append, serve_eq_run, serve_eq_run]
    exact run_deliver issues
  have isOpen := processes.isOpen
  rw [← reached] at isOpen
  obtain ⟨before, result, next, reads, delivered, decides, _, unchanged⟩ :=
    mint_decided Sample.created _ isOpen Sample.shortMint
  rw [reached] at reads delivered unchanged
  have answered := deliver_of_mints processes sound mints
  rw [delivered] at answered
  have rejected : result = .rejected (denomCause "ab") := Except.ok.inj answered
  rw [rejected] at decides unchanged
  rw [rejected, unchanged (code_rejected_ne_zero _)] at delivered
  exact ⟨issued, block, before, processes.isOpen, reads, issues, delivered, decides⟩

end Chain

end TokenLedger
