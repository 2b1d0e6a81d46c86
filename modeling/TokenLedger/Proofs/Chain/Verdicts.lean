import TokenLedger.Proofs.Chain.Delivery
import TokenLedger.Proofs.Ledger.Footprints

/-!
# The verdict on a message

Whether a message is applied to a ledger in use, and the cause for which it is refused otherwise,
can be computed from three records: the token of its symbol, what its signer holds and the total
supply. The verdict checks them in the order of the transitions; nothing else that is recorded, and
no intermediate state of a transition, has a say in it.
-/

namespace TokenLedger

/-- The units that a message asks for. -/
def Message.units : Message → Int64
  | .issue msg => msg.totalSupply
  | .mint msg => msg.amount

/-- The fee of a message. -/
def Message.fee (params : Params) : Message → Coins
  | .issue _ => params.issueFee
  | .mint _ => params.mintFee

namespace Issuance

variable {ledger : Ledger} {params : Params} {regime : Regime} {message : Message}
  {cause : AssetError}

/-- The verdict of the checks in front of the fee, by the token that is found under the symbol. -/
def tokenVerdict (params : Params) (regime : Regime) (found? : Option Token) :
    Message → Except AssetError Unit
  | .issue msg =>
    if params.maxDecimal < msg.decimal then .error (.decimalAboveMax params.maxDecimal)
    else if found?.isSome then .error (.duplicateSymbol msg.storedSymbol)
    else rules regime msg
  | .mint msg =>
    match found? with
    | none => .error (.unknownToken msg.symbol)
    | some token =>
      if token.mintable = false then .error (.notMintable token.symbol)
      else if token.owner ≠ msg.sender then .error (.unauthorizedMint token.owner token.symbol)
      else if msg.amount.toInt ≤ 0 ∨
          Token.maxTotalSupply.toInt < token.totalSupply.toInt + msg.amount.toInt then
        .error (.mintAmountAbove (Token.maxTotalSupply - token.totalSupply) msg.amount)
      else .ok ()

/-- The verdict on a fee, by what its payer holds. -/
def feeVerdict (held fee : Coins) : Except AssetError Unit :=
  if (held.sub? fee).isSome then .ok () else .error (.supply (.insufficientCoins held fee))

/-- The verdict on new units of a symbol, by those that there are. -/
def unitsVerdict (supply : Nat) (symbol : String) (units : Int64) : Except AssetError Unit :=
  if units.toInt ≠ 0 ∧ Coin.isValidDenom symbol = false then
    .error (.supply (.invalidCoins (.invalidDenom symbol)))
  else if 2 ^ 128 ≤ supply + units.toInt.natAbs then
    .error (.supply (.invalidCoins (.overflow symbol)))
  else .ok ()

/-- The verdict on a message. -/
def verdict (ledger : Ledger) (params : Params) (regime : Regime) (message : Message) :
    Except AssetError Unit := do
  tokenVerdict params regime (ledger.token message.tokenSymbol) message
  feeVerdict (ledger.balance message.signer) (message.fee params)
  unitsVerdict (ledger.supply message.tokenSymbol) message.tokenSymbol message.units

/-! ## The three parts -/

/-- A message that fails a check in front of the fee. -/
theorem verdict_of_token
    (failed : tokenVerdict params regime (ledger.token message.tokenSymbol) message =
      .error cause) : verdict ledger params regime message = .error cause := by
  rw [verdict, failed]
  rfl

/-- A message of which the fee is not paid. -/
theorem verdict_of_fee
    (passed : tokenVerdict params regime (ledger.token message.tokenSymbol) message = .ok ())
    (failed : feeVerdict (ledger.balance message.signer) (message.fee params) = .error cause) :
    verdict ledger params regime message = .error cause := by
  rw [verdict, passed, failed]
  rfl

/-- A message of which the fee is paid. -/
theorem verdict_of_units {answer : Except AssetError Unit}
    (passed : tokenVerdict params regime (ledger.token message.tokenSymbol) message = .ok ())
    (paid : feeVerdict (ledger.balance message.signer) (message.fee params) = .ok ())
    (last : unitsVerdict (ledger.supply message.tokenSymbol) message.tokenSymbol message.units =
      answer) : verdict ledger params regime message = answer := by
  rw [verdict, passed, paid]
  exact last

/-- A message that can be issued passes the checks in front of the fee. -/
theorem tokenVerdict_of_issuable {msg : IssueMsg}
    (issuable : Issuable ledger params regime msg) :
    tokenVerdict params regime (ledger.token msg.storedSymbol) (.issue msg) = .ok () := by
  rw [tokenVerdict, if_neg issuable.decimal, issuable.free]
  exact issuable.rules

/-- A message that can be minted passes the checks in front of the fee. -/
theorem tokenVerdict_of_mintable {msg : MintMsg} {token : Token}
    (mintable : Mintable ledger msg token) :
    tokenVerdict params regime (ledger.token msg.symbol) (.mint msg) = .ok () := by
  have inside : ¬ (msg.amount.toInt ≤ 0 ∨
      Token.maxTotalSupply.toInt < token.totalSupply.toInt + msg.amount.toInt) := by
    have positive := mintable.positive
    have within := mintable.within
    omega
  simp only [tokenVerdict, mintable.found, mintable.mintable, mintable.owned, inside,
    Bool.true_eq_false, ne_eq, not_true, if_false]

/-- A fee of which the payer has all units is paid. -/
theorem feeVerdict_of_covered {held fee : Coins} (formed : held.WellFormed)
    (chargeable : fee.Chargeable) (covered : ∀ denom, fee.units denom ≤ held.units denom) :
    feeVerdict held fee = .ok () := by
  obtain ⟨rest, taken⟩ := Coins.exists_sub? formed chargeable.formed covered
  rw [feeVerdict, taken]
  rfl

/-- A fee of which the payer lacks units is not paid. -/
theorem feeVerdict_of_short {held fee : Coins} (formed : held.WellFormed)
    (chargeable : fee.Chargeable) {denom : String} (short : held.units denom < fee.units denom) :
    feeVerdict held fee = .error (.supply (.insufficientCoins held fee)) := by
  have missing : held.sub? fee = none := by
    cases taken : held.sub? fee with
    | none => rfl
    | some rest =>
      have left := (Coins.sub?_eq_some formed.isValid chargeable.formed.isValid taken).2 denom
      unfold Coins.units at short
      omega
  rw [feeVerdict, missing]
  rfl

/-- Units that are refused are refused by the verdict. -/
theorem unitsVerdict_of_refused (formed : ledger.total.WellFormed) {symbol : String}
    {units : Int64} (reason : UnitsRefused ledger symbol units cause) :
    unitsVerdict (ledger.supply symbol) symbol units = .error cause := by
  cases reason with
  | denom filled invalid => rw [unitsVerdict, if_pos ⟨filled, invalid⟩]
  | overflow exceeds =>
    -- Where the sum does not fit there are units already, so the symbol is a denomination.
    have fits := units.toInt_lt
    have low := units.minValue_le_toInt
    have held : ledger.total.amountOf symbol ≠ 0 := by
      intro nothing
      have none : ledger.supply symbol = 0 := by
        rw [Ledger.supply, Coins.units, nothing]
        rfl
      have least : Int64.minValue.toInt = -9223372036854775808 := by decide
      omega
    have valid := formed.isValidDenom_of_amountOf held
    rw [unitsVerdict, if_neg fun refused => by simp [valid] at refused, if_pos exceeds]

/-- Units of a denomination that fit are created. -/
theorem unitsVerdict_of_fits {supply : Nat} {symbol : String} {units : Int64}
    (denom : units.toInt ≠ 0 → Coin.isValidDenom symbol = true)
    (fits : supply + units.toInt.natAbs < 2 ^ 128) : unitsVerdict supply symbol units = .ok () := by
  have named : ¬ (units.toInt ≠ 0 ∧ Coin.isValidDenom symbol = false) := fun ⟨filled, invalid⟩ => by
    rw [denom filled] at invalid
    contradiction
  rw [unitsVerdict, if_neg named, if_neg (Nat.not_le.mpr fits)]

/-! ## The whole -/

/-- What is not issued fails the verdict, for the same cause. -/
theorem verdict_of_issueRefused (sound : ledger.Sound params) {msg : IssueMsg}
    (reason : IssueRefused ledger params regime msg cause) :
    verdict ledger params regime (.issue msg) = .error cause := by
  obtain ⟨_, chargeable, _⟩ := (Params.validate_eq_ok_iff params).mp sound.usable
  have formed := sound.balanced.formed
  cases reason with
  | decimal above => exact verdict_of_token (if_pos above)
  | duplicate within taken =>
    have present : (ledger.token msg.storedSymbol).isSome = true :=
      Option.isSome_iff_ne_none.mpr taken
    exact verdict_of_token ((if_neg within).trans (if_pos present))
  | rule within free broken =>
    refine verdict_of_token ((if_neg within).trans ?_)
    rw [show ledger.token (Message.issue msg).tokenSymbol = none from free]
    exact broken
  | fee issuable denom short =>
    exact verdict_of_fee (tokenVerdict_of_issuable issuable)
      (feeVerdict_of_short (formed.balance _) chargeable short)
  | units issuable covered reason =>
    exact verdict_of_units (tokenVerdict_of_issuable issuable)
      (feeVerdict_of_covered (formed.balance _) chargeable covered)
      (unitsVerdict_of_refused formed.total reason)

/-- What is not minted fails the verdict, for the same cause. -/
theorem verdict_of_mintRefused (sound : ledger.Sound params) {msg : MintMsg}
    (reason : MintRefused ledger params msg cause) :
    verdict ledger params regime (.mint msg) = .error cause := by
  obtain ⟨_, _, chargeable⟩ := (Params.validate_eq_ok_iff params).mp sound.usable
  have formed := sound.balanced.formed
  cases reason with
  | unknown absent =>
    apply verdict_of_token
    rw [show ledger.token (Message.mint msg).tokenSymbol = none from absent]
    rfl
  | notMintable found fixed =>
    apply verdict_of_token
    simp only [tokenVerdict, Message.tokenSymbol, found, fixed, if_true]
  | unauthorized found mintable foreign =>
    apply verdict_of_token
    simp only [tokenVerdict, Message.tokenSymbol, found, mintable, ne_eq, foreign,
      Bool.true_eq_false, not_false_eq_true, if_false, if_true]
  | amount found mintable owned outside =>
    apply verdict_of_token
    simp only [tokenVerdict, Message.tokenSymbol, found, mintable, owned, outside, ne_eq,
      Bool.true_eq_false, not_true, if_false, if_true]
  | fee mintable denom short =>
    exact verdict_of_fee (tokenVerdict_of_mintable mintable)
      (feeVerdict_of_short (formed.balance _) chargeable short)
  | units mintable covered reason =>
    exact verdict_of_units (tokenVerdict_of_mintable mintable)
      (feeVerdict_of_covered (formed.balance _) chargeable covered)
      (unitsVerdict_of_refused formed.total reason)

/-- A message that is refused fails the verdict, for the same cause. -/
theorem verdict_of_refused (sound : ledger.Sound params)
    (refused : Refused ledger params regime message cause) :
    verdict ledger params regime message = .error cause := by
  cases refused with
  | issue reason => exact verdict_of_issueRefused sound reason
  | mint reason => exact verdict_of_mintRefused sound reason

/-- A message that passes the verdict is not refused. -/
theorem runs_handle_of_verdict (sound : ledger.Sound params)
    (passed : verdict ledger params regime message = .ok ()) :
    (handle Chain.modules regime message).Runs ledger
      (fun _ after emitted => Applied ledger params regime message after ∧
        emitted = [createdEvent message]) fun _ => False := by
  refine (runs_handle sound regime message).mono (fun _ _ _ result => result) fun cause refused => ?_
  rw [verdict_of_refused sound refused] at passed
  contradiction

/-- Units that were created fit. -/
theorem fits_of_created {after : Ledger} {symbol : String} {units : Int64}
    (grown : after.supply symbol = ledger.supply symbol + unitsOf symbol units symbol) :
    ledger.supply symbol + units.toInt.natAbs < 2 ^ 128 := by
  have fits : after.supply symbol < 2 ^ 128 := after.total.units_lt symbol
  rw [unitsOf, if_pos rfl] at grown
  omega

/-- A message that is applied passes the verdict. -/
theorem verdict_of_applied (sound : ledger.Sound params) {after : Ledger}
    (applied : Applied ledger params regime message after) :
    verdict ledger params regime message = .ok () := by
  obtain ⟨_, issueFee, mintFee⟩ := (Params.validate_eq_ok_iff params).mp sound.usable
  have formed := sound.balanced.formed
  cases applied with
  | issue issued =>
    exact verdict_of_units (tokenVerdict_of_issuable issued.issuable)
      (feeVerdict_of_covered (formed.balance _) issueFee issued.covered)
      (unitsVerdict_of_fits issued.denom (fits_of_created (issued.moved.supply _)))
  | mint minted =>
    exact verdict_of_units (tokenVerdict_of_mintable minted.mintable)
      (feeVerdict_of_covered (formed.balance _) mintFee minted.covered)
      (unitsVerdict_of_fits (fun _ => minted.denom) (fits_of_created (minted.moved.supply _)))

end Issuance

end TokenLedger
