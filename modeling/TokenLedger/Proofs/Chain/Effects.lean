import TokenLedger.Proofs.Chain.Changes
import TokenLedger.Proofs.Chain.Denominations
import TokenLedger.Proofs.Chain.Readings
import TokenLedger.Proofs.Chain.Supply

/-!
# What an accepted message does

A message that is accepted pays its fee to the collector, creates its units for its signer and
leaves one token under its symbol, and that is all: every other token and the parameters stay, and
one event reports what was created. Amounts stand on both sides of each equation, so the same
equation holds where the signer is the collector of fees or the token module.
-/

namespace TokenLedger

namespace Message

/-- The key under which the event of a message reports what was created. -/
def reportKey : Message → String
  | .issue _ => "issue_token"
  | .mint _ => "mint_token"

/-- The token that stands under the symbol of a message before it and the one after it. -/
inductive Leaves : Message → Option Token → Option Token → Prop
  /-- Where there was none, issuing leaves the token that was asked for, under its symbol in small
  letters and owned by the sender. -/
  | issued (msg : IssueMsg) : Leaves (.issue msg) none (some {
      symbol := Token.lowered msg.symbol
      name := msg.name
      decimal := msg.decimal
      totalSupply := msg.totalSupply
      mintable := msg.mintable
      description := msg.description
      owner := msg.sender })
  /-- Minting raises the total supply by the amount. -/
  | minted {msg : MintMsg} {token : Token} {totalSupply : Int64}
    (raised : totalSupply.toInt = token.totalSupply.toInt + msg.amount.toInt) :
    Leaves (.mint msg) (some token) (some { token with totalSupply })

/-- What a message that is accepted does to what can be read. -/
structure Effect (message : Message) (before after : Reading) : Prop where
  /-- Accounts: the signer pays the fee and gets the units, and the collector gets the fee. -/
  balance : ∀ address denom,
    ((after.balance address).units denom : Int) +
        (if address = message.signer then (message.fee before.params).units denom else 0) =
      (before.balance address).units denom +
        (if address = Address.ofModule ModuleAccounts.feeCollector then
          (message.fee before.params).units denom else 0) +
        (if address = message.signer ∧ denom = message.tokenSymbol then message.units.toInt else 0)
  /-- The total supply grows by the units. -/
  total : ∀ denom, (after.total.units denom : Int) =
    before.total.units denom + if denom = message.tokenSymbol then message.units.toInt else 0
  /-- The token of the message is issued or grows. -/
  token : message.Leaves (before.token message.tokenSymbol) (after.token message.tokenSymbol)
  /-- Every other token stays. -/
  others : ∀ symbol, symbol ≠ message.tokenSymbol → after.token symbol = before.token symbol
  /-- The parameters stay. -/
  params : after.params = before.params

end Message

namespace Issuance

variable {ledger after : Ledger} {params : Params} {regime : Regime} {message : Message}

/-- The units of an applied message are not negative. -/
theorem Applied.units_nonneg (applied : Applied ledger params regime message after) :
    0 ≤ message.units.toInt := by
  cases applied with
  | issue issued => exact issued.issuable.totalSupply_nonneg
  | mint minted => exact Int.le_of_lt minted.mintable.positive

/-- An applied message leaves its token. -/
theorem Applied.leaves (applied : Applied ledger params regime message after)
    (registered : ledger.Registered) :
    message.Leaves (ledger.token message.tokenSymbol) (after.token message.tokenSymbol) := by
  have stored := (leads_of_applied registered applied).token_eq
  rw [Message.symbol_change] at stored
  rw [stored, Function.update_self]
  cases applied with
  | issue issued =>
    rw [show ledger.token (Message.issue _).tokenSymbol = none from issued.issuable.free]
    exact .issued _
  | @mint msg token _ minted =>
    rw [show ledger.token (Message.mint msg).tokenSymbol = some token from minted.mintable.found]
    have low := (toInt_totalSupply (registered _ _ minted.mintable.found).2).1
    exact .minted (add_within low minted.mintable.positive minted.mintable.within).2

/-- An applied message has its effect. -/
theorem Applied.effect (applied : Applied ledger params regime message after)
    (registered : ledger.Registered) :
    message.Effect (ledger.reading params) (after.reading params) := by
  have leads := leads_of_applied registered applied
  have units := applied.units_nonneg
  refine ⟨fun address denom => ?_, fun denom => ?_, applied.leaves registered,
    fun symbol apart => ?_, rfl⟩
  · have moved : after.units address denom +
          Ledger.only message.signer (message.fee params).units address denom =
        ledger.units address denom +
          (Ledger.only (Address.ofModule ModuleAccounts.feeCollector) (message.fee params).units
              address denom +
            Ledger.only message.signer (unitsOf message.tokenSymbol message.units) address denom) :=
      leads.units_add address denom
    have created := unitsOf_eq units message.tokenSymbol denom
    change (after.units address denom : Int) + _ = ledger.units address denom + _ + _
    simp only [Ledger.only] at moved
    simp only [Ledger.reading, ite_and]
    rw [← created]
    split_ifs at moved ⊢ <;> omega
  · have created : after.supply denom = ledger.supply denom +
        unitsOf message.tokenSymbol message.units denom := leads.supply_eq denom
    change (after.supply denom : Int) = ledger.supply denom + _
    rw [created, Int.natCast_add, unitsOf_eq units]
  · refine leads.token_of_ne ?_
    rw [Message.symbol_change]
    exact apart

/-- The event of an applied message: its units, and then the symbol. -/
theorem Applied.createdEvent_eq (applied : Applied ledger params regime message after) :
    createdEvent message = ⟨"message", [⟨message.reportKey,
      Decimal.intText message.units.toInt ++ message.tokenSymbol⟩]⟩ := by
  obtain ⟨count, counted⟩ := Int.eq_ofNat_of_zero_le applied.units_nonneg
  have digits : (magnitude message.units).text = Decimal.intText message.units.toInt := by
    change Decimal.text message.units.toInt.natAbs = _
    rw [counted]
    rfl
  rw [← digits]
  cases message <;> rfl

end Issuance

namespace Chain

/-- After any requests to a chain that was created, a message that is accepted in the open block has
its effect on what the block reads as, changes nothing else of the chain, and is answered with the
one event of what it created. -/
theorem effect_of_delivered {config : NodeConfig} {fresh : Chain}
    (created : create config = .ok fresh) (requests : List Request) {block : OpenBlock}
    (isOpen : (fresh.serve requests).block = some block) {message : Message} {result : TxResult}
    {next : Chain} (delivered : (fresh.serve requests).deliver message = (.ok result, next))
    (accepted : result.code = 0) :
    let chain := fresh.serve requests
    ∃ writes before after,
      next = chain.withWrites block writes ∧
      (block.view chain.committed).ReadsAs before ∧
      (OpenBlock.view { block with writes } chain.committed).ReadsAs after ∧
      message.Effect before after ∧
      result.events = [⟨"message", [⟨message.reportKey,
        Decimal.intText message.units.toInt ++ message.tokenSymbol⟩]⟩] := by
  intro chain
  obtain ⟨ledger, params, processes, sound, _⟩ := exists_open_of_serve created requests isOpen
  rcases deliver_cases processes sound message with
    ⟨cause, _, rejected⟩ | ⟨after, writes, admitted, applied, answered, left⟩
  · rw [rejected] at delivered
    obtain ⟨same, _⟩ := Prod.mk.inj delivered
    rw [← Except.ok.inj same] at accepted
    exact absurd accepted (code_rejected_ne_zero cause)
  · rw [answered] at delivered
    obtain ⟨same, chains⟩ := Prod.mk.inj delivered
    have afterSound := applied.sound sound (checkBasic_of_admission admitted)
    refine ⟨writes, ledger.reading params, after.reading params, chains.symm,
      sound.readsAs processes.holds, afterSound.readsAs left.holds,
      applied.effect sound.registered, ?_⟩
    rw [← Except.ok.inj same, ← applied.createdEvent_eq]
    rfl

/-- In the first block of a small chain a token of a thousand units is issued, and its sender has
them besides what the fee leaves. -/
theorem effect_of_delivered_sample : ∃ block writes before after,
    Sample.inFirstBlock.block = some block ∧
    (block.view Sample.inFirstBlock.committed).ReadsAs before ∧
    (OpenBlock.view { block with writes } Sample.inFirstBlock.committed).ReadsAs after ∧
    (Message.issue Sample.barkIssue).Effect before after ∧
    Sample.inFirstBlock.deliver (.issue Sample.barkIssue) =
      (.ok (.accepted [⟨"message", [⟨"issue_token", "1000bark"⟩]⟩]),
        Sample.inFirstBlock.withWrites block writes) := by
  obtain ⟨block, writes, isOpen, delivered⟩ := Sample.exists_deliver_barkIssue
  obtain ⟨left, before, after, same, reads, later, effect, _⟩ := effect_of_delivered Sample.created
    [.call (.initChain Sample.genesis), .call (.beginBlock 1)] isOpen delivered rfl
  rw [same] at delivered
  exact ⟨block, left, before, after, isOpen, reads, later, effect, delivered⟩

end Chain

end TokenLedger
