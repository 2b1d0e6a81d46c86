import TokenLedger.Proofs.Chain.Verdicts

/-!
# What a message changes

A message that is applied puts a token in the place of another one and moves units; one that is
refused changes nothing. Either is a change of a ledger that is told by the verdict alone. Changes
of different symbols commute, since units are added up and a coin set is determined by its units,
and a message is judged in the same way after a change that keeps its token, what its signer holds
and the supply of its symbol.
-/

namespace TokenLedger

namespace Ledger

/-- The ledger with a token under a symbol, or with none. -/
def withToken (ledger : Ledger) (symbol : String) (found? : Option Token) : Ledger :=
  { ledger with token := Function.update ledger.token symbol found? }

/-- Ledgers of the same parameters, tokens and units are the same. -/
theorem Formed.eq_of_units {left right : Ledger} (leftFormed : left.Formed)
    (rightFormed : right.Formed) (frame : left = { right with
      token := left.token, balance := left.balance, total := left.total })
    (tokens : left.token = right.token)
    (units : ∀ address denom, left.units address denom = right.units address denom)
    (supply : ∀ denom, left.supply denom = right.supply denom) : left = right := by
  have balances : left.balance = right.balance := funext fun address =>
    (leftFormed.balance address).eq_of_units (rightFormed.balance address) (units address)
  have totals : left.total = right.total := leftFormed.total.eq_of_units rightFormed.total supply
  rw [frame, tokens, balances, totals]

end Ledger

/-- What is done to a ledger: a token takes the place of another one, and units move. -/
structure Change where
  /-- The symbol of the token. -/
  symbol : String
  /-- The token that is stored, by the one that was. -/
  stored : Option Token → Option Token
  /-- What goes out of each account. -/
  out : Address → String → Nat
  /-- What comes into it. -/
  into : Address → String → Nat
  /-- What is created. -/
  created : String → Nat

namespace Change

variable {ledger before after : Ledger} {change first second : Change}

/-- The change that leaves everything as it is. -/
def nothing (symbol : String) : Change where
  symbol
  stored := id
  out _ _ := 0
  into _ _ := 0
  created _ := 0

/-- A change leads from one ledger to another. -/
def Leads (change : Change) (before after : Ledger) : Prop :=
  (before.withToken change.symbol (change.stored (before.token change.symbol))).Moved after
    change.out change.into change.created

/-- Without a change a ledger stays as it is. -/
theorem leads_nothing (formed : ledger.Formed) (symbol : String) :
    (nothing symbol).Leads ledger ledger := by
  have same : ledger.withToken symbol (ledger.token symbol) = ledger := by
    rw [Ledger.withToken, Function.update_eq_self]
  unfold Leads nothing
  simp only [id]
  rw [same]
  exact ⟨rfl, formed, fun _ _ => rfl, fun _ => rfl⟩

namespace Leads

/-- The token of one symbol changes. -/
theorem token_eq (leads : change.Leads before after) : after.token =
    Function.update before.token change.symbol (change.stored (before.token change.symbol)) :=
  Ledger.Moved.token_eq leads

/-- The tokens of other symbols stay. -/
theorem token_of_ne (leads : change.Leads before after) {symbol : String}
    (apart : symbol ≠ change.symbol) : after.token symbol = before.token symbol := by
  rw [leads.token_eq, Function.update_of_ne apart]

/-- Parameters stay. -/
theorem frame (leads : change.Leads before after) : after = { before with
    token := after.token, balance := after.balance, total := after.total } := by
  rw [leads.token_eq]
  exact Ledger.Moved.frame leads

/-- Each account has what it had, less what went out, and what came in. -/
theorem units_add (leads : change.Leads before after) (address : Address) (denom : String) :
    after.units address denom + change.out address denom =
      before.units address denom + change.into address denom :=
  Ledger.Moved.units leads address denom

/-- The total supply grows by what is created. -/
theorem supply_eq (leads : change.Leads before after) (denom : String) :
    after.supply denom = before.supply denom + change.created denom :=
  Ledger.Moved.supply leads denom

/-- The coin sets are well-formed afterwards. -/
theorem formed (leads : change.Leads before after) : after.Formed := Ledger.Moved.formed leads

/-- Changes of different symbols commute. -/
theorem commute {left right forth back : Ledger} (apart : first.symbol ≠ second.symbol)
    (one : first.Leads ledger left) (onward : second.Leads left forth)
    (other : second.Leads ledger right) (again : first.Leads right back) : forth = back := by
  refine onward.formed.eq_of_units again.formed ?_ ?_ (fun address denom => ?_) fun denom => ?_
  · rw [onward.frame, one.frame, again.frame, other.frame]
  · rw [onward.token_eq, one.token_of_ne apart.symm, one.token_eq, again.token_eq,
      other.token_of_ne apart, other.token_eq, Function.update_comm apart]
  · have units := one.units_add address denom
    have more := onward.units_add address denom
    have swapped := other.units_add address denom
    have rest := again.units_add address denom
    omega
  · rw [onward.supply_eq, one.supply_eq, again.supply_eq, other.supply_eq, Nat.add_right_comm]

end Leads

end Change

/-! ## Messages -/

/-- The token that a message leaves under its symbol, by the one that is there. -/
def Message.stored : Message → Option Token → Option Token
  | .issue msg, _ => some msg.token
  | .mint msg, found? => found?.map fun token => Issuance.grown token msg.amount

/-- What a message changes, by the verdict on it. -/
def Message.change (params : Params) (message : Message) : Except AssetError Unit → Change
  | .error _ => .nothing message.tokenSymbol
  | .ok () => {
      symbol := message.tokenSymbol
      stored := message.stored
      out := Ledger.only message.signer (message.fee params).units
      into := fun address denom =>
        Ledger.only (Address.ofModule ModuleAccounts.feeCollector) (message.fee params).units
            address denom +
          Ledger.only message.signer (Issuance.unitsOf message.tokenSymbol message.units) address
            denom
      created := Issuance.unitsOf message.tokenSymbol message.units }

namespace Message

variable {params : Params} {message : Message} (decided : Except AssetError Unit)

/-- What a message changes it changes under its symbol. -/
theorem symbol_change : (message.change params decided).symbol = message.tokenSymbol := by
  cases decided <;> rfl

/-- A message takes units from no account but that of its signer. -/
theorem out_change {address : Address} (apart : address ≠ message.signer) (denom : String) :
    (message.change params decided).out address denom = 0 := by
  cases decided with
  | error _ => rfl
  | ok _ => exact if_neg apart

/-- A message gives units to no account but those of its signer and of the collector. -/
theorem into_change {address : Address} (apart : address ≠ message.signer)
    (other : address ≠ Address.ofModule ModuleAccounts.feeCollector) (denom : String) :
    (message.change params decided).into address denom = 0 := by
  cases decided with
  | error _ => rfl
  | ok _ =>
    change (if _ then _ else 0) + (if _ then _ else 0) = 0
    rw [if_neg other, if_neg apart]

/-- A message creates units of its symbol only. -/
theorem created_change {symbol : String} (apart : symbol ≠ message.tokenSymbol) :
    (message.change params decided).created symbol = 0 := by
  cases decided with
  | error _ => rfl
  | ok _ => exact if_neg apart

end Message

namespace Issuance

variable {ledger after : Ledger} {params : Params} {regime : Regime} {message : Message}

/-- A message that is applied leads to what it leaves. -/
theorem leads_of_applied (registered : ledger.Registered)
    (applied : Applied ledger params regime message after) :
    (message.change params (.ok ())).Leads ledger after := by
  cases applied with
  | issue issued => exact issued.moved
  | @mint msg token _ minted =>
    have named : (grown token msg.amount).symbol = msg.symbol :=
      (registered _ _ minted.mintable.found).1
    have placed : ledger.setToken (grown token msg.amount) = ledger.withToken msg.symbol
        (Message.stored (.mint msg) (ledger.token msg.symbol)) := by
      rw [minted.mintable.found, Ledger.setToken, named]
      rfl
    have moved := minted.moved
    rw [placed] at moved
    exact moved

/-- A message is judged in the same way after a change of another symbol that neither pays nor
charges its signer. -/
theorem verdict_of_leads {change : Change} (leads : change.Leads ledger after)
    (formed : ledger.Formed) (apart : message.tokenSymbol ≠ change.symbol)
    (out : ∀ denom, change.out message.signer denom = 0)
    (into : ∀ denom, change.into message.signer denom = 0)
    (created : change.created message.tokenSymbol = 0) :
    verdict after params regime message = verdict ledger params regime message := by
  have balance : after.balance message.signer = ledger.balance message.signer := by
    refine (leads.formed.balance _).eq_of_units (formed.balance _) fun denom => ?_
    have units := leads.units_add message.signer denom
    rw [out, into] at units
    exact units
  rw [verdict, verdict, leads.token_of_ne apart, balance, leads.supply_eq, created, Nat.add_zero]

/-- A message is judged in the same way after one of another signer about another symbol, unless it
is the collector of fees who signed it. -/
theorem verdict_of_change {other : Message} {decided : Except AssetError Unit}
    (leads : (other.change params decided).Leads ledger after) (formed : ledger.Formed)
    (signers : message.signer ≠ other.signer)
    (collector : message.signer ≠ Address.ofModule ModuleAccounts.feeCollector)
    (symbols : message.tokenSymbol ≠ other.tokenSymbol) :
    verdict after params regime message = verdict ledger params regime message := by
  refine verdict_of_leads leads formed ?_ (other.out_change decided signers)
    (other.into_change decided signers collector) (other.created_change decided symbols)
  rw [Message.symbol_change]
  exact symbols

end Issuance

end TokenLedger
