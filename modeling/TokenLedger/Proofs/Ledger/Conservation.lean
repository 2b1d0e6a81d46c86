import Mathlib.Algebra.BigOperators.Group.Finset.Piecewise
import Mathlib.Algebra.Order.BigOperators.Group.Finset
import Mathlib.Data.FinEnum
import Mathlib.Data.Fintype.Vector
import TokenLedger.Proofs.Ledger.Balances

/-!
# Units are neither lost nor made up

What an operation of the supply ledger moves is told by three amounts: what went out of each
account, what came into it, and what was created. If what came in is what went out and what was
created, the sum over all accounts stays the total supply. Transfers and the creation of units are
of this kind. Since the total fits, no transfer of a balanced ledger can run out of range.
-/

namespace TokenLedger

/-- Addresses are finitely many, being lists of bytes of one length. -/
noncomputable instance : Fintype Address :=
  let vector (address : Address) : List.Vector UInt8 20 := ⟨address.bytes, address.length_eq⟩
  Fintype.ofInjective vector fun _ _ same => Address.ext_bytes (congrArg Subtype.val same)

namespace Ledger

/-- A ledger of well-formed coin sets whose balances sum to the total supply. -/
structure Balanced (ledger : Ledger) : Prop where
  /-- The coin sets are well-formed. -/
  formed : ledger.Formed
  /-- The balances sum to the total supply. -/
  conserves : ∀ denom, ∑ address, ledger.units address denom = ledger.supply denom

/-- The empty ledger is balanced. -/
theorem balanced_empty : Ledger.empty.Balanced where
  formed := ⟨fun _ => Coins.wellFormed_empty, Coins.wellFormed_empty⟩
  conserves denom := by
    have nothing : ∀ address, Ledger.empty.units address denom = 0 := fun _ => rfl
    rw [Finset.sum_congr rfl fun address _ => nothing address, Finset.sum_const_zero]
    rfl

/-- Units of one account and of no other. -/
def only (address : Address) (amount : String → Nat) (other : Address) (denom : String) : Nat :=
  if other = address then amount denom else 0

/-- The units of one account alone sum to these. -/
theorem sum_only (address : Address) (amount : String → Nat) (denom : String) :
    ∑ other, only address amount other denom = amount denom := by
  simp [only]

/-- What an operation moved: what went out of each account, what came into it, what was created. -/
structure Moved (ledger after : Ledger) (out into : Address → String → Nat)
    (created : String → Nat) : Prop where
  /-- Nothing but balances and the total supply changed. -/
  frame : after = { ledger with balance := after.balance, total := after.total }
  /-- The coin sets are well-formed afterwards. -/
  formed : after.Formed
  /-- Each account has what it had, less what went out, and what came in. -/
  units : ∀ address denom,
    after.units address denom + out address denom = ledger.units address denom + into address denom
  /-- The total supply has grown by what was created. -/
  supply : ∀ denom, after.supply denom = ledger.supply denom + created denom

/-- Moving units does not touch tokens. -/
theorem Moved.token_eq {ledger after : Ledger} {out into : Address → String → Nat}
    {created : String → Nat} (moved : Moved ledger after out into created) :
    after.token = ledger.token := by
  rw [moved.frame]

/-- A balanced ledger stays balanced if what came in went out or was created. -/
theorem Moved.balanced {ledger after : Ledger} {out into : Address → String → Nat}
    {created : String → Nat} (moved : Moved ledger after out into created)
    (balanced : ledger.Balanced)
    (even : ∀ denom, ∑ address, into address denom = ∑ address, out address denom + created denom) :
    after.Balanced where
  formed := moved.formed
  conserves denom := by
    have sums : ∑ address, (after.units address denom + out address denom) =
        ∑ address, (ledger.units address denom + into address denom) :=
      Finset.sum_congr rfl fun address _ => moved.units address denom
    rw [Finset.sum_add_distrib, Finset.sum_add_distrib, balanced.conserves, even] at sums
    rw [moved.supply]
    omega

/-- Units created in one account and moved to another are as good as created there. -/
theorem Moved.handOver {ledger middle after : Ledger} {first second : Address}
    {amount : String → Nat}
    (creation : ledger.Moved middle (fun _ _ => 0) (only first amount) amount)
    (transfer : middle.Moved after (only first amount) (only second amount) fun _ => 0) :
    ledger.Moved after (fun _ _ => 0) (only second amount) amount where
  frame := by
    have frame := transfer.frame
    rw [creation.frame] at frame
    exact frame
  formed := transfer.formed
  units address denom := by
    have created := creation.units address denom
    have moved := transfer.units address denom
    omega
  supply denom := by
    have created := creation.supply denom
    have moved := transfer.supply denom
    omega

/-- What two operations moved together. -/
theorem Moved.trans {ledger middle after : Ledger} {out into out' into' : Address → String → Nat}
    {created created' : String → Nat} (first : ledger.Moved middle out into created)
    (second : middle.Moved after out' into' created') :
    ledger.Moved after (fun address denom => out address denom + out' address denom)
      (fun address denom => into address denom + into' address denom)
      (fun denom => created denom + created' denom) where
  frame := by
    have frame := second.frame
    rw [first.frame] at frame
    exact frame
  formed := second.formed
  units address denom := by
    have before := first.units address denom
    have later := second.units address denom
    omega
  supply denom := by
    have before := first.supply denom
    have later := second.supply denom
    omega

/-- An account has no more units than all accounts together. -/
theorem le_sum_units (units : Address → Nat) (address : Address) :
    units address ≤ ∑ other, units other :=
  Finset.single_le_sum (fun _ _ => Nat.zero_le _) (Finset.mem_univ address)

/-- Two accounts have no more units than all accounts together. -/
theorem add_le_sum_units (units : Address → Nat) {first second : Address}
    (different : first ≠ second) : units first + units second ≤ ∑ other, units other := by
  rw [← Finset.sum_pair different]
  exact Finset.sum_le_sum_of_subset (Finset.subset_univ _)

/-- An account has no more units than there are. -/
theorem Balanced.units_le {ledger : Ledger} (balanced : ledger.Balanced) (address : Address)
    (denom : String) : ledger.units address denom ≤ ledger.supply denom := by
  rw [← balanced.conserves]
  exact le_sum_units (fun other => ledger.units other denom) address

end Ledger

namespace Supply

open TokenLedger.Action

variable {ledger : Ledger}

/-- Why a transfer is refused of which the sender holds these coins. -/
inductive TransferRefused (held amount : Coins) : BaseError → Prop
  /-- The amount is not a well-formed set. -/
  | malformed (invalid : amount.isValid = false) :
    TransferRefused held amount (.malformedCoins amount)
  /-- The sender does not have the amount. -/
  | insufficient (valid : amount.isValid = true) (missing : held.sub? amount = none) :
    TransferRefused held amount (.insufficientCoins held amount)

/-- What was taken from one account and added to another, which may be the same, has moved. -/
theorem units_of_taken_added {held : Address → Coins} {sender recipient : Address}
    {amount rest coins : Coins}
    (taken : ∀ denom, rest.units denom + amount.units denom = (held sender).units denom)
    (added : ∀ denom, coins.units denom =
      (Function.update held sender rest recipient).units denom + amount.units denom)
    (address : Address) (denom : String) :
    (Function.update (Function.update held sender rest) recipient coins address).units denom +
        Ledger.only sender amount.units address denom =
      (held address).units denom + Ledger.only recipient amount.units address denom := by
  have out := taken denom
  have into := added denom
  rw [Function.update_apply] at into
  rw [Function.update_apply, Function.update_apply, Ledger.only, Ledger.only]
  split <;> split <;> simp_all

/-- What the recipient of a transfer would have is part of the total supply, which fits. -/
theorem units_add_lt {held : Address → Coins} {total : Coins} {denom : String}
    (sums : ∑ address, (held address).units denom = total.units denom)
    (sender recipient : Address) {amount rest : Coins}
    (taken : rest.units denom + amount.units denom = (held sender).units denom) :
    (Function.update held sender rest recipient).units denom + amount.units denom < 2 ^ 128 := by
  have fits : total.units denom < 2 ^ 128 := total.units_lt denom
  rw [Function.update_apply]
  by_cases same : recipient = sender
  · have bound := Ledger.le_sum_units (fun address => (held address).units denom) sender
    rw [if_pos same]
    omega
  · have bound := Ledger.add_le_sum_units (fun address => (held address).units denom) same
    rw [if_neg same]
    omega

/-- A transfer moves units from the sender to the recipient, who may be the same; in a balanced
ledger it is refused only for its amount or for lack of units. -/
theorem runs_transfer (balanced : ledger.Balanced) (sender recipient : Address) (amount : Coins) :
    (transfer sender recipient amount).Runs ledger
      (fun _ after emitted => emitted = [] ∧ amount.isValid = true ∧
        (∀ denom, amount.units denom ≤ ledger.units sender denom) ∧
        ledger.Moved after (Ledger.only sender amount.units) (Ledger.only recipient amount.units)
          fun _ => 0)
      (TransferRefused (ledger.balance sender) amount) := by
  unfold transfer
  apply (runs_requireValid ledger amount).bind_refused
  · rintro cause ⟨invalid, rfl⟩
    exact .malformed invalid
  rintro _ _ _ ⟨valid, rfl, rfl⟩
  apply (runs_debit balanced.formed sender valid).bind_refused
  · rintro cause ⟨missing, rfl⟩
    exact .insufficient valid missing
  rintro _ middle _ ⟨rfl, middleFormed, rest, rfl, taken⟩
  have covered : ∀ denom, amount.units denom ≤ ledger.units sender denom := fun denom => by
    have := taken denom
    omega
  apply (runs_credit middleFormed recipient valid).mono
  · rintro _ after _ ⟨rfl, afterFormed, coins, rfl, added⟩
    have units := units_of_taken_added taken added
    exact ⟨rfl, valid, covered, rfl, afterFormed, units, fun _ => rfl⟩
  · rintro cause ⟨denom, rfl, exceeds⟩
    have fits := units_add_lt (balanced.conserves denom) sender recipient (taken denom)
    exact absurd fits (Nat.not_lt.mpr exceeds)

/-- Why units are not created. -/
inductive CreationRefused (ledger : Ledger) (amount : Coins) : BaseError → Prop
  /-- The amount is not a well-formed set. -/
  | malformed (invalid : amount.isValid = false) :
    CreationRefused ledger amount (.malformedCoins amount)
  /-- The total supply would not fit. -/
  | overflow (valid : amount.isValid = true) (denom : String)
    (exceeds : 2 ^ 128 ≤ ledger.supply denom + amount.units denom) :
    CreationRefused ledger amount (.invalidCoins (.overflow denom))

/-- Units created in an account are new; they are refused if the total supply does not fit. -/
theorem runs_fund (balanced : ledger.Balanced) (address : Address) {amount : Coins}
    (filled : ∃ denom, 0 < ledger.supply denom + amount.units denom) :
    (fund address amount).Runs ledger
      (fun _ after emitted => emitted = [] ∧ amount.isValid = true ∧
        ledger.Moved after (fun _ _ => 0) (Ledger.only address amount.units) amount.units)
      (CreationRefused ledger amount) := by
  unfold fund
  apply (runs_requireValid ledger amount).bind_refused
  · rintro cause ⟨invalid, rfl⟩
    exact .malformed invalid
  rintro _ _ _ ⟨valid, rfl, rfl⟩
  apply (runs_credit balanced.formed address valid).bind_refused
  · rintro cause ⟨denom, rfl, exceeds⟩
    have bound := balanced.units_le address denom
    exact .overflow valid denom (by omega)
  rintro _ middle _ ⟨rfl, middleFormed, coins, rfl, added⟩
  apply (runs_inflate middleFormed valid filled).mono
  · rintro _ after _ ⟨rfl, afterFormed, sum, rfl, grown⟩
    refine ⟨rfl, valid, rfl, afterFormed, fun other denom => ?_, grown⟩
    change ((ledger.setBalance address coins).units other denom) + 0 = _
    rw [Ledger.units_setBalance, Ledger.only]
    split
    · next same =>
      rw [same, added, Nat.add_zero]
    · rfl
  · rintro cause ⟨denom, rfl, exceeds⟩
    exact .overflow valid denom exceeds

/-- Coins sent to a declared module are transferred to its account. -/
theorem sendToModule_eq_transfer {modules : ModuleAccounts} {name : String}
    {permissions : List ModulePermission} (declared : modules.permissions? name = some permissions)
    (sender : Address) (amount : Coins) :
    sendToModule modules sender name amount = transfer sender (Address.ofModule name) amount := by
  unfold sendToModule requireModule
  rw [declared]
  rfl

/-- Coins sent from a declared module are transferred from its account. -/
theorem sendFromModule_eq_transfer {modules : ModuleAccounts} {name : String}
    {permissions : List ModulePermission} (declared : modules.permissions? name = some permissions)
    (recipient : Address) (amount : Coins) :
    sendFromModule modules name recipient amount =
      transfer (Address.ofModule name) recipient amount := by
  unfold sendFromModule requireModule
  rw [declared]
  rfl

/-- A module that may mint creates units like any account that is funded. -/
theorem mintToModule_eq_fund {modules : ModuleAccounts} {name : String}
    {permissions : List ModulePermission} (declared : modules.permissions? name = some permissions)
    (minter : modules.mayMint name = true) (amount : Coins) :
    mintToModule modules name amount = fund (Address.ofModule name) amount := by
  unfold mintToModule requireModule fund
  rw [declared, if_pos minter]
  rfl

end Supply

end TokenLedger
