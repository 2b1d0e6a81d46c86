import TokenLedger.Proofs.Ledger.Books
import TokenLedger.Proofs.Ledger.Conservation
import TokenLedger.Proofs.Ledger.Entries

/-!
# The invariant of a ledger in use

From its genesis on, a ledger is balanced, keeps tokens that may be stored under their own symbols,
and has parameters that can be used. Every transition starts from this invariant, which is what
keeps it free of faults, and has to establish it again.
-/

namespace TokenLedger

/-- A ledger all of whose parameters are set. -/
structure Ledger.Configured (ledger : Ledger) (params : Params) : Prop where
  /-- The number of decimal places. -/
  maxDecimal : ledger.maxDecimal = some params.maxDecimal
  /-- The fee for issuing. -/
  issueFee : ledger.issueFee = some params.issueFee
  /-- The fee for minting. -/
  mintFee : ledger.mintFee = some params.mintFee

/-- A ledger that keeps tokens under their own symbols, each one that may be stored. -/
def Ledger.Registered (ledger : Ledger) : Prop :=
  ∀ symbol token, ledger.token symbol = some token → token.symbol = symbol ∧ token.Storable

/-- A ledger in use. -/
structure Ledger.Sound (ledger : Ledger) (params : Params) : Prop where
  /-- The balances sum to the total supply. -/
  balanced : ledger.Balanced
  /-- Tokens stand under their symbols. -/
  registered : ledger.Registered
  /-- The parameters are set. -/
  configured : ledger.Configured params
  /-- The parameters can be used. -/
  usable : params.validate = .ok ()

/-- A view of such a ledger holds the tokens of the ledger as a book. -/
theorem Ledger.Registered.holdsTokens {ledger : Ledger} (registered : ledger.Registered)
    {view : View} (holds : view.flatten.Holds ledger) : view.HoldsTokens ledger.token where
  getIn_keyOf symbol := View.getIn_slot holds (.token symbol)
  exists_symbol key _ present := by
    obtain ⟨slot, store, rfl⟩ := View.exists_slot_of_getIn holds present
    cases slot with
    | token symbol => exact ⟨symbol, rfl⟩
    | total | balance | maxDecimal | issueFee | mintFee => contradiction
  symbol_eq symbol token found := (registered symbol token found).1
  decode_encode symbol token found := (registered symbol token found).2.decode_encode

/-- A token that may be stored, put under its symbol, keeps the tokens in order. -/
theorem Ledger.Registered.setToken {ledger : Ledger} (registered : ledger.Registered)
    {token : Token} (storable : token.Storable) : (ledger.setToken token).Registered := by
  intro symbol found
  rw [Ledger.token_setToken]
  split
  · next same =>
    intro present
    injection present with present
    subst present
    exact ⟨same.symm, storable⟩
  · exact registered symbol found

/-- A token does not touch balances. -/
theorem Ledger.Balanced.setToken {ledger : Ledger} (balanced : ledger.Balanced) (token : Token) :
    (ledger.setToken token).Balanced :=
  ⟨⟨balanced.formed.balance, balanced.formed.total⟩, balanced.conserves⟩

/-- Parameters do not touch balances. -/
theorem Ledger.Balanced.setParams {ledger : Ledger} (balanced : ledger.Balanced)
    (params : Params) : (ledger.setParams params).Balanced :=
  ⟨⟨balanced.formed.balance, balanced.formed.total⟩, balanced.conserves⟩

/-- Parameters that are set are those set. -/
theorem Ledger.configured_setParams (ledger : Ledger) (params : Params) :
    (ledger.setParams params).Configured params :=
  ⟨rfl, rfl, rfl⟩

/-- Units move the same way whether a token is put in its place before or after. -/
theorem Ledger.Moved.setToken {ledger after : Ledger} {out into : Address → String → Nat}
    {created : String → Nat} (moved : ledger.Moved after out into created) (token : Token) :
    (ledger.setToken token).Moved (after.setToken token) out into created where
  frame := by
    rw [moved.frame]
    rfl
  formed := ⟨moved.formed.balance, moved.formed.total⟩
  units := moved.units
  supply := moved.supply

/-- Moving units touches neither tokens nor parameters. -/
theorem Ledger.Moved.sound {ledger after : Ledger} {params : Params}
    {out into : Address → String → Nat} {created : String → Nat}
    (moved : ledger.Moved after out into created) (sound : ledger.Sound params)
    (even : ∀ denom, ∑ address, into address denom = ∑ address, out address denom + created denom) :
    after.Sound params where
  balanced := moved.balanced sound.balanced even
  registered := by
    rw [moved.frame]
    exact sound.registered
  configured := by
    rw [moved.frame]
    exact ⟨sound.configured.maxDecimal, sound.configured.issueFee, sound.configured.mintFee⟩
  usable := sound.usable

/-- A token that may be stored keeps a ledger in use. -/
theorem Ledger.Sound.setToken {ledger : Ledger} {params : Params} (sound : ledger.Sound params)
    {token : Token} (storable : token.Storable) : (ledger.setToken token).Sound params where
  balanced := sound.balanced.setToken token
  registered := sound.registered.setToken storable
  configured := ⟨sound.configured.maxDecimal, sound.configured.issueFee, sound.configured.mintFee⟩
  usable := sound.usable

/-! ## Parameters that can be used -/

/-- A fee that can be charged. -/
structure Coins.Chargeable (fee : Coins) : Prop where
  /-- It is well-formed. -/
  formed : fee.WellFormed
  /-- It is something. -/
  filled : fee.isEmpty = false

/-- A fee that can be charged passes both tests of fees, and only such a fee does. -/
theorem Coins.chargeable_iff (fee : Coins) :
    fee.Chargeable ↔ fee.isValid = true ∧ fee.isAllPositive = true := by
  constructor
  · intro chargeable
    exact ⟨chargeable.formed.isValid, chargeable.formed.isAllPositive chargeable.filled⟩
  · intro ⟨valid, positive⟩
    obtain ⟨formed, filled⟩ := wellFormed_of_tests valid positive
    exact ⟨formed, filled⟩

/-- Parameters can be used if decimal places are not negative and both fees can be charged. -/
theorem Params.validate_eq_ok_iff (params : Params) :
    params.validate = .ok () ↔ ¬ params.maxDecimal < 0 ∧ params.issueFee.Chargeable ∧
      params.mintFee.Chargeable := by
  rw [Coins.chargeable_iff, Coins.chargeable_iff, validate]
  constructor
  · intro passed
    split at passed <;> [contradiction; skip]
    split at passed <;> [contradiction; skip]
    split at passed <;> [contradiction; skip]
    split at passed <;> [contradiction; skip]
    split at passed <;> [contradiction; skip]
    simp_all
  · rintro ⟨decimal, ⟨issueValid, issuePositive⟩, mintValid, mintPositive⟩
    simp [decimal, issueValid, issuePositive, mintValid, mintPositive]

/-- Where a fee is covered there are units. -/
theorem Coins.Chargeable.exists_supply {fee : Coins} (chargeable : fee.Chargeable)
    {ledger : Ledger} (balanced : ledger.Balanced) {sender : Address}
    (covered : ∀ denom, fee.units denom ≤ ledger.units sender denom) :
    ∃ denom, 0 < ledger.supply denom := by
  obtain ⟨denom, positive⟩ := chargeable.formed.isEmpty_eq_false_iff.mp chargeable.filled
  have held := covered denom
  have bound := balanced.units_le sender denom
  exact ⟨denom, by omega⟩

end TokenLedger
