import TokenLedger.Proofs.Ledger.Runs
import TokenLedger.Proofs.Token.Record
import TokenLedger.Schedule

/-!
# Tokens and parameters in a ledger

The token book and the parameters by what they do to a ledger. Creating and replacing a token is
free of faults if the symbol is free or taken as it has to be, reading one if its record was written
for a token that may be stored, and reading a parameter exactly if it is set.
-/

namespace TokenLedger

open TokenLedger.Action

variable {ε : Type} {ledger : Ledger}

namespace TokenBook

/-- Whether there is a token is what the ledger says. -/
theorem yields_contains (ledger : Ledger) (symbol : String) :
    (contains symbol : Action ε Bool).Yields ledger (ledger.token symbol).isSome ledger := by
  have read := yields_hasKey (ε := ε) ledger (.token symbol)
  rwa [Ledger.record?, Option.isSome_map] at read

/-- A token is created under a symbol that is free. -/
theorem yields_create (token : Token) (free : ledger.token token.symbol = none) :
    (create token : Action ε Unit).Yields ledger () (ledger.setToken token) := by
  apply (yields_contains ledger token.symbol).then
  rw [free]
  exact yields_setKey (.token token.symbol) token.encode (ledger.record?_setToken token)

/-- A token is replaced under a symbol that is taken. -/
theorem yields_replace {token old : Token} (taken : ledger.token token.symbol = some old) :
    (replace token : Action ε Unit).Yields ledger () (ledger.setToken token) := by
  apply (yields_contains ledger token.symbol).then
  rw [taken]
  exact yields_setKey (.token token.symbol) token.encode (ledger.record?_setToken token)

/-- The token of a symbol is what the ledger says, if it may be stored. -/
theorem yields_find? {symbol : String}
    (storable : ∀ token, ledger.token symbol = some token → token.Storable) :
    (find? symbol : Action ε (Option Token)).Yields ledger (ledger.token symbol) ledger := by
  apply (yields_getKey ledger (.token symbol)).then
  rw [Ledger.record?]
  cases found : ledger.token symbol with
  | none => exact yields_pure ledger none
  | some token =>
    exact (yields_ofFaulty (storable token found).decode_encode).then (yields_pure ledger _)

end TokenBook

namespace Params

variable {α : Type} [JsonForm α]

/-- A key that the subspace accepts may be used. -/
theorem yields_requireKey {key : String} (known : subspace.keys.contains key = true) :
    (subspace.requireKey key : Action ε Unit).Yields ledger () ledger := by
  rw [Subspace.requireKey, if_pos known]
  exact yields_pure ledger ()

/-- A parameter that is set is read. -/
theorem yields_get {key : String} (slot : Slot) {value : α}
    (known : subspace.keys.contains key = true) (store : slot.storeName = .params)
    (place : slot.localKey = subspace.keyBytes key)
    (set : ledger.record? slot = some (JsonForm.writeBytes value))
    (keeps : JsonForm.Keeps value) :
    (subspace.get key : Action ε α).Yields ledger value ledger := by
  have read := yields_getKey (ε := ε) ledger slot
  rw [store, place, set] at read
  have found : (subspace.get? key : Action ε (Option α)).Yields ledger (some value) ledger := by
    refine (yields_requireKey known).then (read.then ?_)
    simp only [keeps.readBytes?_writeBytes]
    exact yields_pure ledger _
  exact found.then (yields_pure ledger value)

/-- Reading a parameter that was never set runs into a fault. -/
theorem faults_get {key : String} (slot : Slot) (known : subspace.keys.contains key = true)
    (store : slot.storeName = .params) (place : slot.localKey = subspace.keyBytes key)
    (unset : ledger.record? slot = none) :
    (subspace.get key : Action ε α).Faults ledger (.unsetParameter key subspace.name) := by
  have read := yields_getKey (ε := ε) ledger slot
  rw [store, place, unset] at read
  have absent : (subspace.get? key : Action ε (Option α)).Yields ledger none ledger :=
    (yields_requireKey known).then (read.then (yields_pure ledger none))
  refine Runs.faults absent ?_
  rintro _ _ _ ⟨rfl, rfl, rfl⟩
  exact faults_fail _ _

/-- A parameter is set in its slot. -/
theorem yields_set {key : String} (slot : Slot) (value : α) {after : Ledger}
    (known : subspace.keys.contains key = true) (store : slot.storeName = .params)
    (place : slot.localKey = subspace.keyBytes key)
    (records : ∀ other, after.record? other =
      if slot = other then some (JsonForm.writeBytes value) else ledger.record? other) :
    (subspace.set key value : Action ε Unit).Yields ledger () after := by
  have written := yields_setKey (ε := ε) slot (JsonForm.writeBytes value) records
  rw [store, place] at written
  exact (yields_requireKey known).then written

/-- The number of decimal places is read if it is set. -/
theorem yields_getMaxDecimal {maxDecimal : Int8} (set : ledger.maxDecimal = some maxDecimal) :
    (getMaxDecimal : Action ε Int8).Yields ledger maxDecimal ledger :=
  yields_get .maxDecimal (by decide) rfl rfl (by rw [Ledger.record?, set, Option.map_some])
    (JsonForm.keeps_int8 maxDecimal)

/-- The fee for issuing is read if it is set. -/
theorem yields_getIssueFee {fee : Coins} (set : ledger.issueFee = some fee) :
    (getIssueFee : Action ε Coins).Yields ledger fee ledger :=
  yields_get .issueFee (by decide) rfl rfl (by rw [Ledger.record?, set, Option.map_some])
    (JsonForm.keeps_coins fee)

/-- The fee for minting is read if it is set. -/
theorem yields_getMintFee {fee : Coins} (set : ledger.mintFee = some fee) :
    (getMintFee : Action ε Coins).Yields ledger fee ledger :=
  yields_get .mintFee (by decide) rfl rfl (by rw [Ledger.record?, set, Option.map_some])
    (JsonForm.keeps_coins fee)

/-- The number of decimal places is set. -/
theorem yields_setMaxDecimal (ledger : Ledger) (maxDecimal : Int8) :
    (setMaxDecimal maxDecimal : Action ε Unit).Yields ledger ()
      { ledger with maxDecimal := some maxDecimal } :=
  yields_set .maxDecimal maxDecimal (by decide) rfl rfl fun other => by
    cases other <;> rfl

/-- The fee for issuing is set. -/
theorem yields_setIssueFee (ledger : Ledger) (fee : Coins) :
    (setIssueFee fee : Action ε Unit).Yields ledger () { ledger with issueFee := some fee } :=
  yields_set .issueFee fee (by decide) rfl rfl fun other => by
    cases other <;> rfl

/-- The fee for minting is set. -/
theorem yields_setMintFee (ledger : Ledger) (fee : Coins) :
    (setMintFee fee : Action ε Unit).Yields ledger () { ledger with mintFee := some fee } :=
  yields_set .mintFee fee (by decide) rfl rfl fun other => by
    cases other <;> rfl

/-- All parameters are set. -/
theorem yields_save (ledger : Ledger) (params : Params) :
    (save params : Action ε Unit).Yields ledger () (ledger.setParams params) :=
  (yields_setMaxDecimal ledger params.maxDecimal).then
    ((yields_setIssueFee _ params.issueFee).then (yields_setMintFee _ params.mintFee))

/-- All parameters are read if they are set. -/
theorem yields_load {params : Params} (maxDecimal : ledger.maxDecimal = some params.maxDecimal)
    (issueFee : ledger.issueFee = some params.issueFee)
    (mintFee : ledger.mintFee = some params.mintFee) :
    (load : Action ε Params).Yields ledger params ledger :=
  (yields_getMaxDecimal maxDecimal).then ((yields_getIssueFee issueFee).then
    ((yields_getMintFee mintFee).then (yields_pure ledger _)))

/-- The parameters are not loaded before they are set. -/
theorem faults_load (unset : ledger.maxDecimal = none) :
    (load : Action ε Params).Faults ledger (.unsetParameter maxDecimalKey subspace.name) :=
  (faults_get .maxDecimal (by decide) rfl rfl
    (by rw [Ledger.record?, unset, Option.map_none])).bind _

end Params

end TokenLedger
