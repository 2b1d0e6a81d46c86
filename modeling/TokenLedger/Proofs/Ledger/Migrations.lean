import TokenLedger.Proofs.Ledger.Sound

/-!
# What the hooks of upgrades do to a ledger

A migration changes the parameters and nothing else, and from parameters that can be used it makes
parameters that can be used. Running the hooks of a phase therefore leaves a ledger in use, whose
parameters are those before with every migration applied in order.
-/

namespace TokenLedger

open TokenLedger.Action

variable {ε : Type} {ledger : Ledger} {params : Params}

namespace Migration

/-- The parameters that a migration leaves. -/
def apply (params : Params) : Migration → Params
  | .setParams => tokenIssueParams
  | .lowerFees => { params with issueFee := loweredIssueFee, mintFee := loweredMintFee }

/-- The parameters that migrations leave one after the other. -/
def applyAll (params : Params) (migrations : List Migration) : Params :=
  migrations.foldl apply params

/-- Migrations one after the other are all of them. -/
theorem applyAll_append (params : Params) (first last : List Migration) :
    applyAll params (first ++ last) = applyAll (applyAll params first) last :=
  List.foldl_append

/-- A migration leaves parameters that can be used. -/
theorem validate_apply (usable : params.validate = .ok ()) (migration : Migration) :
    (apply params migration).validate = .ok () := by
  cases migration with
  | setParams =>
    change tokenIssueParams.validate = .ok ()
    decide
  | lowerFees =>
    rw [Params.validate_eq_ok_iff] at usable ⊢
    have issueFee : loweredIssueFee.Chargeable := (Coins.chargeable_iff _).mpr (by decide)
    have mintFee : loweredMintFee.Chargeable := (Coins.chargeable_iff _).mpr (by decide)
    exact ⟨usable.1, issueFee, mintFee⟩

/-- Migrations leave parameters that can be used. -/
theorem validate_applyAll (usable : params.validate = .ok ()) (migrations : List Migration) :
    (applyAll params migrations).validate = .ok () := by
  induction migrations generalizing params with
  | nil => exact usable
  | cons migration rest ih => exact ih (validate_apply usable migration)

end Migration

namespace Ledger

/-- Setting the parameters that are set changes nothing. -/
theorem Configured.setParams_eq (configured : ledger.Configured params) :
    ledger.setParams params = ledger := by
  unfold setParams
  rw [← configured.maxDecimal, ← configured.issueFee, ← configured.mintFee]

/-- Other parameters that can be used keep a ledger in use. -/
theorem Sound.setParams (sound : ledger.Sound params) {changed : Params}
    (usable : changed.validate = .ok ()) : (ledger.setParams changed).Sound changed where
  balanced := sound.balanced.setParams changed
  registered := sound.registered
  configured := configured_setParams ledger changed
  usable := usable

end Ledger

namespace Migration

/-- A migration is carried out by setting the parameters that it leaves. -/
theorem yields_carryOut (configured : ledger.Configured params) (migration : Migration) :
    (carryOut migration : Action ε Unit).Yields ledger ()
      (ledger.setParams (apply params migration)) := by
  cases migration with
  | setParams => exact Params.yields_save ledger tokenIssueParams
  | lowerFees =>
    have lowering : (carryOut .lowerFees : Action ε Unit).Yields ledger ()
        { ledger with issueFee := some loweredIssueFee, mintFee := some loweredMintFee } :=
      (Params.yields_setIssueFee ledger loweredIssueFee).then
        (Params.yields_setMintFee _ loweredMintFee)
    have decimal : ledger.maxDecimal = some (apply params .lowerFees).maxDecimal :=
      configured.maxDecimal
    rw [Ledger.setParams, ← decimal]
    exact lowering

/-- Hooks are carried out one after the other. -/
theorem yields_runHooks (configured : ledger.Configured params) (hooks : List Migration) :
    (Registry.runHooks carryOut hooks : Action ε Unit).Yields ledger ()
      (ledger.setParams (applyAll params hooks)) := by
  induction hooks generalizing ledger params with
  | nil =>
    change Yields _ ledger () (ledger.setParams params)
    rw [configured.setParams_eq]
    exact yields_pure ledger ()
  | cons hook rest ih =>
    exact (yields_carryOut configured hook).then
      (ih (ledger.configured_setParams (apply params hook)))

/-- The hooks due at a phase are carried out and counted. -/
theorem yields_dispatch (configured : ledger.Configured params) (registry : Registry Migration)
    (phase : BlockPhase) :
    (registry.dispatch carryOut phase : Action ε Nat).Yields ledger (registry.hooksDue phase).length
      (ledger.setParams (applyAll params (registry.hooksDue phase))) :=
  (yields_runHooks configured (registry.hooksDue phase)).then (yields_pure _ _)

end Migration

end TokenLedger
