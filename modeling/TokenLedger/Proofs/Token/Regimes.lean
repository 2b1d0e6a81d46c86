import Mathlib.Data.List.Basic
import TokenLedger.Proofs.Token.Rules

/-!
# What may be stored, whichever regime it was issued under

The check of stored tokens looks at one field after the other and takes what at least one of the two
regimes takes for it; the symbol of one regime may stand beside the description of the other. So the
token of a message that passes its own checks at some height may be stored at every height, whoever
owns it and however its supply grows within its range.
-/

namespace TokenLedger

variable {κ : Type} {registry : Registry κ}

/-- From the description upgrade on the bounds are those after it. -/
theorem Regime.ofRegistry_of_applied (applied : registry.isApplied .descriptionLimit = true) :
    Regime.ofRegistry registry = .extended := if_pos applied

/-- Before the description upgrade the bounds are those before it. -/
theorem Regime.ofRegistry_of_waiting (waiting : registry.isApplied .descriptionLimit = false) :
    Regime.ofRegistry registry = .legacy :=
  if_neg (Bool.eq_false_iff.mp waiting)

namespace Token

/-- A symbol passes under one of the regimes exactly if it is neither empty nor too long and its
content passes: the older regime asks for less. -/
theorem checkSymbol_either_iff (symbol : String) :
    checkSymbol .legacy symbol = .ok () ∨ checkSymbol .extended symbol = .ok () ↔
      (0 < Bytes.textLength symbol ∧ Bytes.textLength symbol ≤ 12) ∧
        checkSymbolContent symbol = .ok () := by
  constructor
  · have passes {regime : Regime} (passed : checkSymbol regime symbol = .ok ()) :
        (0 < Bytes.textLength symbol ∧ Bytes.textLength symbol ≤ 12) ∧
          checkSymbolContent symbol = .ok () := by
      obtain ⟨filled, _, short⟩ := textLength_symbol passed
      exact ⟨⟨filled, short⟩, ((checkSymbol_eq_ok_iff regime symbol).mp passed).2⟩
    rintro (legacy | extended)
    · exact passes legacy
    · exact passes extended
  · rintro ⟨⟨filled, short⟩, content⟩
    left
    rw [checkSymbol_eq_ok_iff]
    refine ⟨?_, content⟩
    simp only [isSymbolLength, Bool.and_eq_true, decide_eq_true_eq]
    exact ⟨⟨filled, Nat.zero_le _⟩, short⟩

/-- A description passes under one of the regimes exactly if it is within the wider limit: the newer
regime asks for less. -/
theorem checkDescription_either_iff (description : String) :
    checkDescription .legacy description = .ok () ∨
        checkDescription .extended description = .ok () ↔
      Bytes.textLength description ≤ 1024 := by
  constructor
  · rintro (legacy | extended)
    · exact textLength_description legacy
    · exact textLength_description extended
  · intro within
    right
    rw [checkDescription, checkDescriptionWithin, ensure_eq_ok_iff, decide_eq_true_eq]
    exact within

/-- A token may be stored exactly if each of its fields passes its check, symbol and description
under at least one of the regimes. -/
theorem storable_iff_either (token : Token) :
    token.Storable ↔ checkName token.name = .ok () ∧ checkDecimal token.decimal = .ok () ∧
      checkTotalSupply token.totalSupply = .ok () ∧
        (checkSymbol .legacy token.symbol = .ok () ∨ checkSymbol .extended token.symbol = .ok ()) ∧
          (checkDescription .legacy token.description = .ok () ∨
            checkDescription .extended token.description = .ok ()) := by
  rw [checkSymbol_either_iff, checkDescription_either_iff, checkDecimal, checkTotalSupply,
    ensure_eq_ok_iff, ensure_eq_ok_iff, Bool.and_eq_true]
  simp only [decide_eq_true_eq]
  constructor
  · intro storable
    exact ⟨storable.name, storable.decimal, storable.totalSupply,
      ⟨storable.symbolLength, storable.symbol⟩, storable.description⟩
  · rintro ⟨name, decimal, supply, ⟨length, symbol⟩, description⟩
    exact ⟨name, description, length, symbol, decimal, supply⟩

/-- A token that may be stored may be stored for any owner, with any supply in range. -/
theorem Storable.withSupply {token : Token} (storable : token.Storable) (owner : Address)
    {supply : Int64} (low : 0 ≤ supply) (high : supply ≤ maxTotalSupply) :
    ({ token with owner := owner, totalSupply := supply } : Token).Storable :=
  ⟨storable.name, storable.description, storable.symbolLength, storable.symbol, storable.decimal,
    low, high⟩

/-- A stored token passes its check exactly if its fields pass theirs, symbol and description before
the description upgrade or from it on. So the token of a message that passes its own checks at some
height passes it for any owner, and goes on to pass it with any supply in range. -/
theorem checkStored_iff_either {applied waiting : Registry κ}
    (active : applied.isApplied .descriptionLimit = true)
    (inactive : waiting.isApplied .descriptionLimit = false) :
    (∀ token : Token, token.checkStored = .ok () ↔
        checkName token.name = .ok () ∧ checkDecimal token.decimal = .ok () ∧
          checkTotalSupply token.totalSupply = .ok () ∧
            (checkSymbol (.ofRegistry waiting) token.symbol = .ok () ∨
              checkSymbol (.ofRegistry applied) token.symbol = .ok ()) ∧
              (checkDescription (.ofRegistry waiting) token.description = .ok () ∨
                checkDescription (.ofRegistry applied) token.description = .ok ())) ∧
      ∀ (registry : Registry κ) (msg : IssueMsg), msg.checkBasic (.ofRegistry registry) = .ok () →
        ∀ owner : Address, ({ msg.token with owner := owner } : Token).checkStored = .ok () ∧
          ∀ supply : Int64, 0 ≤ supply → supply ≤ maxTotalSupply →
            ({ msg.token with owner := owner, totalSupply := supply } : Token).checkStored =
              .ok () := by
  rw [Regime.ofRegistry_of_applied active, Regime.ofRegistry_of_waiting inactive]
  refine ⟨fun token => (checkStored_eq_ok_iff token).trans (storable_iff_either token),
    fun registry msg passed owner => ?_⟩
  have storable := storable_of_checkBasic passed
  have grown (supply : Int64) (low : 0 ≤ supply) (high : supply ≤ maxTotalSupply) :
      ({ msg.token with owner := owner, totalSupply := supply } : Token).checkStored = .ok () :=
    (checkStored_eq_ok_iff _).mpr (storable.withSupply owner low high)
  exact ⟨grown msg.totalSupply storable.totalSupply.1 storable.totalSupply.2, grown⟩

/-- A token with a symbol that is too short since the upgrade and a description that was too long
before it may be stored, though no message asks for it at any height. The token of a message for
such a symbol may be stored with the greatest supply. -/
theorem checkStored_iff_either_sample :
    let registry : Registry Unit := Registry.empty.setUpgradeHeight .descriptionLimit 5
    let token : Token := {
      symbol := "ab"
      name := "Bark"
      decimal := 2
      totalSupply := 0
      mintable := true
      description := String.ofList (List.replicate 129 'x')
      owner := ⟨List.replicate 20 7, rfl⟩ }
    let msg : IssueMsg := {
      sender := token.owner
      name := "Bark"
      symbol := "AB"
      totalSupply := 1
      mintable := true
      decimal := 2
      description := "" }
    (registry.atHeight 5).isApplied .descriptionLimit = true ∧
      (registry.atHeight 4).isApplied .descriptionLimit = false ∧ token.checkStored = .ok () ∧
        msg.checkBasic (.ofRegistry (registry.atHeight 4)) = .ok () ∧
          ({ msg.token with owner := token.owner, totalSupply := maxTotalSupply } :
            Token).checkStored = .ok () := by
  intro registry token msg
  have active : (registry.atHeight 5).isApplied .descriptionLimit = true := by decide
  have inactive : (registry.atHeight 4).isApplied .descriptionLimit = false := by decide
  have passed : msg.checkBasic (.ofRegistry (registry.atHeight 4)) = .ok () := by decide
  obtain ⟨stored, issued⟩ := checkStored_iff_either active inactive
  have accepted : token.checkStored = .ok () := by
    rw [stored]
    exact ⟨by decide, by decide, by decide, .inl (by decide),
      .inr (by decide +kernel)⟩
  exact ⟨active, inactive, accepted, passed,
    (issued _ msg passed token.owner).2 maxTotalSupply (by decide) (by decide)⟩

end Token

end TokenLedger
