import TokenLedger.Proofs.Chain.Effects

/-!
# What issuing stores without the checks of the message

A chain checks a message by itself before it hands it to its transition, and the transition repeats
all of those checks but one: that the number of decimal places is not negative. Whatever is stored
and pending, a message that issuing goes through for by itself leaves its token, and that token may
be stored, and stand in a genesis document, exactly if its decimal places are not negative.
-/

namespace TokenLedger

open TokenLedger.Action

namespace TokenBook

variable {ε : Type}

/-- A token that is created is recorded under its symbol. -/
theorem get_of_create {token : Token} {symbol : String} (named : token.symbol = symbol)
    {context after : Context}
    (performed : (create token : Action ε Unit).perform context = (.ok (), after)) :
    after.view.get (Slot.token symbol).key = some token.encode := by
  subst named
  obtain ⟨taken, middle, _, performed⟩ := exists_of_perform_bind performed
  split at performed
  · exact absurd (congrArg Prod.fst performed) (by rintro ⟨⟩)
  · have written : after.view =
        middle.view.write ((Slot.token token.symbol).key, some token.encode) :=
      (congrArg (fun final => final.2.view) performed).symm
    rw [written, View.get_eq_find?_flatten, View.flatten_write, Store.find?_applyWrite, if_pos rfl]

end TokenBook

namespace Issuance

variable {modules : ModuleAccounts} {regime : Regime} {msg : IssueMsg} {context after : Context}

/-- Charging a fee and creating units move coins only: every token stays. -/
theorem get_token_of_payment {fee : Action AssetError Coins} {sender : Address} {token : Token}
    {units : Int64} {key : String} (reads : fee.Writes []) (transparent : fee.Transparent)
    (performed : (fee >>= fun fee =>
      supplying (Supply.sendToModule modules sender ModuleAccounts.feeCollector fee) >>= fun _ =>
        createUnits modules token units key).perform context = (.ok (), after)) (symbol : String) :
    after.view.get (Slot.token symbol).key = context.view.get (Slot.token symbol).key := by
  have writes := reads.bind fun fee => (writes_chargeFee modules sender fee).bind fun _ =>
    writes_createUnits modules token units key
  have whole := transparent.bind fun fee => (transparent_chargeFee modules sender fee).bind fun _ =>
    transparent_createUnits modules token units key
  exact writes.get_eq whole performed (by simp)

/-- If the steps of issuing go through, the fields of the message pass their rules, and its token is
recorded. -/
theorem recorded_of_issueSteps
    (performed : (issueSteps modules regime msg).perform context = (.ok (), after)) :
    rules regime msg = .ok () ∧
      after.view.get (Slot.token msg.storedSymbol).key = some msg.token.encode := by
  unfold issueSteps at performed
  obtain ⟨maxDecimal, _, _, performed⟩ := exists_of_perform_bind performed
  obtain ⟨_, performed⟩ := unmet_of_perform_guard performed
  obtain ⟨taken, _, _, performed⟩ := exists_of_perform_bind performed
  obtain ⟨_, performed⟩ := unmet_of_perform_guard performed
  simp only [ofExcept_then] at performed
  obtain ⟨passed, performed⟩ := passed_of_perform_check performed
  obtain ⟨_, created, creates, performed⟩ := exists_of_perform_bind performed
  have reads : (Params.getIssueFee : Action AssetError Coins).Writes [] :=
    Params.subspace.writes_get Params.issueFeeKey
  have transparent : (Params.getIssueFee : Action AssetError Coins).Transparent :=
    Params.subspace.transparent_get Params.issueFeeKey
  have kept := get_token_of_payment reads transparent performed msg.storedSymbol
  have named : msg.token.symbol = msg.storedSymbol := rfl
  exact ⟨passed, kept.trans (TokenBook.get_of_create named creates)⟩

/-- If issuing goes through, the fields of the message pass their rules, and its token is
recorded. -/
theorem recorded_of_handle
    (handled : (handle modules regime (.issue msg)).perform context = (.ok (), after)) :
    rules regime msg = .ok () ∧
      after.view.get (Slot.token msg.storedSymbol).key = some msg.token.encode := by
  obtain ⟨inner, performed, rfl⟩ := exists_of_perform_atomically handled
  obtain ⟨passed, recorded⟩ := recorded_of_issueSteps performed
  refine ⟨passed, ?_⟩
  change inner.view.commit.get _ = _
  rw [View.get_eq_find?_flatten, View.flatten_commit, ← View.get_eq_find?_flatten]
  exact recorded

/-- A token whose other fields pass their rules has short texts. -/
theorem compact_token (passed : rules regime msg = .ok ()) : msg.token.Compact := by
  obtain ⟨name, symbol, description, _⟩ := (rules_eq_ok_iff regime msg).mp passed
  exact ⟨Token.textLength_name name, Token.textLength_description description,
    (Token.textLength_symbol symbol).2.2⟩

/-- Of the checks of stored tokens only that of decimal places is not one of the rules. -/
theorem checkStored_token (passed : rules regime msg = .ok ()) :
    msg.token.checkStored = Token.checkDecimal msg.decimal := by
  obtain ⟨name, symbol, description, supply⟩ := (rules_eq_ok_iff regime msg).mp passed
  obtain ⟨filled, _, short⟩ := Token.textLength_symbol symbol
  have checkedName : Token.checkName msg.token.name = .ok () := name
  have checkedDescription : Token.checkDescriptionWithin Regime.extended.maxDescriptionLength
      msg.token.description = .ok () :=
    (Token.ensure_eq_ok_iff _ _).mpr (decide_eq_true (Token.textLength_description description))
  have length : Token.isSymbolLength 0 (Bytes.textLength msg.token.symbol) = true := by
    simp only [Token.isSymbolLength, Bool.and_eq_true, decide_eq_true_eq]
    exact ⟨⟨filled, Nat.zero_le _⟩, short⟩
  have checkedContent : Token.checkSymbolContent msg.token.symbol = .ok () :=
    ((Token.checkSymbol_eq_ok_iff regime _).mp symbol).2
  have checkedSupply : Token.checkTotalSupply msg.token.totalSupply = .ok () := supply
  rw [Token.checkStored, checkedName, checkedDescription, length, checkedContent, checkedSupply]
  change (Token.checkDecimal msg.decimal >>= fun _ => Except.ok ()) = _
  cases Token.checkDecimal msg.decimal <;> rfl

/-- Among tokens that a genesis document may list, the token of a message stands as its decimal
places allow. -/
theorem validate_insert_token (passed : rules regime msg = .ok ()) {params : Params}
    {before after : List Token}
    (valid : AssetGenesis.validate ⟨params, before ++ after⟩ = .ok ())
    (free : ∀ token ∈ before ++ after, token.symbol ≠ msg.storedSymbol) :
    AssetGenesis.validate ⟨params, before ++ msg.token :: after⟩ =
      (Token.checkDecimal msg.decimal).mapError (.invalidToken msg.storedSymbol) := by
  have checked := checkStored_token passed
  unfold AssetGenesis.validate at valid ⊢
  split at valid
  · contradiction
  next listed =>
  cases decimal : Token.checkDecimal msg.decimal with
  | error cause =>
    rw [decimal] at checked
    rw [AssetGenesis.validateTokens_insert_error [] listed checked]
    rfl
  | ok value =>
    rw [decimal] at checked
    rw [AssetGenesis.validateTokens_insert_ok listed checked free]
    exact valid

/-- If issuing goes through, the token of the message is read under its symbol. -/
theorem token_of_handle
    (handled : (handle modules regime (.issue msg)).perform context = (.ok (), after)) :
    after.view.token msg.storedSymbol = .ok (some msg.token) := by
  obtain ⟨passed, recorded⟩ := recorded_of_handle handled
  have read : after.view.getIn StoreName.asset.keyStart (TokenBook.keyOf msg.storedSymbol) =
      some msg.token.encode := recorded
  rw [View.token, read]
  simp only [(compact_token passed).decode_encode]
  rfl

/-- Whatever is stored and pending, a message to issue that its transition alone goes through for
leaves its token, all of whose fields may be stored but the decimal places, which may be negative.
Where they are not, the token may be stored, and an accepted genesis document that lists no token of
its symbol stays accepted with it; where they are, either check refuses the token for them. -/
theorem stored_of_handle
    (handled : (handle modules regime (.issue msg)).perform context = (.ok (), after)) :
    after.view.token msg.storedSymbol = .ok (some msg.token) ∧
      ∃ verdict : Except AssetError Unit,
        (verdict = if 0 ≤ msg.decimal then .ok () else .error (.decimalNegative msg.decimal)) ∧
        msg.token.checkStored = verdict ∧
        ∀ (params : Params) (before later : List Token),
          AssetGenesis.validate ⟨params, before ++ later⟩ = .ok () →
            (∀ token ∈ before ++ later, token.symbol ≠ msg.storedSymbol) →
              AssetGenesis.validate ⟨params, before ++ msg.token :: later⟩ =
                verdict.mapError (.invalidToken msg.storedSymbol) := by
  obtain ⟨passed, _⟩ := recorded_of_handle handled
  refine ⟨token_of_handle handled, Token.checkDecimal msg.decimal, ?_, checkStored_token passed,
    fun params before later valid free => validate_insert_token passed valid free⟩
  rw [Token.checkDecimal, Token.ensure]
  simp only [decide_eq_true_eq]

/-- A request for a token with less than no decimal places. -/
def negativeIssue : IssueMsg := ⟨Chain.Sample.holder, "Bark", "BARK", 1000, true, -1, ""⟩

/-- In the first block of a small chain the transition of that request goes through by itself. -/
theorem exists_handle_negativeIssue : ∃ context after : Context,
    context.view.params = .ok Migration.tokenIssueParams ∧
    (handle Chain.modules .legacy (.issue negativeIssue)).perform context = (.ok (), after) := by
  obtain ⟨writes, ledger, loaded, processes, _⟩ := Chain.Sample.exists_opened
  have sound := Chain.Sample.sound_opened loaded
  have passed := Chain.Sample.verdict_issue loaded negativeIssue rfl (by decide) (by decide)
    fun _ => by decide
  obtain ⟨_, _, _, after, _, handled⟩ :=
    (runs_handle_of_verdict sound passed).exists_perform 1 [] processes.holds
  exact ⟨_, after, View.params_eq processes.holds sound.configured, handled⟩

/-- What is left of that request is refused in a genesis document that lists nothing else. -/
theorem stored_of_handle_sample : ∃ context after : Context,
    (handle Chain.modules .legacy (.issue negativeIssue)).perform context = (.ok (), after) ∧
      after.view.token "bark" = .ok (some negativeIssue.token) ∧
      AssetGenesis.validate ⟨Params.default, [] ++ negativeIssue.token :: []⟩ =
        .error (.invalidToken "bark" (.decimalNegative (-1))) := by
  obtain ⟨context, after, _, handled⟩ := exists_handle_negativeIssue
  obtain ⟨stored, _, rfl, _, listed⟩ := stored_of_handle handled
  exact ⟨context, after, handled, stored, listed Params.default [] [] (by decide) (by simp)⟩

/-- Issuing by itself does not only admit tokens that may be stored: over parameters that can be
used it goes through for a token that is refused in genesis documents. -/
theorem handle_stores_negative : ∃ (params : Params) (context after : Context),
    params.validate = .ok () ∧ context.view.params = .ok params ∧
      (handle Chain.modules .legacy (.issue negativeIssue)).perform context = (.ok (), after) ∧
      after.view.token negativeIssue.storedSymbol = .ok (some negativeIssue.token) ∧
      negativeIssue.token.checkStored = .error (.decimalNegative (-1)) ∧
      AssetGenesis.validate ⟨params, [negativeIssue.token]⟩ =
        .error (.invalidToken "bark" (.decimalNegative (-1))) := by
  obtain ⟨context, after, shown, handled⟩ := exists_handle_negativeIssue
  exact ⟨Migration.tokenIssueParams, context, after, by decide, shown, handled,
    token_of_handle handled, by decide, by decide⟩

end Issuance

end TokenLedger
