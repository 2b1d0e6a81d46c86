import TokenLedger.Message

/-!
# What the rules for tokens admit

The checks are chains of conditions, and a chain passes exactly if each of its conditions holds. A
message that passes its own checks asks for a token that may be stored, under either regime, and a
symbol that may be stored names a denomination exactly if it is not too short for one.
-/

namespace TokenLedger.Token

/-- A chain of checks passes exactly if each check does. -/
theorem bind_eq_ok_iff {ε : Type} (first second : Except ε Unit) :
    (first >>= fun _ => second) = .ok () ↔ first = .ok () ∧ second = .ok () := by
  cases first with
  | error cause => exact iff_of_false (by rintro ⟨⟩) (by rintro ⟨⟨⟩, _⟩)
  | ok value => exact ⟨fun passed => ⟨rfl, passed⟩, fun passed => passed.2⟩

/-- A condition passes exactly if it holds. -/
theorem ensure_eq_ok_iff (condition : Bool) (cause : AssetError) :
    ensure condition cause = .ok () ↔ condition = true := by
  cases condition with
  | false => exact iff_of_false (by rintro ⟨⟩) (by decide)
  | true => exact iff_of_true rfl rfl

/-- What the content of a symbol has to satisfy. -/
theorem checkSymbolContent_eq_ok_iff (symbol : String) :
    checkSymbolContent symbol = .ok () ↔
      isReserved (lowered symbol) = false ∧
        ∀ byte ∈ Bytes.utf8 symbol, Coin.isLower byte = true := by
  rw [checkSymbolContent, bind_eq_ok_iff, ensure_eq_ok_iff, ensure_eq_ok_iff, List.all_eq_true,
    Bool.not_eq_true']

/-- What a symbol has to satisfy under a regime. -/
theorem checkSymbol_eq_ok_iff (regime : Regime) (symbol : String) :
    checkSymbol regime symbol = .ok () ↔
      isSymbolLength regime.leastSymbolLength (Bytes.textLength symbol) = true ∧
        checkSymbolContent symbol = .ok () := by
  rw [checkSymbol, bind_eq_ok_iff, ensure_eq_ok_iff]

/-- What a stored token has to satisfy. -/
structure Storable (token : Token) : Prop where
  /-- The name is neither empty, nor too long, nor reserved. -/
  name : checkName token.name = .ok ()
  /-- The description is within the wider limit. -/
  description : Bytes.textLength token.description ≤ 1024
  /-- The symbol is neither empty nor too long. -/
  symbolLength : 0 < Bytes.textLength token.symbol ∧ Bytes.textLength token.symbol ≤ 12
  /-- The symbol holds lowercase letters only and is not reserved. -/
  symbol : checkSymbolContent token.symbol = .ok ()
  /-- The number of decimal places is not negative. -/
  decimal : 0 ≤ token.decimal
  /-- The total supply is not negative and below the greatest. -/
  totalSupply : 0 ≤ token.totalSupply ∧ token.totalSupply ≤ maxTotalSupply

/-- The check of stored tokens decides what they have to satisfy. -/
theorem checkStored_eq_ok_iff (token : Token) : token.checkStored = .ok () ↔ token.Storable := by
  simp only [checkStored, checkDescriptionWithin, checkDecimal, checkTotalSupply, bind_eq_ok_iff,
    ensure_eq_ok_iff, isSymbolLength, Bool.and_eq_true, decide_eq_true_eq]
  constructor
  · intro ⟨name, description, ⟨⟨filled, _⟩, short⟩, symbol, decimal, low, high⟩
    exact ⟨name, description, ⟨filled, short⟩, symbol, decimal, low, high⟩
  · intro stored
    exact ⟨stored.name, stored.description, ⟨⟨stored.symbolLength.1, Nat.zero_le _⟩,
      stored.symbolLength.2⟩, stored.symbol, stored.decimal, stored.totalSupply⟩

/-- A name that passes its check is short. -/
theorem textLength_name {name : String} (passed : checkName name = .ok ()) :
    Bytes.textLength name ≤ 32 := by
  rw [checkName, bind_eq_ok_iff, ensure_eq_ok_iff, Bool.and_eq_true, decide_eq_true_eq,
    decide_eq_true_eq] at passed
  exact passed.1.2

/-- A description that passes its check under either regime is within the wider limit. -/
theorem textLength_description {regime : Regime} {description : String}
    (passed : checkDescription regime description = .ok ()) :
    Bytes.textLength description ≤ 1024 := by
  rw [checkDescription, checkDescriptionWithin, ensure_eq_ok_iff, decide_eq_true_eq] at passed
  have limit : regime.maxDescriptionLength ≤ 1024 := by
    cases regime <;> decide
  exact Nat.le_trans passed limit

/-- A symbol that passes its check has at least as many letters as the regime asks for, and never
none or too many. -/
theorem textLength_symbol {regime : Regime} {symbol : String}
    (passed : checkSymbol regime symbol = .ok ()) :
    0 < Bytes.textLength symbol ∧ regime.leastSymbolLength ≤ Bytes.textLength symbol ∧
      Bytes.textLength symbol ≤ 12 := by
  have length := ((checkSymbol_eq_ok_iff regime symbol).mp passed).1
  simp only [isSymbolLength, Bool.and_eq_true, decide_eq_true_eq] at length
  exact ⟨length.1.1, length.1.2, length.2⟩

/-- A symbol of lowercase letters that is not too long is a denomination from three letters on. -/
theorem isValidDenom_iff {symbol : String} (content : checkSymbolContent symbol = .ok ())
    (short : Bytes.textLength symbol ≤ 12) :
    Coin.isValidDenom symbol = true ↔ 3 ≤ Bytes.textLength symbol := by
  have lower := ((checkSymbolContent_eq_ok_iff symbol).mp content).2
  unfold Bytes.textLength at short ⊢
  unfold Coin.isValidDenom
  cases bytes : Bytes.utf8 symbol with
  | nil => exact iff_of_false (by decide) (by decide)
  | cons first rest =>
    rw [bytes, List.length_cons] at short
    rw [bytes] at lower
    have firstLower := lower first List.mem_cons_self
    have others : (rest.all fun byte => Coin.isLower byte || Coin.isDigit byte) = true := by
      rw [List.all_eq_true]
      intro byte member
      rw [lower byte (List.mem_cons_of_mem _ member), Bool.true_or]
    simp only [Coin.isValidDenomBytes, firstLower, others, Bool.and_true, Bool.and_eq_true,
      decide_eq_true_eq, List.length_cons]
    omega

/-- The checks that a message to issue has to pass by itself. -/
theorem checkBasic_eq_ok_iff (regime : Regime) (msg : IssueMsg) :
    msg.checkBasic regime = .ok () ↔
      checkName msg.name = .ok () ∧ checkSymbol regime msg.storedSymbol = .ok () ∧
        checkTotalSupply msg.totalSupply = .ok () ∧ checkDecimal msg.decimal = .ok () ∧
        checkDescription regime msg.description = .ok () := by
  simp only [IssueMsg.checkBasic, bind_eq_ok_iff]

/-- The token of a message that passes its own checks may be stored. -/
theorem storable_of_checkBasic {regime : Regime} {msg : IssueMsg}
    (passed : msg.checkBasic regime = .ok ()) : msg.token.Storable := by
  obtain ⟨name, symbol, supply, decimal, description⟩ := (checkBasic_eq_ok_iff regime msg).mp passed
  obtain ⟨filled, _, short⟩ := textLength_symbol symbol
  have content := ((checkSymbol_eq_ok_iff regime _).mp symbol).2
  simp only [checkTotalSupply, checkDecimal, ensure_eq_ok_iff, Bool.and_eq_true,
    decide_eq_true_eq] at supply decimal
  exact ⟨name, textLength_description description, ⟨filled, short⟩, content, decimal, supply⟩

end TokenLedger.Token
