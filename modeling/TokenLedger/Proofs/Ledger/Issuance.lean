import TokenLedger.Chain
import TokenLedger.Proofs.Ledger.Sound

/-!
# Issuing and minting in a ledger

What the two transitions of the token module do to a ledger in use, step by step: under which
conditions they go through, what they leave, and for which cause they are refused otherwise. Neither
runs into a fault, and both leave a ledger in use.
-/

namespace TokenLedger.Issuance

open TokenLedger.Action

variable {ledger : Ledger} {params : Params}

/-- Units of one denomination and of no other. -/
def unitsOf (symbol : String) (units : Int64) (denom : String) : Nat :=
  if denom = symbol then units.toInt.natAbs else 0

/-- The coin set of some units of a token. Without units it is empty, whatever the symbol; with
units the symbol has to be a denomination. -/
theorem ofList_unitsCoin (symbol : String) (units : Int64) :
    Coins.ofList [unitsCoin symbol units] =
      if units.toInt = 0 then .ok .empty
      else if Coin.isValidDenom symbol then .ok ⟨[unitsCoin symbol units]⟩
      else .error (.invalidDenom symbol) := by
  have positive : (unitsCoin symbol units).amount.isPositive = true ↔ units.toInt ≠ 0 := by
    change decide (0 < units.toInt.natAbs) = true ↔ _
    rw [decide_eq_true_eq]
    omega
  by_cases zero : units.toInt = 0
  · have dropped : (unitsCoin symbol units).amount.isPositive = false := by
      rw [← Bool.not_eq_true, positive]
      exact fun nonzero => nonzero zero
    simp [Coins.ofList, dropped, zero, Coins.sort]
    rfl
  · have kept := positive.mpr zero
    have sorted : Coins.sort ([unitsCoin symbol units].filter fun coin => coin.amount.isPositive) =
        [unitsCoin symbol units] := by
      simp [kept, Coins.sort, Coins.insertSorted]
    rw [if_neg zero, Coins.ofList, sorted, Coins.ofSorted]
    by_cases valid : Coin.isValidDenom symbol = true
    · have denom : Coin.isValidDenom (unitsCoin symbol units).denom = true := valid
      simp [Coins.firstRepeated?, valid, denom]
    · have denom : ¬ Coin.isValidDenom (unitsCoin symbol units).denom = true := valid
      simp [valid, denom]
      rfl

/-- A coin set of some units of a token. -/
structure UnitsMade (symbol : String) (units : Int64) (coins : Coins) : Prop where
  /-- It is well-formed. -/
  formed : coins.WellFormed
  /-- It holds these units. -/
  held : coins.units = unitsOf symbol units
  /-- If there are units, the symbol is a denomination. -/
  denom : units.toInt ≠ 0 → Coin.isValidDenom symbol = true

/-- The coin set that is built of some units is one of them. -/
theorem unitsMade_of_ofList {symbol : String} {units : Int64} {coins : Coins}
    (built : Coins.ofList [unitsCoin symbol units] = .ok coins) : UnitsMade symbol units coins := by
  have formed := ((Coins.ofList_eq_ok_iff _ _).mp built).1
  rw [ofList_unitsCoin] at built
  split at built
  · next zero =>
    injection built with built
    subst built
    refine ⟨formed, ?_, fun nonzero => absurd zero nonzero⟩
    funext denom
    simp [Coins.units, Coins.amountOf, Coins.empty, Coins.amountIn, unitsOf, zero]
    rfl
  · split at built
    · next valid =>
      injection built with built
      subst built
      refine ⟨formed, ?_, fun _ => valid⟩
      funext denom
      change (if symbol = denom then magnitude units else 0 : Amount).toNat = _
      by_cases same : symbol = denom
      · rw [if_pos same, unitsOf, if_pos same.symm]
        rfl
      · rw [if_neg same, unitsOf, if_neg (Ne.symm same)]
        rfl
    · contradiction

/-! ## Creating units -/

/-- The token module is declared, and it mints. -/
theorem permissions_asset :
    Chain.modules.permissions? ModuleAccounts.asset = some [.minter] := by decide

/-- The collector of fees is declared. -/
theorem permissions_feeCollector :
    Chain.modules.permissions? ModuleAccounts.feeCollector = some [] := by decide

/-- Why units of a token are not created. -/
inductive UnitsRefused (ledger : Ledger) (symbol : String) (units : Int64) : AssetError → Prop
  /-- There are units, and the symbol is no denomination. -/
  | denom (filled : units.toInt ≠ 0) (invalid : Coin.isValidDenom symbol = false) :
    UnitsRefused ledger symbol units (.supply (.invalidCoins (.invalidDenom symbol)))
  /-- The total supply would not fit. -/
  | overflow (exceeds : 2 ^ 128 ≤ ledger.supply symbol + units.toInt.natAbs) :
    UnitsRefused ledger symbol units (.supply (.invalidCoins (.overflow symbol)))

/-- Whether units are refused depends on how many there are already, and on nothing else of the
ledger. -/
theorem UnitsRefused.of_supply {before after : Ledger} {symbol : String} {units : Int64}
    {cause : AssetError} (same : after.supply symbol = before.supply symbol)
    (reason : UnitsRefused after symbol units cause) : UnitsRefused before symbol units cause := by
  cases reason with
  | denom filled invalid => exact .denom filled invalid
  | overflow exceeds =>
    rw [same] at exceeds
    exact .overflow exceeds

/-- The coin set of some units is made, or the symbol is no denomination. -/
theorem runs_makeUnits (ledger : Ledger) (symbol : String) (units : Int64) :
    (Action.ofExcept ((Coins.ofList [unitsCoin symbol units]).mapError fun cause =>
      AssetError.supply (.invalidCoins cause))).Runs ledger
      (fun coins after emitted => UnitsMade symbol units coins ∧ ledger = after ∧ emitted = [])
      (UnitsRefused ledger symbol units) := by
  refine runs_ofExcept (fun coins passed => ?_) fun cause failed => ?_
  · cases result : Coins.ofList [unitsCoin symbol units] with
    | error cause =>
      rw [result] at passed
      contradiction
    | ok set =>
      rw [result] at passed
      injection passed with passed
      subst passed
      exact ⟨unitsMade_of_ofList result, rfl, rfl⟩
  · rw [ofList_unitsCoin] at failed
    split at failed
    · contradiction
    next nonzero =>
    split at failed
    · contradiction
    next invalid =>
    injection failed with failed
    rw [← failed]
    exact .denom nonzero (by simpa using invalid)

/-- The token module creates units where there are units already, if the total supply fits. -/
theorem runs_mintUnits (balanced : ledger.Balanced) (present : ∃ denom, 0 < ledger.supply denom)
    {symbol : String} {units : Int64} {coins : Coins} (made : UnitsMade symbol units coins) :
    (supplying (Supply.mintToModule Chain.modules ModuleAccounts.asset coins)).Runs ledger
      (fun _ after emitted => emitted = [] ∧
        ledger.Moved after (fun _ _ => 0)
          (Ledger.only (Address.ofModule ModuleAccounts.asset) (unitsOf symbol units))
          (unitsOf symbol units))
      (UnitsRefused ledger symbol units) := by
  have filled : ∃ denom, 0 < ledger.supply denom + coins.units denom := by
    obtain ⟨denom, positive⟩ := present
    exact ⟨denom, by omega⟩
  have minting := Supply.runs_fund balanced (Address.ofModule ModuleAccounts.asset) filled
  rw [← Supply.mintToModule_eq_fund permissions_asset rfl] at minting
  refine Runs.mapCause (minting.mono ?_ ?_)
  · rintro _ after _ ⟨rfl, _, created⟩
    rw [made.held] at created
    exact ⟨rfl, created⟩
  · intro cause reason
    cases reason with
    | malformed invalid =>
      rw [made.formed.isValid] at invalid
      contradiction
    | overflow _ denom exceeds =>
      rw [made.held, unitsOf] at exceeds
      have fits := ledger.total.units_lt denom
      split at exceeds
      · next same =>
        subst same
        exact .overflow exceeds
      · unfold Ledger.supply at exceeds
        omega

/-- The token module hands out units that it has. -/
theorem runs_handUnits (balanced : ledger.Balanced) {symbol : String} {units : Int64}
    {coins : Coins} (made : UnitsMade symbol units coins)
    (covered : ∀ denom, unitsOf symbol units denom ≤
      ledger.units (Address.ofModule ModuleAccounts.asset) denom) (owner : Address) :
    (supplying (Supply.sendFromModule Chain.modules ModuleAccounts.asset owner coins)).Runs ledger
      (fun _ after emitted => emitted = [] ∧
        ledger.Moved after
          (Ledger.only (Address.ofModule ModuleAccounts.asset) (unitsOf symbol units))
          (Ledger.only owner (unitsOf symbol units)) fun _ => 0)
      fun _ => False := by
  have sending := Supply.runs_transfer balanced (Address.ofModule ModuleAccounts.asset) owner coins
  rw [← Supply.sendFromModule_eq_transfer permissions_asset] at sending
  refine Runs.mapCause (sending.mono ?_ ?_)
  · rintro _ after _ ⟨rfl, _, _, moved⟩
    rw [made.held] at moved
    exact ⟨rfl, moved⟩
  · intro cause reason
    cases reason with
    | malformed invalid =>
      rw [made.formed.isValid] at invalid
      contradiction
    | insufficient _ missing =>
      rw [← made.held] at covered
      obtain ⟨rest, taken⟩ := Coins.exists_sub? (balanced.formed.balance _) made.formed covered
      rw [missing] at taken
      contradiction

/-- Units are created for the owner of a token where there are units already. -/
theorem runs_createUnits (balanced : ledger.Balanced) (present : ∃ denom, 0 < ledger.supply denom)
    (token : Token) (units : Int64) (key : String) :
    (createUnits Chain.modules token units key).Runs ledger
      (fun _ after emitted => emitted = [mintedEvent key (unitsCoin token.symbol units)] ∧
        (units.toInt ≠ 0 → Coin.isValidDenom token.symbol = true) ∧
        ledger.Moved after (fun _ _ => 0) (Ledger.only token.owner (unitsOf token.symbol units))
          (unitsOf token.symbol units))
      (UnitsRefused ledger token.symbol units) := by
  unfold createUnits
  apply (runs_makeUnits ledger token.symbol units).bind
  rintro coins _ _ ⟨made, rfl, rfl⟩
  apply (runs_mintUnits balanced present made).bind
  rintro _ middle _ ⟨rfl, created⟩
  have middleBalanced := created.balanced balanced fun denom => by
    rw [Ledger.sum_only, Finset.sum_const_zero, Nat.zero_add]
  have covered : ∀ denom, unitsOf token.symbol units denom ≤
      middle.units (Address.ofModule ModuleAccounts.asset) denom := fun denom => by
    have added := created.units (Address.ofModule ModuleAccounts.asset) denom
    rw [Ledger.only, if_pos rfl] at added
    omega
  refine (runs_handUnits middleBalanced made covered token.owner).bind_refused
    (fun _ never => never.elim) ?_
  rintro _ after _ ⟨rfl, moved⟩
  refine (runs_emit _).mono ?_ fun _ never => never.elim
  rintro _ _ _ ⟨rfl, rfl⟩
  exact ⟨rfl, made.denom, created.handOver moved⟩

/-- What a fee leaves: its units with the collector. -/
structure Charged (ledger : Ledger) (sender : Address) (fee : Coins) (after : Ledger) : Prop where
  /-- The sender had the fee. -/
  covered : ∀ denom, fee.units denom ≤ ledger.units sender denom
  /-- Where units went. -/
  moved : ledger.Moved after (Ledger.only sender fee.units)
    (Ledger.only (Address.ofModule ModuleAccounts.feeCollector) fee.units) fun _ => 0

namespace Charged

variable {sender : Address} {fee : Coins} {after : Ledger}

/-- A fee creates no units. -/
theorem supply_eq (charged : Charged ledger sender fee after) (denom : String) :
    after.supply denom = ledger.supply denom := charged.moved.supply denom

/-- A fee keeps a ledger balanced. -/
theorem balanced (charged : Charged ledger sender fee after) (balanced : ledger.Balanced) :
    after.Balanced :=
  charged.moved.balanced balanced fun denom => by
    rw [Ledger.sum_only, Ledger.sum_only, Nat.add_zero]

/-- Where a fee was paid there are units. -/
theorem exists_supply (charged : Charged ledger sender fee after) (balanced : ledger.Balanced)
    (chargeable : fee.Chargeable) : ∃ denom, 0 < after.supply denom := by
  obtain ⟨denom, positive⟩ := chargeable.exists_supply balanced charged.covered
  rw [← charged.supply_eq denom] at positive
  exact ⟨denom, positive⟩

end Charged

/-- A fee goes from the sender to the collector; it is refused exactly if the sender lacks units. -/
theorem runs_chargeFee (balanced : ledger.Balanced) (sender : Address) {fee : Coins}
    (chargeable : fee.Chargeable) :
    (supplying (Supply.sendToModule Chain.modules sender ModuleAccounts.feeCollector fee)).Runs
      ledger
      (fun _ after emitted => emitted = [] ∧ Charged ledger sender fee after)
      (fun cause => cause = .supply (.insufficientCoins (ledger.balance sender) fee) ∧
        ∃ denom, ledger.units sender denom < fee.units denom) := by
  have sending := Supply.runs_transfer balanced sender
    (Address.ofModule ModuleAccounts.feeCollector) fee
  rw [← Supply.sendToModule_eq_transfer permissions_feeCollector] at sending
  refine Runs.mapCause (sending.mono ?_ ?_)
  · rintro _ after _ ⟨rfl, _, covered, moved⟩
    exact ⟨rfl, ⟨covered, moved⟩⟩
  · intro cause reason
    cases reason with
    | malformed invalid =>
      rw [chargeable.formed.isValid] at invalid
      contradiction
    | insufficient _ missing =>
      refine ⟨rfl, ?_⟩
      by_contra enough
      have covered : ∀ denom, fee.units denom ≤ ledger.units sender denom := fun denom => by
        by_contra short
        exact enough ⟨denom, by omega⟩
      obtain ⟨rest, taken⟩ :=
        Coins.exists_sub? (balanced.formed.balance sender) chargeable.formed covered
      rw [missing] at taken
      contradiction

/-! ## Issuing -/

/-- The rules that issuing applies to a message. -/
def rules (regime : Regime) (msg : IssueMsg) : Except AssetError Unit := do
  Token.checkName msg.name
  Token.checkSymbol regime msg.storedSymbol
  Token.checkDescription regime msg.description
  Token.checkTotalSupply msg.totalSupply

/-- The rules pass exactly if each of them does. -/
theorem rules_eq_ok_iff (regime : Regime) (msg : IssueMsg) :
    rules regime msg = .ok () ↔
      Token.checkName msg.name = .ok () ∧ Token.checkSymbol regime msg.storedSymbol = .ok () ∧
        Token.checkDescription regime msg.description = .ok () ∧
        Token.checkTotalSupply msg.totalSupply = .ok () := by
  simp only [rules, Token.bind_eq_ok_iff]

/-- A message to issue that passes all the checks of issuing. -/
structure Issuable (ledger : Ledger) (params : Params) (regime : Regime) (msg : IssueMsg) :
    Prop where
  /-- The number of decimal places is within the parameter. -/
  decimal : ¬ params.maxDecimal < msg.decimal
  /-- The symbol is free. -/
  free : ledger.token msg.storedSymbol = none
  /-- The fields pass the rules. -/
  rules : rules regime msg = .ok ()

/-- Why issuing is refused; each cause comes with the checks that were passed before. -/
inductive IssueRefused (ledger : Ledger) (params : Params) (regime : Regime) (msg : IssueMsg) :
    AssetError → Prop
  /-- There are too many decimal places. -/
  | decimal (above : params.maxDecimal < msg.decimal) :
    IssueRefused ledger params regime msg (.decimalAboveMax params.maxDecimal)
  /-- The symbol is taken. -/
  | duplicate (within : ¬ params.maxDecimal < msg.decimal)
    (taken : ledger.token msg.storedSymbol ≠ none) :
    IssueRefused ledger params regime msg (.duplicateSymbol msg.storedSymbol)
  /-- A field breaks a rule. -/
  | rule {cause : AssetError} (within : ¬ params.maxDecimal < msg.decimal)
    (free : ledger.token msg.storedSymbol = none) (broken : rules regime msg = .error cause) :
    IssueRefused ledger params regime msg cause
  /-- The sender lacks units of the fee. -/
  | fee (issuable : Issuable ledger params regime msg) (denom : String)
    (short : ledger.units msg.sender denom < params.issueFee.units denom) :
    IssueRefused ledger params regime msg
      (.supply (.insufficientCoins (ledger.balance msg.sender) params.issueFee))
  /-- The units of the token cannot be created. -/
  | units {cause : AssetError} (issuable : Issuable ledger params regime msg)
    (covered : ∀ denom, params.issueFee.units denom ≤ ledger.units msg.sender denom)
    (reason : UnitsRefused ledger msg.storedSymbol msg.totalSupply cause) :
    IssueRefused ledger params regime msg cause

/-- What issuing leaves: the token under its symbol, the fee with its collector and the new units
with the sender. -/
structure Issued (ledger : Ledger) (params : Params) (regime : Regime) (msg : IssueMsg)
    (after : Ledger) : Prop where
  /-- All checks were passed. -/
  issuable : Issuable ledger params regime msg
  /-- The sender had the fee. -/
  covered : ∀ denom, params.issueFee.units denom ≤ ledger.units msg.sender denom
  /-- If there are new units, the symbol is a denomination. -/
  denom : msg.totalSupply.toInt ≠ 0 → Coin.isValidDenom msg.storedSymbol = true
  /-- Where units went. -/
  moved : (ledger.setToken msg.token).Moved after (Ledger.only msg.sender params.issueFee.units)
    (fun address denom =>
      Ledger.only (Address.ofModule ModuleAccounts.feeCollector) params.issueFee.units address
          denom +
        Ledger.only msg.sender (unitsOf msg.storedSymbol msg.totalSupply) address denom)
    (unitsOf msg.storedSymbol msg.totalSupply)

/-- A refused check in front of more steps. -/
theorem runs_refuse_bind {ε α β : Type} {done : β → Ledger → List Event → Prop} {refused : ε → Prop}
    {cause : ε} (reason : refused cause) (next : α → Action ε β) :
    ((refuse cause : Action ε α) >>= next).Runs ledger done refused := by
  have refusing : (refuse cause : Action ε α).Runs ledger (fun _ _ _ => False) refused :=
    runs_refuse reason
  exact refusing.bind fun _ _ _ never => never.elim

/-- A condition for a refusal in front of more steps. -/
theorem runs_guard {ε β : Type} {done : β → Ledger → List Event → Prop} {refused : ε → Prop}
    {condition : Prop} [Decidable condition] {cause : ε} {next : Unit → Action ε β}
    (failed : condition → refused cause)
    (rest : ¬ condition → (next ()).Runs ledger done refused) :
    (if condition then refuse cause >>= next else next ()).Runs ledger done refused := by
  split
  · next met => exact runs_refuse_bind (failed met) next
  · next unmet => exact rest unmet

/-- Two checks one after the other are one check. -/
theorem ofExcept_then {ε β : Type} (first second : Except ε Unit) (next : Unit → Action ε β) :
    (Action.ofExcept first >>= fun _ => Action.ofExcept second >>= next) =
      (Action.ofExcept (first >>= fun _ => second) >>= next) := by
  cases first <;> rfl

/-- A check in front of more steps. -/
theorem runs_check {ε β : Type} {done : β → Ledger → List Event → Prop} {refused : ε → Prop}
    {check : Except ε Unit} {next : Unit → Action ε β}
    (failed : ∀ cause, check = .error cause → refused cause)
    (rest : check = .ok () → (next ()).Runs ledger done refused) :
    (Action.ofExcept check >>= next).Runs ledger done refused := by
  cases result : check with
  | error cause => exact runs_refuse_bind (failed cause result) next
  | ok value => exact (yields_pure ledger ()).bind (rest result)

/-- Issuing from a ledger in use goes through exactly as described, or is refused for the first
check that fails. -/
theorem runs_issueSteps (sound : ledger.Sound params) (regime : Regime) (msg : IssueMsg) :
    (issueSteps Chain.modules regime msg).Runs ledger
      (fun _ after emitted => Issued ledger params regime msg after ∧
        emitted = [mintedEvent issuedKey (unitsCoin msg.storedSymbol msg.totalSupply)])
      (IssueRefused ledger params regime msg) := by
  obtain ⟨_, chargeable, _⟩ := (Params.validate_eq_ok_iff params).mp sound.usable
  unfold issueSteps
  apply (Params.yields_getMaxDecimal sound.configured.maxDecimal).bind
  refine runs_guard .decimal fun within => ?_
  refine (TokenBook.yields_contains ledger msg.storedSymbol).bind (runs_guard ?_ fun notTaken => ?_)
  · intro taken
    refine .duplicate within fun free => ?_
    rw [free] at taken
    contradiction
  have free : ledger.token msg.storedSymbol = none := by simpa using notTaken
  simp only [ofExcept_then]
  refine runs_check (fun cause broken => .rule within free broken) fun passed => ?_
  have issuable : Issuable ledger params regime msg := ⟨within, free, passed⟩
  apply (TokenBook.yields_create msg.token free).bind
  have registered : (ledger.setToken msg.token).Balanced := sound.balanced.setToken msg.token
  have fee : (ledger.setToken msg.token).issueFee = some params.issueFee :=
    sound.configured.issueFee
  apply (Params.yields_getIssueFee fee).bind
  apply (runs_chargeFee registered msg.sender chargeable).bind_refused
  · rintro cause ⟨rfl, denom, short⟩
    exact .fee issuable denom short
  rintro _ middle _ ⟨rfl, charged⟩
  have present := charged.exists_supply registered chargeable
  have creating := runs_createUnits (charged.balanced registered) present msg.token msg.totalSupply
    issuedKey
  apply creating.mono
  · rintro _ after _ ⟨rfl, denom, created⟩
    have moved := charged.moved.trans created
    simp only [Nat.add_zero, Nat.zero_add] at moved
    exact ⟨⟨issuable, charged.covered, denom, moved⟩, rfl⟩
  · intro cause reason
    exact .units issuable charged.covered (reason.of_supply (charged.supply_eq _))

/-- Issuing leaves the token under its symbol. -/
theorem Issued.token_eq {regime : Regime} {msg : IssueMsg} {after : Ledger}
    (issued : Issued ledger params regime msg after) :
    after.token msg.storedSymbol = some msg.token := by
  rw [issued.moved.token_eq, Ledger.token_setToken]
  exact if_pos rfl

/-- Issuing leaves a ledger in use. -/
theorem Issued.sound {regime : Regime} {msg : IssueMsg} {after : Ledger}
    (issued : Issued ledger params regime msg after) (sound : ledger.Sound params)
    (storable : msg.token.Storable) : after.Sound params :=
  issued.moved.sound (sound.setToken storable) fun denom => by
    rw [Finset.sum_add_distrib, Ledger.sum_only, Ledger.sum_only, Ledger.sum_only]

/-! ## Minting -/

/-- The greatest total supply as a number. -/
theorem toInt_maxTotalSupply : Token.maxTotalSupply.toInt = 9000000000000000000 := by decide

/-- A supply in its range leaves room that a word holds. -/
theorem subtract_maxTotalSupply {supply : Int64}
    (range : 0 ≤ supply.toInt ∧ supply.toInt ≤ Token.maxTotalSupply.toInt) :
    subtract Token.maxTotalSupply supply = .ok (Token.maxTotalSupply - supply) ∧
      (Token.maxTotalSupply - supply).toInt = Token.maxTotalSupply.toInt - supply.toInt := by
  rw [toInt_maxTotalSupply] at range ⊢
  have difference : (Token.maxTotalSupply - supply).toInt = 9000000000000000000 - supply.toInt := by
    rw [Int64.toInt_sub, toInt_maxTotalSupply]
    exact Int.bmod_eq_of_le (by omega) (by omega)
  refine ⟨?_, difference⟩
  rw [subtract, difference, toInt_maxTotalSupply, if_pos rfl]

/-- A sum within the greatest total supply fits a word. -/
theorem add_within {supply amount : Int64} (low : 0 ≤ supply.toInt) (positive : 0 < amount.toInt)
    (within : supply.toInt + amount.toInt ≤ Token.maxTotalSupply.toInt) :
    add supply amount = .ok (supply + amount) ∧
      (supply + amount).toInt = supply.toInt + amount.toInt := by
  rw [toInt_maxTotalSupply] at within
  have sum : (supply + amount).toInt = supply.toInt + amount.toInt := by
    rw [Int64.toInt_add]
    exact Int.bmod_eq_of_le (by omega) (by omega)
  refine ⟨?_, sum⟩
  rw [add, sum, if_pos rfl]

/-- The range of a stored total supply, as numbers. -/
theorem toInt_totalSupply {token : Token} (storable : token.Storable) :
    0 ≤ token.totalSupply.toInt ∧ token.totalSupply.toInt ≤ Token.maxTotalSupply.toInt := by
  obtain ⟨low, high⟩ := storable.totalSupply
  rw [Int64.le_iff_toInt_le] at low high
  exact ⟨low, high⟩

/-- A token with more units. -/
def grown (token : Token) (amount : Int64) : Token :=
  { token with totalSupply := token.totalSupply + amount }

/-- A message to mint that passes all the checks of minting, for the token it names. -/
structure Mintable (ledger : Ledger) (msg : MintMsg) (token : Token) : Prop where
  /-- The token is there. -/
  found : ledger.token msg.symbol = some token
  /-- It allows minting. -/
  mintable : token.mintable = true
  /-- The sender owns it. -/
  owned : token.owner = msg.sender
  /-- The amount is something. -/
  positive : 0 < msg.amount.toInt
  /-- There is room for the amount. -/
  within : token.totalSupply.toInt + msg.amount.toInt ≤ Token.maxTotalSupply.toInt

/-- Why minting is refused; each cause comes with the checks that were passed before. -/
inductive MintRefused (ledger : Ledger) (params : Params) (msg : MintMsg) : AssetError → Prop
  /-- There is no such token. -/
  | unknown (absent : ledger.token msg.symbol = none) :
    MintRefused ledger params msg (.unknownToken msg.symbol)
  /-- The token does not allow minting. -/
  | notMintable {token : Token} (found : ledger.token msg.symbol = some token)
    (fixed : token.mintable = false) :
    MintRefused ledger params msg (.notMintable token.symbol)
  /-- The sender does not own the token. -/
  | unauthorized {token : Token} (found : ledger.token msg.symbol = some token)
    (mintable : token.mintable = true) (foreign : token.owner ≠ msg.sender) :
    MintRefused ledger params msg (.unauthorizedMint token.owner token.symbol)
  /-- The amount is nothing or does not fit. -/
  | amount {token : Token} (found : ledger.token msg.symbol = some token)
    (mintable : token.mintable = true) (owned : token.owner = msg.sender)
    (outside : msg.amount.toInt ≤ 0 ∨
      Token.maxTotalSupply.toInt < token.totalSupply.toInt + msg.amount.toInt) :
    MintRefused ledger params msg
      (.mintAmountAbove (Token.maxTotalSupply - token.totalSupply) msg.amount)
  /-- The sender lacks units of the fee. -/
  | fee {token : Token} (mintable : Mintable ledger msg token) (denom : String)
    (short : ledger.units msg.sender denom < params.mintFee.units denom) :
    MintRefused ledger params msg
      (.supply (.insufficientCoins (ledger.balance msg.sender) params.mintFee))
  /-- The units cannot be created. -/
  | units {token : Token} {cause : AssetError} (mintable : Mintable ledger msg token)
    (covered : ∀ denom, params.mintFee.units denom ≤ ledger.units msg.sender denom)
    (reason : UnitsRefused ledger msg.symbol msg.amount cause) :
    MintRefused ledger params msg cause

/-- What minting leaves: the token with more units, the fee with its collector and the new units
with the owner. -/
structure Minted (ledger : Ledger) (params : Params) (msg : MintMsg) (token : Token)
    (after : Ledger) : Prop where
  /-- All checks were passed. -/
  mintable : Mintable ledger msg token
  /-- The sender had the fee. -/
  covered : ∀ denom, params.mintFee.units denom ≤ ledger.units msg.sender denom
  /-- The symbol is a denomination. -/
  denom : Coin.isValidDenom msg.symbol = true
  /-- Where units went. -/
  moved : (ledger.setToken (grown token msg.amount)).Moved after
    (Ledger.only msg.sender params.mintFee.units)
    (fun address denom =>
      Ledger.only (Address.ofModule ModuleAccounts.feeCollector) params.mintFee.units address
          denom +
        Ledger.only msg.sender (unitsOf msg.symbol msg.amount) address denom)
    (unitsOf msg.symbol msg.amount)

/-- A token grows by the units that are created for its owner. -/
theorem runs_growUnits (balanced : ledger.Balanced) (present : ∃ denom, 0 < ledger.supply denom)
    {token : Token} (found : ledger.token token.symbol = some token) (amount : Int64) :
    (TokenBook.replace (grown token amount) >>= fun _ =>
      createUnits Chain.modules (grown token amount) amount mintedKey).Runs ledger
      (fun _ after emitted => emitted = [mintedEvent mintedKey (unitsCoin token.symbol amount)] ∧
        (amount.toInt ≠ 0 → Coin.isValidDenom token.symbol = true) ∧
        (ledger.setToken (grown token amount)).Moved after (fun _ _ => 0)
          (Ledger.only token.owner (unitsOf token.symbol amount)) (unitsOf token.symbol amount))
      (UnitsRefused ledger token.symbol amount) := by
  have taken : ledger.token (grown token amount).symbol = some token := found
  apply (TokenBook.yields_replace taken).bind
  have creating := runs_createUnits (balanced.setToken (grown token amount)) present
    (grown token amount) amount mintedKey
  have same : (ledger.setToken (grown token amount)).supply token.symbol =
      ledger.supply token.symbol := rfl
  exact creating.mono (fun _ _ _ given => given) fun _ reason => reason.of_supply same

/-- Minting from a ledger in use goes through exactly as described, or is refused for the first
check that fails. -/
theorem runs_mintSteps (sound : ledger.Sound params) (msg : MintMsg) :
    (mintSteps Chain.modules msg).Runs ledger
      (fun _ after emitted => (∃ token, Minted ledger params msg token after) ∧
        emitted = [mintedEvent mintedKey (unitsCoin msg.symbol msg.amount)])
      (MintRefused ledger params msg) := by
  obtain ⟨_, _, chargeable⟩ := (Params.validate_eq_ok_iff params).mp sound.usable
  unfold mintSteps
  refine (TokenBook.yields_find? fun token found =>
    (sound.registered msg.symbol token found).2).bind ?_
  split
  · next absent => exact runs_refuse (.unknown absent)
  next token found =>
  obtain ⟨named, storable⟩ := sound.registered msg.symbol token found
  have range := toInt_totalSupply storable
  refine runs_guard (fun fixed => .notMintable found (by simpa using fixed)) fun allowed => ?_
  have mintable : token.mintable = true := by simpa using allowed
  refine runs_guard (.unauthorized found mintable) fun notForeign => ?_
  have owned : token.owner = msg.sender := by simpa using notForeign
  obtain ⟨computed, room⟩ := subtract_maxTotalSupply range
  refine (yields_ofFaulty computed).bind (runs_guard ?_ fun inside => ?_)
  · intro outside
    rw [Int64.le_iff_toInt_le, Int64.lt_iff_toInt_lt, room] at outside
    exact .amount found mintable owned (outside.imp id fun above => by omega)
  rw [Int64.le_iff_toInt_le, Int64.lt_iff_toInt_lt, room, not_or] at inside
  obtain ⟨nonzero, fits⟩ := inside
  have positive : 0 < msg.amount.toInt := Int.not_le.mp nonzero
  have within : token.totalSupply.toInt + msg.amount.toInt ≤ Token.maxTotalSupply.toInt := by
    omega
  have passed : Mintable ledger msg token := ⟨found, mintable, owned, positive, within⟩
  obtain ⟨summed, sum⟩ := add_within range.1 positive within
  apply (Params.yields_getMintFee sound.configured.mintFee).bind
  apply (runs_chargeFee sound.balanced msg.sender chargeable).bind_refused
  · rintro cause ⟨rfl, denom, short⟩
    exact .fee passed denom short
  rintro _ middle _ ⟨rfl, charged⟩
  apply (yields_ofFaulty summed).bind
  have taken : middle.token token.symbol = some token := by
    rw [charged.moved.token_eq, named, found]
  have growing := runs_growUnits (charged.balanced sound.balanced)
    (charged.exists_supply sound.balanced chargeable) taken msg.amount
  rw [named, owned] at growing
  apply growing.mono
  · rintro _ after _ ⟨rfl, denom, created⟩
    have moved := (charged.moved.setToken (grown token msg.amount)).trans created
    simp only [Nat.add_zero, Nat.zero_add] at moved
    exact ⟨⟨token, passed, charged.covered, denom (by omega), moved⟩, rfl⟩
  · intro cause reason
    exact .units passed charged.covered (reason.of_supply (charged.supply_eq _))

/-- A token that grows within its range may be stored. -/
theorem Mintable.storable_grown {msg : MintMsg} {token : Token}
    (mintable : Mintable ledger msg token) (storable : token.Storable) :
    (grown token msg.amount).Storable := by
  have low := (toInt_totalSupply storable).1
  obtain ⟨_, sum⟩ := add_within low mintable.positive mintable.within
  refine ⟨storable.name, storable.description, storable.symbolLength, storable.symbol,
    storable.decimal, ?_⟩
  have positive := mintable.positive
  have within := mintable.within
  rw [Int64.le_iff_toInt_le, Int64.le_iff_toInt_le]
  change 0 ≤ (token.totalSupply + msg.amount).toInt ∧ _
  rw [show (grown token msg.amount).totalSupply = token.totalSupply + msg.amount from rfl, sum]
  exact ⟨by omega, within⟩

/-- Minting leaves a ledger in use. -/
theorem Minted.sound {msg : MintMsg} {token : Token} {after : Ledger}
    (minted : Minted ledger params msg token after) (sound : ledger.Sound params) :
    after.Sound params := by
  obtain ⟨_, storable⟩ := sound.registered _ _ minted.mintable.found
  have grownSound := sound.setToken (minted.mintable.storable_grown storable)
  exact minted.moved.sound grownSound fun denom => by
    rw [Finset.sum_add_distrib, Ledger.sum_only, Ledger.sum_only, Ledger.sum_only]

end TokenLedger.Issuance
