import TokenLedger.Proofs.Chain.Denominations
import TokenLedger.Proofs.Chain.Steps
import TokenLedger.Proofs.Ledger.Readings

/-!
# The life of a token

Once a token is stored it stays under its symbol, and of its fields only the total supply changes.
The total supply never falls, and it rises only when its owner mints. It stays in the range in which
minting computes with words exactly. This is shown of one message, then of a call, then of a run.
-/

namespace TokenLedger

open TokenLedger.Issuance

variable {ledger middle after : Ledger} {params : Params}

/-- What may have become of a token: the same one with as many units, or with more, if `minted`. -/
structure Token.Develops (token later : Token) (minted : Prop) : Prop where
  /-- Nothing but the total supply changed. -/
  frame : later = { token with totalSupply := later.totalSupply }
  /-- The total supply did not fall. -/
  grown : token.totalSupply ≤ later.totalSupply
  /-- It rose only if units were minted. -/
  minted : token.totalSupply < later.totalSupply → minted
  /-- A token that does not allow minting is as it was. -/
  fixed : token.mintable = false → later = token

namespace Token.Develops

variable {token next last : Token} {first second : Prop}

/-- A token may stay as it is. -/
theorem refl (token : Token) (minted : Prop) : token.Develops token minted :=
  ⟨rfl, Int64.le_refl _, fun more => absurd more (Int64.lt_irrefl), fun _ => rfl⟩

/-- Another reason for units to be minted will do. -/
theorem mono (develops : token.Develops next first) (weaker : first → second) :
    token.Develops next second :=
  ⟨develops.frame, develops.grown, fun more => weaker (develops.minted more), develops.fixed⟩

/-- The symbol of a token stays. -/
theorem symbol_eq (develops : token.Develops next first) : next.symbol = token.symbol := by
  rw [develops.frame]

/-- The owner of a token stays. -/
theorem owner_eq (develops : token.Develops next first) : next.owner = token.owner := by
  rw [develops.frame]

/-- What becomes of a token in two stretches becomes of it in both together. -/
theorem trans (early : token.Develops next first) (late : next.Develops last second) :
    token.Develops last (first ∨ second) where
  frame := by
    rw [late.frame, early.frame]
  grown := Int64.le_trans early.grown late.grown
  minted more := by
    -- If the first stretch added nothing, the second one did.
    by_cases rose : token.totalSupply < next.totalSupply
    · exact .inl (early.minted rose)
    · have same : next.totalSupply = token.totalSupply :=
        Int64.le_antisymm (Int64.not_lt.mp rose) early.grown
      rw [← same] at more
      exact .inr (late.minted more)
  fixed never := by
    have unchanged := early.fixed never
    rw [← unchanged] at never
    rw [late.fixed never, unchanged]

end Token.Develops

/-- The tokens of a ledger are still there in another one, each as it may have become. -/
def Ledger.Develops (ledger after : Ledger) (minted : Token → Prop) : Prop :=
  ∀ symbol token, ledger.token symbol = some token →
    ∃ later, after.token symbol = some later ∧ token.Develops later (minted token)

namespace Ledger.Develops

/-- Where tokens stay they may have developed. -/
theorem of_token_eq (same : after.token = ledger.token) (minted : Token → Prop) :
    ledger.Develops after minted := by
  intro symbol token found
  rw [← same] at found
  exact ⟨token, found, .refl token _⟩

/-- Another reason for units to be minted will do. -/
theorem mono {minted reason : Token → Prop} (develops : ledger.Develops after minted)
    (weaker : ∀ token, minted token → reason token) : ledger.Develops after reason := by
  intro symbol token found
  obtain ⟨later, here, become⟩ := develops symbol token found
  exact ⟨later, here, become.mono (weaker token)⟩

/-- Tokens develop in two stretches if what is minted for a token depends on its symbol and owner
only. -/
theorem trans {early late : Token → Prop} (first : ledger.Develops middle early)
    (second : middle.Develops after late)
    (named : ∀ token later, later.symbol = token.symbol → later.owner = token.owner →
      late later → late token) :
    ledger.Develops after fun token => early token ∨ late token := by
  intro symbol token found
  obtain ⟨next, here, become⟩ := first symbol token found
  obtain ⟨last, there, further⟩ := second symbol next here
  exact ⟨last, there, (become.trans further).mono (Or.imp id
    (named token next become.symbol_eq become.owner_eq))⟩

end Ledger.Develops

/-! ## One message -/

/-- A message to issue leaves every token that is there. -/
theorem Issuance.Issued.develops {regime : Regime} {msg : IssueMsg}
    (issued : Issued ledger params regime msg after) (minted : Token → Prop) :
    ledger.Develops after minted := by
  intro symbol token found
  refine ⟨token, ?_, .refl token _⟩
  have other : symbol ≠ msg.token.symbol := by
    rintro rfl
    rw [show ledger.token msg.token.symbol = none from issued.issuable.free] at found
    contradiction
  rw [issued.moved.token_eq, Ledger.token_setToken, if_neg other, found]

/-- A token that is minted has more units and is the same otherwise. -/
theorem Issuance.Mintable.develops {msg : MintMsg} {token : Token}
    (mintable : Mintable ledger msg token) (storable : token.Storable) :
    token.Develops (grown token msg.amount) True where
  frame := rfl
  grown := by
    have low := (toInt_totalSupply storable).1
    obtain ⟨_, sum⟩ := add_within low mintable.positive mintable.within
    have positive := mintable.positive
    rw [Int64.le_iff_toInt_le]
    change token.totalSupply.toInt ≤ (token.totalSupply + msg.amount).toInt
    omega
  minted _ := trivial
  fixed never := by
    rw [mintable.mintable] at never
    contradiction

/-- A message to mint leaves every token that is there, and gives units to the one that it names if
the sender owns it. -/
theorem Issuance.Minted.develops {msg : MintMsg} {token : Token}
    (minted : Minted ledger params msg token after) (registered : ledger.Registered) :
    ledger.Develops after fun token => msg.symbol = token.symbol ∧ msg.sender = token.owner := by
  obtain ⟨named, storable⟩ := registered _ _ minted.mintable.found
  intro symbol other found
  rw [minted.moved.token_eq, Ledger.token_setToken]
  by_cases same : symbol = (grown token msg.amount).symbol
  · have symbols : symbol = msg.symbol := same.trans named
    rw [symbols, minted.mintable.found] at found
    injection found with found
    subst found
    rw [if_pos same]
    exact ⟨_, rfl, (minted.mintable.develops storable).mono fun _ =>
      ⟨named.symm, minted.mintable.owned.symm⟩⟩
  · rw [if_neg same]
    exact ⟨other, found, .refl other _⟩

/-! ## Ranges and readings -/

/-- A token whose total supply is in its range, in which minting computes with words exactly. -/
structure Token.InRange (token : Token) : Prop where
  /-- The total supply is not negative. -/
  low : 0 ≤ token.totalSupply
  /-- The total supply is at most the greatest. -/
  high : token.totalSupply ≤ Token.maxTotalSupply
  /-- The units that can be minted yet are counted exactly. -/
  room : subtract Token.maxTotalSupply token.totalSupply =
    .ok (Token.maxTotalSupply - token.totalSupply)
  /-- If there is room for an amount, the sum is exact. -/
  sum : ∀ amount : Int64,
    ¬ (amount ≤ 0 ∨ Token.maxTotalSupply - token.totalSupply < amount) →
      add token.totalSupply amount = .ok (token.totalSupply + amount)

/-- The total supply of a token that may be stored is in its range. -/
theorem Token.Storable.inRange {token : Token} (storable : token.Storable) : token.InRange := by
  have range := toInt_totalSupply storable
  obtain ⟨computed, room⟩ := subtract_maxTotalSupply range
  refine ⟨storable.totalSupply.1, storable.totalSupply.2, computed, fun amount inside => ?_⟩
  rw [Int64.le_iff_toInt_le, Int64.lt_iff_toInt_lt, room, not_or] at inside
  have positive : 0 < amount.toInt := Int.not_le.mp inside.1
  exact (add_within range.1 positive (by omega)).1

/-- The tokens that are read of a view are read of another one, each as it may have become. -/
def View.Develops (view later : View) (minted : Token → Prop) : Prop :=
  ∀ symbol token, view.token symbol = .ok (some token) →
    ∃ developed, later.token symbol = .ok (some developed) ∧
      token.Develops developed (minted token)

namespace Chain

variable {chain : Chain}

/-! ## Calls -/

/-- A message of the owner of a token to mint it, that is accepted. -/
inductive OwnerMint (token : Token) : Call → Reply → Prop
  /-- It names the token, and the owner sent it. -/
  | accepted {mint : MintMsg} {result : TxResult} (named : mint.symbol = token.symbol)
    (signed : (Message.mint mint).signer = token.owner) (success : result.isAccepted = true) :
    OwnerMint token (.deliver (.mint mint)) (.delivered (.ok result))

/-- The owner of a token mints it in some call of a run. -/
def OwnerMints (chain : Chain) (calls : List Call) (token : Token) : Prop :=
  ∃ past call rest, calls = past ++ call :: rest ∧
    OwnerMint token call ((chain.run past).reply call)

/-- Who may mint a token is told by its symbol and its owner. -/
theorem OwnerMints.of_later {calls : List Call} {token later : Token}
    (symbol : later.symbol = token.symbol) (owner : later.owner = token.owner)
    (mints : chain.OwnerMints calls later) : chain.OwnerMints calls token := by
  obtain ⟨past, call, rest, split, mint⟩ := mints
  refine ⟨past, call, rest, split, ?_⟩
  generalize (chain.run past).reply call = reply at mint ⊢
  cases mint with
  | accepted named signed success =>
    exact .accepted (named.trans symbol) (signed.trans owner) success

/-- A token is minted in calls if it is in the first one or in the others. -/
theorem ownerMints_cons {call : Call} {calls : List Call} {token : Token}
    (mints : OwnerMint token call (chain.reply call) ∨ (chain.after call).OwnerMints calls token) :
    chain.OwnerMints (call :: calls) token := by
  rcases mints with first | ⟨past, mint, rest, split, later⟩
  · exact ⟨[], call, calls, rfl, first⟩
  · exact ⟨call :: past, mint, rest, congrArg (call :: ·) split, later⟩

/-- In a step tokens stay, but for units that their owners mint. -/
theorem Step.develops {call : Call} {reply : Reply} {next : Chain}
    (step : chain.Step ledger call reply next after) (carries : chain.Carries ledger) :
    ledger.Develops after fun token => OwnerMint token call reply := by
  cases step with
  | loaded fresh =>
    obtain ⟨rfl, _⟩ := carries.unloaded fresh
    exact fun _ _ found => nomatch found
  | applied sound _ _ transition =>
    cases transition with
    | issue issued => exact issued.develops _
    | mint minted =>
      refine (minted.develops sound.registered).mono fun token named => ?_
      exact .accepted named.1 named.2 rfl
  | _ => exact .of_token_eq rfl _

/-- In a run tokens stay, but for units that their owners mint. -/
theorem Carries.exists_develops (carries : chain.Carries ledger) (calls : List Call) :
    ∃ after, (chain.run calls).Carries after ∧ ledger.Develops after (chain.OwnerMints calls) := by
  induction calls generalizing chain ledger with
  | nil => exact ⟨ledger, carries, .of_token_eq rfl _⟩
  | cons call rest ih =>
    obtain ⟨middle, step, left⟩ := carries.steps call
    obtain ⟨after, last, later⟩ := ih left
    refine ⟨after, last, ?_⟩
    exact ((step.develops carries).trans later fun _ _ => OwnerMints.of_later).mono fun _ =>
      ownerMints_cons

/-! ## Runs -/

/-- The tokens of the latest store are those of the ledger that the chain carries. -/
theorem Carries.token_latest (carries : chain.Carries ledger) (symbol : String) :
    chain.latest.token symbol = .ok (ledger.token symbol) :=
  View.token_eq carries.holds carries.registered symbol

/-- In a run the tokens of the latest store stay, but for units that their owners mint. -/
theorem Carries.latest_develops (carries : chain.Carries ledger) (calls : List Call) :
    chain.latest.Develops (chain.run calls).latest (chain.OwnerMints calls) := by
  obtain ⟨after, last, develops⟩ := carries.exists_develops calls
  intro symbol token found
  rw [carries.token_latest] at found
  injection found with found
  obtain ⟨later, here, become⟩ := develops symbol token found
  exact ⟨later, by rw [last.token_latest, here], become⟩

/-- The tokens of the latest store stand under their symbols, in range. -/
theorem Carries.exists_token (carries : chain.Carries ledger) (symbol : String) :
    ∃ stored, chain.latest.token symbol = .ok stored ∧
      ∀ token, stored = some token → token.symbol = symbol ∧ token.InRange := by
  refine ⟨_, carries.token_latest symbol, fun token found => ?_⟩
  obtain ⟨named, storable⟩ := carries.registered symbol token found
  exact ⟨named, storable.inRange⟩

/-- In every run of a chain that was created, and whatever calls follow, the tokens of the latest
store stay, each under its symbol and with all fields but the total supply, which never falls, rises
only if the owner mints the token in one of these calls, and does not change if the token does not
allow minting. The same holds of the committed store, where the calls are those between the points
at which the two were the latest store. At each point every token of both stores is in range, and a
message to mint runs into no fault, whatever its amount. -/
theorem tokens_develop {config : NodeConfig} {fresh : Chain}
    (created : create config = .ok fresh) (calls more : List Call) :
    (fresh.run calls).latest.Develops (fresh.run (calls ++ more)).latest
      ((fresh.run calls).OwnerMints more) ∧
    (∃ past between rest, calls ++ more = past ++ between ++ rest ∧ past <+: calls ∧
      (fresh.run past).latest = .base (fresh.run calls).committed ∧
      (fresh.run (past ++ between)).latest = .base (fresh.run (calls ++ more)).committed ∧
      (View.base (fresh.run calls).committed).Develops
        (.base (fresh.run (calls ++ more)).committed) ((fresh.run past).OwnerMints between)) ∧
    (∀ view, (fresh.run calls).Shows view → ∀ symbol, ∃ stored, view.token symbol = .ok stored ∧
      ∀ token, stored = some token → token.symbol = symbol ∧ token.InRange) ∧
    ∀ mint : MintMsg, ((fresh.run calls).reply (.deliver (.mint mint))).fault? = none := by
  have sound := sound_create created
  obtain ⟨_, _, _, same⟩ := eq_beginning_of_create created
  have closed : fresh.block = none := by rw [same]; rfl
  have developed : ∀ past later, (fresh.run past).latest.Develops
      (fresh.run (past ++ later)).latest ((fresh.run past).OwnerMints later) := by
    intro past later
    obtain ⟨_, carries⟩ := (sound.run past).exists_carries
    rw [run_append]
    exact carries.latest_develops later
  -- Committed stores are the latest ones of earlier points, so what holds there holds of them.
  refine ⟨developed calls more, ?_, fun view shown symbol => ?_, fun mint => ?_⟩
  · obtain ⟨past, between, rest, split, started, early, late⟩ :=
      sound.exists_points closed calls more
    refine ⟨past, between, rest, split, started, early, late, ?_⟩
    rw [← early, ← late]
    exact developed past between
  · obtain ⟨past, _, _, latest⟩ := sound.exists_point closed shown
    obtain ⟨_, carries⟩ := (sound.run past).exists_carries
    rw [← latest]
    exact carries.exists_token symbol
  · obtain ⟨_, carries⟩ := (sound.run calls).exists_carries
    obtain ⟨_, step, _⟩ := carries.steps (.deliver (.mint mint))
    exact step.fault?_eq_none

/-- A token that is issued in the first block of a small chain is there once the block is
committed. -/
theorem tokens_develop_sample : ∃ token later,
    (Sample.fresh.run [.initChain Sample.genesis, .beginBlock 1,
      .deliver (.issue Sample.shortIssue)]).latest.token "ab" = .ok (some token) ∧
    (Sample.fresh.run [.initChain Sample.genesis, .beginBlock 1,
      .deliver (.issue Sample.shortIssue), .endBlock, .commit]).latest.token "ab" =
        .ok (some later) ∧
    token.Develops later ((Sample.fresh.run [.initChain Sample.genesis, .beginBlock 1,
      .deliver (.issue Sample.shortIssue)]).OwnerMints [.endBlock, .commit] token) := by
  obtain ⟨issued, block, ledger, delivered, processes, sound, mints⟩ := Sample.exists_issued
  obtain ⟨token, mintable⟩ := mints.mintable
  have reached : Sample.fresh.run ([.initChain Sample.genesis, .beginBlock 1] ++
      [.deliver (.issue Sample.shortIssue)]) = issued := by
    rw [run_append]
    exact run_deliver delivered
  have found : issued.latest.token "ab" = .ok (some token) := by
    rw [latest_of_open processes.isOpen, View.token_eq processes.holds sound.registered]
    exact congrArg Except.ok mintable.found
  rw [← reached] at found
  obtain ⟨later, there, become⟩ := (tokens_develop Sample.created
    [.initChain Sample.genesis, .beginBlock 1, .deliver (.issue Sample.shortIssue)]
    [.endBlock, .commit]).1 "ab" token found
  exact ⟨token, later, found, there, become⟩

end Chain

end TokenLedger
