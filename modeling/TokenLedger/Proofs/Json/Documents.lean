import TokenLedger.Genesis
import TokenLedger.Message
import TokenLedger.Proofs.Address
import TokenLedger.Proofs.Json.Forms
import TokenLedger.Query

/-!
# The documents of the ledger

Messages, tokens, parameters, coin sets and genesis documents are written as records of their
fields. Each is kept, whatever its texts and numbers are, so it is read back from its compact and
from its pretty text. A message is read back with its type and its value in either order: a value
that stands first is held back until its type is known, which every value of a message allows.
-/

namespace TokenLedger

namespace Json

/-- An object with its members in reverse order; any other value as it is. -/
def reversed : Json → Json
  | .object members => .object members.reverse
  | json => json

/-! ## Values that can be held back -/

/-- A number of a word is in range. -/
theorem isWholeInRange_of_lt {magnitude : Nat} (small : magnitude < wordBound) :
    isWholeInRange magnitude = true := by
  simp [isWholeInRange, small]

/-- So is an integer of a word. -/
theorem isWholeInRange_int64 (value : Int64) : isWholeInRange value.toInt.natAbs = true := by
  have low := value.le_toInt
  have high := value.toInt_lt
  have word : wordBound = 0x10000000000000000 := by decide
  exact isWholeInRange_of_lt (by omega)

/-- And a small integer. -/
theorem isWholeInRange_int8 (value : Int8) : isWholeInRange value.toInt.natAbs = true := by
  have low := value.le_toInt
  have high := value.toInt_lt
  have word : wordBound = 0x10000000000000000 := by decide
  exact isWholeInRange_of_lt (by omega)

/-- A record can be held back if its values can, one level less deep. -/
theorem isHoldable_record {depth : Nat} {members : List (String × Json)}
    (each : ∀ member ∈ members, member.2.isHoldable depth = true) :
    (Json.record members).isHoldable (depth + 1) = true := by
  simp only [record, isHoldable]
  induction members with
  | nil => rfl
  | cons member others ih =>
    have first := each member List.mem_cons_self
    have rest := ih fun other listed => each other (List.mem_cons_of_mem _ listed)
    simp [membersHoldable, first, rest]

end Json

namespace JsonForm

/-! ## Records -/

/-- A field that may be missing is read if it is there and its value is kept. -/
theorem Keeps.orDefault?_eq {α : Type} [JsonForm α] {value : α} (keeps : Keeps value)
    (default : α) : Json.orDefault? default (some (toJson value)) = some value :=
  keeps.ofJson?_eq

/-- Addresses are kept. -/
theorem keeps_address (address : Address) : Keeps address where
  plain := .text address.text
  ofJson?_eq := by
    have parsed := Address.parse_text address
    simp only [toJson, ofJson?, Json.text, Json.text?, Option.bind_some, parsed]
    rfl

/-- Tokens are kept. -/
theorem keeps_token (token : Token) : Keeps token where
  plain := .record (by
    simp [Json.Plain.text, Json.Plain.bool, (keeps_int8 token.decimal).plain,
      (keeps_int64 token.totalSupply).plain, (keeps_address token.owner).plain])
  ofJson?_eq := by
    have fields : Json.fields? [["symbol"], ["name"], ["decimals"], ["total_supply"], ["mintable"],
        ["description"], ["owner"]] (toJson token) =
        some [some (toJson token.symbol), some (toJson token.name), some (toJson token.decimal),
          some (toJson token.totalSupply), some (toJson token.mintable),
          some (toJson token.description), some (toJson token.owner)] :=
      Json.fields?_record (by simp) (.refl _)
    simp only [ofJson?] at fields ⊢
    simp only [fields, Option.bind_eq_bind, Option.bind_some, (keeps_text _).required?_eq,
      (keeps_int8 _).required?_eq, (keeps_int64 _).required?_eq, (keeps_bool _).required?_eq,
      (keeps_address _).required?_eq]

/-- Parameters are kept. -/
theorem keeps_params (params : Params) : Keeps params where
  plain := .record (by
    simp [(keeps_int8 params.maxDecimal).plain, (keeps_coins params.issueFee).plain,
      (keeps_coins params.mintFee).plain])
  ofJson?_eq := by
    have fields : Json.fields? [["param_max_decimal"], ["param_issue_fee"], ["param_mint_fee"]]
        (toJson params) = some [some (toJson params.maxDecimal), some (toJson params.issueFee),
          some (toJson params.mintFee)] :=
      Json.fields?_record (by simp) (.refl _)
    simp only [ofJson?] at fields ⊢
    simp only [fields, Option.bind_eq_bind, Option.bind_some, (keeps_int8 _).required?_eq,
      (keeps_coins _).required?_eq]

/-- What accounts hold is kept. -/
theorem keeps_accountBalance (balance : AccountBalance) : Keeps balance where
  plain := .record (by
    simp [(keeps_address balance.address).plain, (keeps_coins balance.coins).plain])
  ofJson?_eq := by
    have fields : Json.fields? [["address"], ["coins"]] (toJson balance) =
        some [some (toJson balance.address), some (toJson balance.coins)] :=
      Json.fields?_record (by simp) (.refl _)
    simp only [ofJson?] at fields ⊢
    simp only [fields, Option.bind_eq_bind, Option.bind_some, (keeps_address _).required?_eq,
      (keeps_coins _).required?_eq]

/-- Lists of tokens are kept. -/
theorem keeps_tokens (tokens : List Token) : Keeps tokens :=
  keeps_list tokens fun token _ => keeps_token token

/-- The part of a genesis document about tokens is kept. -/
theorem keeps_assetGenesis (genesis : AssetGenesis) : Keeps genesis where
  plain := .record (by
    simp [(keeps_params genesis.params).plain, (keeps_tokens genesis.tokens).plain])
  ofJson?_eq := by
    have fields : Json.fields? [["params"], ["tokens"]] (toJson genesis) =
        some [some (toJson genesis.params), some (toJson genesis.tokens)] :=
      Json.fields?_record (by simp) (.refl _)
    simp only [ofJson?] at fields ⊢
    simp only [fields, Option.bind_eq_bind, Option.bind_some, (keeps_params _).required?_eq,
      (keeps_tokens _).orDefault?_eq]

/-- Genesis documents are kept. -/
theorem keeps_genesis (genesis : Genesis) : Keeps genesis where
  plain := .record (by
    have balances := keeps_list genesis.balances fun balance _ => keeps_accountBalance balance
    simp [Json.Plain.text, balances.plain, (keeps_assetGenesis genesis.asset).plain])
  ofJson?_eq := by
    have balances := keeps_list genesis.balances fun balance _ => keeps_accountBalance balance
    have fields : Json.fields? [["chain_id"], ["balances"], ["asset"]] (toJson genesis) =
        some [some (toJson genesis.chainId), some (toJson genesis.balances),
          some (toJson genesis.asset)] :=
      Json.fields?_record (by simp) (.refl _)
    simp only [ofJson?] at fields ⊢
    simp only [fields, Option.bind_eq_bind, Option.bind_some, (keeps_text _).orDefault?_eq,
      balances.orDefault?_eq, (keeps_assetGenesis _).orDefault?_eq]

/-- Requests for a page are kept. -/
theorem keeps_pageRequest (request : PageRequest) : Keeps request where
  plain := .record (by simp [(keeps_word request.page).plain, (keeps_word request.limit).plain])
  ofJson?_eq := by
    have fields : Json.fields? [["page", "Page"], ["limit", "Limit"]] (toJson request) =
        some [some (toJson request.page), some (toJson request.limit)] := rfl
    simp only [ofJson?] at fields ⊢
    simp only [fields, Option.bind_eq_bind, Option.bind_some, (keeps_word _).required?_eq]

/-! ## Messages -/

/-- Requests to create a token are kept. -/
theorem keeps_issueMsg (msg : IssueMsg) : Keeps msg where
  plain := .record (by
    simp [Json.Plain.text, Json.Plain.bool, (keeps_address msg.sender).plain,
      (keeps_int64 msg.totalSupply).plain, (keeps_int8 msg.decimal).plain])
  ofJson?_eq := by
    have fields : Json.fields? [["from"], ["name"], ["symbol"], ["total_supply"], ["mintable"],
        ["decimal"], ["description"]] (toJson msg) =
        some [some (toJson msg.sender), some (toJson msg.name), some (toJson msg.symbol),
          some (toJson msg.totalSupply), some (toJson msg.mintable), some (toJson msg.decimal),
          some (toJson msg.description)] :=
      Json.fields?_record (by simp) (.refl _)
    simp only [ofJson?] at fields ⊢
    simp only [fields, Option.bind_eq_bind, Option.bind_some, (keeps_text _).required?_eq,
      (keeps_int8 _).required?_eq, (keeps_int64 _).required?_eq, (keeps_bool _).required?_eq,
      (keeps_address _).required?_eq]

/-- Requests to add units to a token are kept. -/
theorem keeps_mintMsg (msg : MintMsg) : Keeps msg where
  plain := .record (by
    simp [Json.Plain.text, (keeps_address msg.sender).plain, (keeps_int64 msg.amount).plain])
  ofJson?_eq := by
    have fields : Json.fields? [["from"], ["symbol"], ["amount"]] (toJson msg) =
        some [some (toJson msg.sender), some (toJson msg.symbol), some (toJson msg.amount)] :=
      Json.fields?_record (by simp) (.refl _)
    simp only [ofJson?] at fields ⊢
    simp only [fields, Option.bind_eq_bind, Option.bind_some, (keeps_text _).required?_eq,
      (keeps_int64 _).required?_eq, (keeps_address _).required?_eq]

/-- A request to create a token can be held back. -/
theorem isHoldable_issueMsg (msg : IssueMsg) :
    (toJson msg).isHoldable Message.maxHeldDepth = true :=
  Json.isHoldable_record (by
    simp [toJson, Json.text, Json.isHoldable, Json.isWholeInRange_int64,
      Json.isWholeInRange_int8])

/-- So can a request to add units to a token. -/
theorem isHoldable_mintMsg (msg : MintMsg) :
    (toJson msg).isHoldable Message.maxHeldDepth = true :=
  Json.isHoldable_record (by
    simp [toJson, Json.text, Json.isHoldable, Json.isWholeInRange_int64])

/-- A message is read from its type and its value in whatever order, if the value can be held back
until the type is known. -/
theorem ofJson?_typeAndValue {type value : Json} {listed : List (String × Json)}
    (holdable : value.isHoldable Message.maxHeldDepth = true)
    (order : listed.Perm [("type", type), ("value", value)]) :
    (ofJson? (.record listed) : Option Message) = Message.ofTypeAndValue? type value := by
  have fields : Json.fields? [["type"], ["value"]] (.record listed) =
      some [some type, some value] :=
    Json.fields?_record (by simp) order
  rw [Json.record] at fields ⊢
  simp only [ofJson?, fields, Option.bind_eq_bind, Option.bind_some, holdable, Bool.or_true,
    if_true]

/-- The members of the document of a message. -/
def typeAndValue : Message → List (String × Json)
  | .issue msg => [("type", .text (Message.typeName .issue)), ("value", toJson msg)]
  | .mint msg => [("type", .text (Message.typeName .mint)), ("value", toJson msg)]

/-- A message is read from its members in whatever order. -/
theorem spells_message (message : Message) {listed : List (String × Json)}
    (order : listed.Perm (typeAndValue message)) : Spells (.record listed) message := by
  have plain : ∀ member ∈ typeAndValue message, member.2.Plain := by
    cases message with
    | issue msg => simp [typeAndValue, Json.Plain.text, (keeps_issueMsg msg).plain]
    | mint msg => simp [typeAndValue, Json.Plain.text, (keeps_mintMsg msg).plain]
  refine spells_of_plain (.record fun member inside => plain member (order.mem_iff.mp inside)) ?_
  cases message with
  | issue msg =>
    have value := (keeps_issueMsg msg).ofJson?_eq
    rw [ofJson?_typeAndValue (isHoldable_issueMsg msg) order]
    change (ofJson? (toJson msg)).map Message.issue = _
    rw [value, Option.map_some]
  | mint msg =>
    have value := (keeps_mintMsg msg).ofJson?_eq
    rw [ofJson?_typeAndValue (isHoldable_mintMsg msg) order]
    change (ofJson? (toJson msg)).map Message.mint = _
    rw [value, Option.map_some]

/-! ## Every document is read back -/

/-- Every message, token, set of parameters, coin set and genesis document is read back from its
compact and its pretty text, given as characters or as bytes, and a message also from the texts in
which its value stands in front of its type. -/
theorem documents_read_back :
    (∀ message : Message, Spells (toJson message) message ∧
      Spells (toJson message).reversed message) ∧
    (∀ token : Token, Spells (toJson token) token) ∧
    (∀ params : Params, Spells (toJson params) params) ∧
    (∀ coins : Coins, Spells (toJson coins) coins ∧
      Supply.decodeCoins (writeBytes coins) = .ok coins) ∧
    (∀ genesis : AssetGenesis, Spells (toJson genesis) genesis) ∧
    (∀ genesis : Genesis, Spells (toJson genesis) genesis) := by
  refine ⟨fun message => ?_, fun token => (keeps_token token).spells,
    fun params => (keeps_params params).spells, fun coins => ?_,
    fun genesis => (keeps_assetGenesis genesis).spells,
    fun genesis => (keeps_genesis genesis).spells⟩
  · have written : toJson message = .record (typeAndValue message) := by cases message <;> rfl
    have swapped : (toJson message).reversed = .record (typeAndValue message).reverse := by
      cases message <;> rfl
    rw [swapped, written]
    exact ⟨spells_message message (.refl _), spells_message message (List.reverse_perm _)⟩
  · have stored := (keeps_coins coins).readBytes?_writeBytes
    refine ⟨(keeps_coins coins).spells, ?_⟩
    rw [Supply.decodeCoins, stored]

end JsonForm

end TokenLedger
