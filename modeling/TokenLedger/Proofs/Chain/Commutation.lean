import TokenLedger.Proofs.Chain.Changes
import TokenLedger.Proofs.Chain.Rejection

/-!
# Independent messages commute

Two messages of different signers about different symbols share the records of the collector of
fees, of the token module and of the total supply, which each of them reads and rewrites. Neither
looks at what the other one changes in them, so each is answered alike before and after the other
one, and either order leaves the same ledger. As the records that are written are the same, too, so
are the pending writes.
-/

namespace TokenLedger

namespace Token

/-- A letter made small stays as it is. -/
theorem toLower_toLower (letter : Char) : letter.toLower.toLower = letter.toLower := by
  unfold Char.toLower
  grind

/-- A text made small stays as it is. -/
theorem lowered_lowered (text : String) : lowered (lowered text) = lowered text := by
  rw [lowered, lowered, String.toList_ofList, List.map_map]
  exact congrArg String.ofList (List.map_congr_left fun letter _ => toLower_toLower letter)

end Token

namespace Message

/-- The symbol of a message, as it is spelt. -/
def symbol : Message → String
  | .issue msg => msg.symbol
  | .mint msg => msg.symbol

/-- Made small, the symbol under which a message finds its token is the one it spells. -/
theorem lowered_tokenSymbol (message : Message) :
    Token.lowered message.tokenSymbol = Token.lowered message.symbol := by
  cases message with
  | issue msg => exact Token.lowered_lowered msg.symbol
  | mint msg => rfl

/-- The slots that a message writes, by the verdict on it. -/
def written (message : Message) : Except AssetError Unit → List Slot
  | .error _ => []
  | .ok () => message.slots

end Message

open WriteSet

namespace Chain

open TokenLedger.Action

variable {chain : Chain} {block : OpenBlock} {ledger : Ledger} {params : Params}

/-- The verdict of the chain on a message: that on its admission, then that of its transition. -/
def judge (registry : Registry Migration) (ledger : Ledger) (params : Params) (message : Message) :
    Except AssetError Unit := do
  admission registry message
  Issuance.verdict ledger params (Regime.ofRegistry registry) message

/-- What a delivery answers by the verdict. -/
def answerOf (message : Message) : Except AssetError Unit → TxResult
  | .error cause => .rejected cause
  | .ok () => .accepted [Issuance.createdEvent message]

/-- What is rejected fails the verdict. -/
theorem judge_of_rejected (sound : ledger.Sound params) {registry : Registry Migration}
    {message : Message} {cause : AssetError}
    (rejected : Rejected registry ledger params message cause) :
    judge registry ledger params message = .error cause := by
  cases rejected with
  | admission broken =>
    rw [judge, broken]
    rfl
  | transition admitted reason =>
    rw [judge, admitted]
    exact Issuance.verdict_of_refused sound reason

/-- What is applied passes the verdict. -/
theorem judge_of_applied (sound : ledger.Sound params) {registry : Registry Migration}
    {message : Message} {after : Ledger} (admitted : admission registry message = .ok ())
    (applied : Issuance.Applied ledger params (Regime.ofRegistry registry) message after) :
    judge registry ledger params message = .ok () := by
  rw [judge, admitted]
  exact Issuance.verdict_of_applied sound applied

/-- A message that is accepted writes its slots. -/
theorem adds_of_deliver (processes : chain.Processes block ledger)
    (registered : ledger.Registered) {message : Message} {result : TxResult} {writes : WriteSet}
    (delivered : chain.deliver message = (.ok result, chain.withWrites block writes))
    (success : result.isAccepted = true) : Adds block.writes writes message.slots := by
  rw [deliver_eq] at delivered
  obtain ⟨⟨given, events⟩, worked, rfl⟩ := exists_of_map_eq_ok delivered
  obtain ⟨after, performed, _, left⟩ := exists_perform_of_inBlock processes.isOpen worked
  obtain ⟨handled, _⟩ := handled_of_accepted performed success
  have footprint : (Issuance.handle modules (Regime.ofRegistry chain.registry) message).WritesAt
      ⟨block.view chain.committed, block.height, []⟩ message.slots :=
    Issuance.writesAt_handle modules _ registered message processes.holds
  obtain ⟨merged, layered, adds⟩ := footprint _ block.writes () after rfl handled
  have blocks := Option.some.inj (congrArg Chain.block left)
  have same : writes = merged := by
    rw [show writes = after.view.pending from congrArg OpenBlock.writes blocks, layered]
    rfl
  rw [same]
  exact adds

/-- What a delivery does: what it answers, and which ledger the open block holds afterwards, is told
by the verdict, and so is where its pending writes go. -/
structure Delivers (chain : Chain) (block : OpenBlock) (ledger : Ledger) (params : Params)
    (message : Message) (writes : WriteSet) (after : Ledger) : Prop where
  /-- The answer, and the chain that is left. -/
  answered : chain.deliver message =
    (.ok (answerOf message (judge chain.registry ledger params message)),
      chain.withWrites block writes)
  /-- The ledger that the open block holds afterwards. -/
  processes : (chain.withWrites block writes).Processes { block with writes } after
  /-- It is in use. -/
  sound : after.Sound params
  /-- How it differs from the one before. -/
  leads : (message.change params (judge chain.registry ledger params message)).Leads ledger after
  /-- The slots that are written. -/
  adds : Adds block.writes writes (message.written (judge chain.registry ledger params message))

/-- Every message is delivered. -/
theorem exists_delivers (processes : chain.Processes block ledger) (sound : ledger.Sound params)
    (message : Message) :
    ∃ writes after, chain.Delivers block ledger params message writes after := by
  rcases deliver_cases processes sound message with
    ⟨cause, rejected, delivered⟩ | ⟨after, writes, admitted, applied, delivered, left⟩
  · have judged := judge_of_rejected sound rejected
    have unchanged : chain.withWrites block block.writes = chain := by
      rw [withWrites, ← processes.isOpen]
    refine ⟨block.writes, ledger, ?_, ?_, sound, ?_, ?_⟩
    · rw [judged, unchanged]
      exact delivered
    · rw [unchanged]
      exact processes
    · rw [judged]
      exact Change.leads_nothing sound.balanced.formed _
    · rw [judged]
      exact adds_nil block.writes
  · have judged := judge_of_applied sound admitted applied
    refine ⟨writes, after, ?_, left, ?_, ?_, ?_⟩
    · rw [judged]
      exact delivered
    · exact applied.sound sound (checkBasic_of_admission admitted)
    · rw [judged]
      exact Issuance.leads_of_applied sound.registered applied
    · rw [judged]
      exact adds_of_deliver processes sound.registered delivered rfl

/-- Messages that have no effect on each other's verdict. The collector of fees signs neither: what
it can pay depends on the fees that it was paid before. -/
structure Independent (first second : Message) : Prop where
  /-- They have different signers. -/
  signers : first.signer ≠ second.signer
  /-- They are about different symbols. -/
  symbols : first.tokenSymbol ≠ second.tokenSymbol
  /-- The first has another signer than the collector of fees. -/
  first : first.signer ≠ Address.ofModule ModuleAccounts.feeCollector
  /-- So has the second. -/
  second : second.signer ≠ Address.ofModule ModuleAccounts.feeCollector

/-- Independence goes both ways. -/
theorem Independent.symm {first second : Message} (independent : Independent first second) :
    Independent second first :=
  ⟨independent.signers.symm, independent.symbols.symm, independent.second, independent.first⟩

/-- A message is judged in the same way after one that is independent of it. -/
theorem Delivers.judge_eq {first second : Message} {writes : WriteSet} {after : Ledger}
    (delivers : chain.Delivers block ledger params first writes after)
    (sound : ledger.Sound params) (independent : Independent first second) :
    judge chain.registry after params second = judge chain.registry ledger params second := by
  rw [judge, judge, Issuance.verdict_of_change delivers.leads sound.balanced.formed
    independent.signers.symm independent.second independent.symbols.symm]

/-- What two independent messages do one after the other: each of them does what it does alone. -/
structure DeliversBoth (chain : Chain) (block : OpenBlock) (ledger : Ledger) (params : Params)
    (first second : Message) (writes : WriteSet) (middle after : Ledger) : Prop where
  /-- The answers, and the chain that is left. -/
  answered : chain.deliverAll [first, second] =
    ([(first, .ok (answerOf first (judge chain.registry ledger params first))),
      (second, .ok (answerOf second (judge chain.registry ledger params second)))],
      chain.withWrites block writes)
  /-- The store through the writes that are left. -/
  holds : (OpenBlock.view { block with writes } chain.committed).flatten.Holds after
  /-- What the first message changes. -/
  leads : (first.change params (judge chain.registry ledger params first)).Leads ledger middle
  /-- What the second one changes. -/
  onward : (second.change params (judge chain.registry ledger params second)).Leads middle after
  /-- The slots that are written. -/
  adds : Adds block.writes writes
    (first.written (judge chain.registry ledger params first) ++
      second.written (judge chain.registry ledger params second))

/-- Independent messages are delivered one after the other. -/
theorem exists_deliversBoth (processes : chain.Processes block ledger)
    (sound : ledger.Sound params) {first second : Message}
    (independent : Independent first second) :
    ∃ writes middle after, chain.DeliversBoth block ledger params first second writes middle
      after := by
  obtain ⟨early, middle, one⟩ := exists_delivers processes sound first
  obtain ⟨writes, after, other⟩ := exists_delivers one.processes one.sound second
  have judged : judge (chain.withWrites block early).registry middle params second =
      judge chain.registry ledger params second := one.judge_eq sound independent
  refine ⟨writes, middle, after, ?_, other.processes.holds, one.leads, ?_, ?_⟩
  · have last := other.answered
    rw [judged] at last
    simp only [deliverAll, one.answered, last]
    rfl
  · rw [← judged]
    exact other.leads
  · have later := other.adds
    rw [judged] at later
    exact one.adds.append later

/-- Independent messages commute in an open block. -/
theorem deliverAll_pair_eq (processes : chain.Processes block ledger)
    (sound : ledger.Sound params) {first second : Message}
    (independent : Independent first second) :
    ∃ firstResult secondResult last,
      chain.deliverAll [first, second] =
        ([(first, .ok firstResult), (second, .ok secondResult)], last) ∧
      chain.deliverAll [second, first] =
        ([(second, .ok secondResult), (first, .ok firstResult)], last) := by
  obtain ⟨forth, left, after, forward⟩ := exists_deliversBoth processes sound independent
  obtain ⟨back, right, final, backward⟩ := exists_deliversBoth processes sound independent.symm
  have apart : (first.change params (judge chain.registry ledger params first)).symbol ≠
      (second.change params (judge chain.registry ledger params second)).symbol := by
    rw [Message.symbol_change, Message.symbol_change]
    exact independent.symbols
  have ledgers : after = final :=
    Change.Leads.commute apart forward.leads forward.onward backward.leads backward.onward
  have there := backward.holds
  rw [← ledgers] at there
  have keys : ∀ key, forth.contains key = true ↔ back.contains key = true := fun key => by
    rw [forward.adds key, backward.adds key]
    simp only [List.mem_append, or_comm]
  have writes : forth = back := eq_of_flatten keys (forward.holds.eq there)
  refine ⟨_, _, _, forward.answered, ?_⟩
  rw [writes]
  exact backward.answered

/-- In every run of a chain that was created, two messages of different signers about different
symbols, neither of them signed by the collector of fees, may be delivered into an open block in
either order: each is answered in the same way, and the chain that is left is the same, pending
writes included, so it commits the same. Symbols are compared without regard to case. -/
theorem deliverAll_swap {config : NodeConfig} {fresh : Chain}
    (created : create config = .ok fresh) (calls : List Call)
    (isOpen : (fresh.run calls).block = some block) {first second : Message}
    (signers : first.signer ≠ second.signer)
    (firstSigner : first.signer ≠ Address.ofModule ModuleAccounts.feeCollector)
    (secondSigner : second.signer ≠ Address.ofModule ModuleAccounts.feeCollector)
    (symbols : Token.lowered first.symbol ≠ Token.lowered second.symbol) :
    let forth := (fresh.run calls).deliverAll [first, second]
    let back := (fresh.run calls).deliverAll [second, first]
    (∃ firstResult secondResult,
      forth.1 = [(first, .ok firstResult), (second, .ok secondResult)] ∧
      back.1 = [(second, .ok secondResult), (first, .ok firstResult)]) ∧
    forth.2 = back.2 ∧ forth.2.commit = back.2.commit := by
  obtain ⟨ledger, params, processes, sound⟩ :=
    ((sound_create created).run calls).pending block isOpen
  have apart : first.tokenSymbol ≠ second.tokenSymbol := fun same => symbols <| by
    rw [← first.lowered_tokenSymbol, ← second.lowered_tokenSymbol, same]
  have independent : Independent first second := ⟨signers, apart, firstSigner, secondSigner⟩
  obtain ⟨firstResult, secondResult, last, forth, back⟩ :=
    deliverAll_pair_eq processes sound independent
  rw [forth, back]
  exact ⟨⟨firstResult, secondResult, rfl, rfl⟩, rfl, rfl⟩

/-- A request of another account for another token. -/
def Sample.otherIssue : IssueMsg := ⟨⟨List.replicate 20 9, rfl⟩, "Other", "CD", 0, true, 2, ""⟩

/-- An account is not the collector of fees if its address starts with another byte. -/
theorem Sample.ne_feeCollector {address : Address} (other : address.bytes.head? ≠ some 0xf1) :
    address ≠ Address.ofModule ModuleAccounts.feeCollector := by
  have start : (Address.ofModule ModuleAccounts.feeCollector).bytes.head? = some 0xf1 := by
    decide +kernel
  intro same
  rw [same] at other
  exact other start

/-- In the first block of a small chain, two accounts may ask for two tokens in either order. -/
theorem deliverAll_swap_sample :
    let forth := Sample.inFirstBlock.deliverAll
      [.issue Sample.shortIssue, .issue Sample.otherIssue]
    let back := Sample.inFirstBlock.deliverAll
      [.issue Sample.otherIssue, .issue Sample.shortIssue]
    forth.2 = back.2 ∧ forth.2.commit = back.2.commit := by
  obtain ⟨_, _, _, processes, _⟩ := Sample.exists_opened
  have signers : (Message.issue Sample.shortIssue).signer ≠
      (Message.issue Sample.otherIssue).signer := by decide
  have first : (Message.issue Sample.shortIssue).signer ≠
      Address.ofModule ModuleAccounts.feeCollector := Sample.ne_feeCollector (by decide)
  have second : (Message.issue Sample.otherIssue).signer ≠
      Address.ofModule ModuleAccounts.feeCollector := Sample.ne_feeCollector (by decide)
  have symbols : Token.lowered (Message.issue Sample.shortIssue).symbol ≠
      Token.lowered (Message.issue Sample.otherIssue).symbol := by decide
  exact (deliverAll_swap Sample.created [.initChain Sample.genesis, .beginBlock 1]
    processes.isOpen signers first second symbols).2

end Chain

end TokenLedger
