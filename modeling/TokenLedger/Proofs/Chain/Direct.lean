import TokenLedger.Proofs.Chain.Denominations
import TokenLedger.Proofs.Chain.Reads
import TokenLedger.Proofs.Chain.Rejection
import TokenLedger.Proofs.Ledger.Layers

/-!
# A block is its direct execution

The work of a block runs in layers: each message in one of its own over the pending writes of the
block, and these over the committed store, which they reach with the commit. Without any layer, the
same is done by the hooks of the begin, the steps of the accepted messages and the hooks of the end,
one after the other on the committed store itself. Before the commit nothing of it shows there.
-/

namespace TokenLedger

open TokenLedger.Action

variable {height : Height} {store middle after : Store}

/-! ## Direct execution -/

/-- The steps of messages one after the other on a store itself, each with the events that it
emits. -/
inductive Issuance.StepsAll (regime : Regime) (height : Height) :
    Store → List (Message × List Event) → Store → Prop
  /-- There is no message. -/
  | nil {store : Store} : StepsAll regime height store [] store
  /-- The steps of the first message, and then those of the others. -/
  | cons {message : Message} {events : List Event} {rest : List (Message × List Event)}
    {store middle after : Store}
    (first : (steps Chain.modules regime message).Direct height store () events middle)
    (later : StepsAll regime height middle rest after) :
    StepsAll regime height store ((message, events) :: rest) after

/-- Messages lead from a store to one other store, with one list of events each. -/
theorem Issuance.StepsAll.unique {regime : Regime} {height : Height} {store after other : Store}
    {applied again : List (Message × List Event)} (first : StepsAll regime height store applied after)
    (second : StepsAll regime height store again other)
    (same : applied.map Prod.fst = again.map Prod.fst) : applied = again ∧ after = other := by
  induction first generalizing again with
  | nil =>
    cases second with
    | nil => exact ⟨rfl, rfl⟩
    | cons => exact nomatch same
  | cons step later ih =>
    cases second with
    | nil => exact nomatch same
    | cons stepAgain laterAgain =>
      obtain ⟨rfl, rest⟩ := List.cons.inj same
      obtain ⟨_, rfl, rfl⟩ := step.unique stepAgain
      obtain ⟨rfl, rfl⟩ := ih laterAgain rest
      exact ⟨rfl, rfl⟩

namespace Chain

variable {chain next : Chain} {block : OpenBlock}

/-- A block on a store itself: the hooks of its begin, the steps of messages and the hooks of its
end. -/
inductive DirectBlock (registry : Registry Migration) (store : Store) :
    HookRun → List (Message × List Event) → HookRun → Store → Prop
  /-- The three parts of the block one after the other. -/
  | intro {begun ended : HookRun} {applied : List (Message × List Event)}
    {begunStore appliedStore after : Store}
    (opening : (phaseHooks registry .beginFirst .beginLast).Direct registry.height store
      (begun.first, begun.last) begun.events begunStore)
    (messages : Issuance.StepsAll (Regime.ofRegistry registry) registry.height begunStore applied
      appliedStore)
    (closing : (phaseHooks registry .endFirst .endLast).Direct registry.height appliedStore
      (ended.first, ended.last) ended.events after) :
    DirectBlock registry store begun applied ended after

/-- A store and messages determine what a block does. -/
theorem DirectBlock.unique {registry : Registry Migration} {store after other : Store}
    {begun begunAgain ended endedAgain : HookRun} {applied again : List (Message × List Event)}
    (first : DirectBlock registry store begun applied ended after)
    (second : DirectBlock registry store begunAgain again endedAgain other)
    (same : applied.map Prod.fst = again.map Prod.fst) :
    begun = begunAgain ∧ applied = again ∧ ended = endedAgain ∧ after = other := by
  obtain ⟨opening, messages, closing⟩ := first
  obtain ⟨openingAgain, messagesAgain, closingAgain⟩ := second
  obtain ⟨counts, events, rfl⟩ := opening.unique openingAgain
  obtain ⟨rfl, rfl⟩ := messages.unique messagesAgain same
  obtain ⟨endCounts, endEvents, rfl⟩ := closing.unique closingAgain
  have begins : begun = begunAgain := by
    cases begun
    cases begunAgain
    cases counts
    cases events
    rfl
  have ends : ended = endedAgain := by
    cases ended
    cases endedAgain
    cases endCounts
    cases endEvents
    rfl
  exact ⟨begins, rfl, ends, rfl⟩

/-! ## Work on the open block -/

/-- A transparent action over the open block does to the latest store what it does to it directly. -/
theorem direct_of_inBlock {α : Type} {action : Action Empty α} (transparent : action.Transparent)
    (isOpen : chain.block = some block) {value : α} {events : List Event}
    (ran : chain.inBlock action = (.ok (value, events), next)) :
    (∃ writes, next = chain.withWrites block writes) ∧
      action.Direct block.height chain.latest.flatten value events next.latest.flatten := by
  obtain ⟨after, performed, rfl, left⟩ := exists_perform_of_inBlock isOpen ran
  have direct := transparent.direct performed
  have stays := transparent.under ⟨block.view chain.committed, block.height, []⟩
  rw [performed] at stays
  obtain ⟨writes, layered⟩ := View.exists_layer_of_under? stays
  rw [layered] at left direct
  subst left
  rw [latest_of_open isOpen]
  exact ⟨⟨writes, rfl⟩, direct⟩

/-- Hooks are transparent. -/
theorem transparent_phaseHooks (registry : Registry Migration) (first last : BlockPhase) :
    (phaseHooks registry first last).Transparent :=
  (Migration.transparent_dispatch _ _).bind fun _ =>
    (Migration.transparent_dispatch _ _).bind fun _ => transparent_pure _

/-- Hooks over the open block do to the latest store what they do to it directly. -/
theorem direct_of_runPhases (isOpen : chain.block = some block) {first last : BlockPhase}
    {run : HookRun} (ran : chain.runPhases first last = (.ok run, next)) :
    (∃ writes, next = chain.withWrites block writes) ∧
      (phaseHooks chain.registry first last).Direct block.height chain.latest.flatten
        (run.first, run.last) run.events next.latest.flatten := by
  rw [runPhases_eq] at ran
  obtain ⟨⟨counts, events⟩, worked, rfl⟩ := exists_of_map_eq_ok ran
  exact direct_of_inBlock (transparent_phaseHooks _ _ _) isOpen worked

/-- What a message does to the open block is transparent. -/
theorem transparent_deliverAction (registry : Registry Migration) (message : Message) :
    (deliverAction registry message).Transparent := by
  cases verdict : admission registry message with
  | error cause =>
    have rejecting : deliverAction registry message = pure (.rejected cause) := by
      funext context
      have performed := perform_deliverAction registry message context
      rw [verdict] at performed
      exact performed
    rw [rejecting]
    exact transparent_pure _
  | ok passed =>
    have handling : (Issuance.handle modules (Regime.ofRegistry registry) message).Transparent :=
      (Issuance.transparent_steps _ _ _).atomically
    let answer (before after : List Event) :
        Except (Stop AssetError) Unit → Except (Stop Empty) TxResult
      | .ok () => .ok (.accepted (after.drop before.length))
      | .error (.refused cause) => .ok (.rejected cause)
      | .error (.faulted fault) => .error (.faulted fault)
    refine handling.of_answers (fun given before after => answer before after given)
      fun context => ?_
    rw [perform_deliverAction, verdict]
    rcases (Issuance.handle _ _ _).perform context with ⟨(cause | fault) | value, after⟩ <;> rfl

/-- A message that is applied to a store itself leaves there what its steps leave. -/
theorem direct_steps_of_direct {registry : Registry Migration} {message : Message}
    {height : Height} {store after : Store} {result : TxResult} {events : List Event}
    (direct : (deliverAction registry message).Direct height store result events after)
    (success : result.isAccepted = true) :
    (Issuance.steps modules (Regime.ofRegistry registry) message).Direct height store ()
      result.events after := by
  obtain ⟨handled, answered⟩ := handled_of_accepted direct success
  rw [answered]
  exact (Issuance.transparent_steps _ _ _).direct_of_atomically handled

/-- A message that is accepted does to the latest store what its steps do to it directly, and is
answered with the events that they emit. -/
theorem direct_of_deliver (isOpen : chain.block = some block) {message : Message}
    {result : TxResult} (delivered : chain.deliver message = (.ok result, next))
    (success : result.isAccepted = true) :
    (∃ writes, next = chain.withWrites block writes) ∧
      (Issuance.steps modules (Regime.ofRegistry chain.registry) message).Direct block.height
        chain.latest.flatten () result.events next.latest.flatten := by
  rw [deliver_eq] at delivered
  obtain ⟨⟨given, events⟩, worked, rfl⟩ := exists_of_map_eq_ok delivered
  obtain ⟨written, direct⟩ := direct_of_inBlock (transparent_deliverAction _ _) isOpen worked
  exact ⟨written, direct_steps_of_direct direct success⟩

/-- The events of an answer; one that is not a result has none. -/
def Answer.events : Answer → List Event
  | .ok result => result.events
  | .error _ => []

/-- The messages that are accepted, each with the events that it is answered with. -/
def applied (answers : List (Message × Answer)) : List (Message × List Event) :=
  (accepted answers).map fun answered => (answered.1, answered.2.events)

/-- The first of some messages is among those that are applied if it is accepted. -/
theorem applied_deliverAll_cons {message : Message} {result : TxResult} {next : Chain}
    (delivered : chain.deliver message = (.ok result, next)) (rest : List Message) :
    applied (chain.deliverAll (message :: rest)).1 =
      if result.isAccepted = true then (message, result.events) :: applied (next.deliverAll rest).1
      else applied (next.deliverAll rest).1 := by
  have same : Answer.isAccepted (.ok result) = result.isAccepted := rfl
  simp only [deliverAll, delivered]
  rw [applied, accepted, List.filter_cons, same]
  split <;> rfl

/-- Messages delivered into the open block do to the latest store what the steps of the accepted
ones do to it directly. -/
theorem Sound.stepsAll_of_deliverAll (sound : chain.Sound) (isOpen : chain.block = some block)
    (messages : List Message) :
    (∃ writes, (chain.deliverAll messages).2 = chain.withWrites block writes) ∧
      Issuance.StepsAll (Regime.ofRegistry chain.registry) block.height chain.latest.flatten
        (applied (chain.deliverAll messages).1)
        (chain.deliverAll messages).2.latest.flatten := by
  induction messages generalizing chain block with
  | nil =>
    have unchanged : chain = chain.withWrites block block.writes := by
      rw [Chain.withWrites, ← isOpen]
    exact ⟨⟨block.writes, unchanged⟩, .nil⟩
  | cons message rest ih =>
    obtain ⟨result, next, after, delivered, nextSound, nextOpen, unchanged⟩ :=
      sound.exists_deliver isOpen message
    have last : (chain.deliverAll (message :: rest)).2 = (next.deliverAll rest).2 := by
      simp only [deliverAll, delivered]
    rw [last, applied_deliverAll_cons delivered]
    cases verdict : result.isAccepted with
    | false =>
      rw [unchanged verdict]
      exact ih sound isOpen
    | true =>
      obtain ⟨⟨writes, rfl⟩, first⟩ := direct_of_deliver isOpen delivered verdict
      obtain ⟨⟨later, reached⟩, others⟩ := ih nextSound rfl
      exact ⟨⟨later, reached⟩, .cons first others⟩

/-! ## Blocks -/

/-- With its begin answered, a block runs its hooks over the committed store. -/
theorem direct_of_beginBlock {height : Height} {run : HookRun} {opened : Chain}
    (begun : chain.beginBlock height = (.ok run, opened)) :
    (∃ writes, opened = (chain.opened height).withWrites ⟨height, ∅⟩ writes) ∧
      (phaseHooks (chain.registry.atHeight height) .beginFirst .beginLast).Direct height
        chain.committed (run.first, run.last) run.events opened.latest.flatten := by
  obtain ⟨initialized, running, closed, next⟩ := ready_of_begun begun
  rw [beginBlock_eq initialized running closed next] at begun
  have isOpen : (chain.opened height).block = some ⟨height, ∅⟩ := rfl
  exact direct_of_runPhases isOpen begun

/-- Delivering messages is a run. -/
theorem deliverAll_eq_run (chain : Chain) (messages : List Message) :
    (chain.deliverAll messages).2 = chain.run (messages.map .deliver) := by
  induction messages generalizing chain with
  | nil => rfl
  | cons message rest ih => exact ih (chain.deliver message).2

/-- The open block of a sound chain can be ended and committed, which carries its writes out. -/
theorem Sound.exists_ended (sound : chain.Sound) (isOpen : chain.block = some block) :
    ∃ ended last result final, chain.endBlock = (.ok ended, last) ∧
      last.commit = (.ok result, final) ∧
      (phaseHooks chain.registry .endFirst .endLast).Direct block.height chain.latest.flatten
        (ended.first, ended.last) ended.events final.committed := by
  obtain ⟨ledger, params, processes, ledgerSound⟩ := sound.pending block isOpen
  obtain ⟨writes, ran, left⟩ :=
    exists_runPhases processes ledgerSound.configured .endFirst .endLast
  obtain ⟨_, closing⟩ := direct_of_runPhases isOpen ran
  obtain ⟨result, committed⟩ := exists_commit left.isOpen
  have carriedOut : ((chain.withWrites block writes).merged { block with writes }).committed =
      (chain.withWrites block writes).latest.flatten := View.flatten_commit _
  refine ⟨_, _, result, _, ran, committed, ?_⟩
  rw [carriedOut]
  exact closing

/-- A block that a sound chain opens, whatever messages it is then given, is committed as its direct
execution. -/
theorem Sound.exists_directBlock (sound : chain.Sound) {height : Height} {run : HookRun}
    {opened : Chain} (begun : chain.beginBlock height = (.ok run, opened))
    (messages : List Message) :
    ∃ ended last result final,
      (opened.deliverAll messages).2.endBlock = (.ok ended, last) ∧
        last.commit = (.ok result, final) ∧
        DirectBlock (chain.registry.atHeight height) chain.committed run
          (applied (opened.deliverAll messages).1) ended final.committed := by
  have openedSound := sound.beginBlock height
  rw [begun] at openedSound
  obtain ⟨⟨writes, rfl⟩, opening⟩ := direct_of_beginBlock begun
  have isOpen : ((chain.opened height).withWrites ⟨height, ∅⟩ writes).block =
      some ⟨height, writes⟩ := rfl
  obtain ⟨⟨delivered, reached⟩, applying⟩ := openedSound.stepsAll_of_deliverAll isOpen messages
  have deliveredSound := openedSound.run (messages.map .deliver)
  rw [← deliverAll_eq_run, reached] at deliveredSound
  obtain ⟨ended, last, result, final, done, committed, closing⟩ := deliveredSound.exists_ended rfl
  rw [reached] at applying ⊢
  exact ⟨ended, last, result, final, done, committed, opening, applying, closing⟩

/-- In every run of a chain that was created, a block that is opened, whatever messages it is then
given, can be ended and committed. The store that it commits is the one that its direct execution
makes of the store committed before: with the hooks of the begin, the steps of exactly the accepted
messages in the order of their delivery, and the hooks of the end. The hooks and each accepted
message are answered with the events that they emit there. Until the commit, whatever else is done,
the committed store is the one before. -/
theorem directBlock_of_begun {config : NodeConfig} {fresh : Chain}
    (created : create config = .ok fresh) (calls : List Call) {height : Height} {run : HookRun}
    {opened : Chain} (begun : (fresh.run calls).beginBlock height = (.ok run, opened)) :
    let before := fresh.run calls
    (∀ messages, ∃ ended last result final,
      (opened.deliverAll messages).2.endBlock = (.ok ended, last) ∧
        last.commit = (.ok result, final) ∧
        DirectBlock (before.registry.atHeight height) before.committed run
          (applied (opened.deliverAll messages).1) ended final.committed) ∧
      ∀ work, .commit ∉ work → (opened.run work).committed = before.committed := by
  intro before
  have sound : before.Sound := (sound_create created).run calls
  refine ⟨sound.exists_directBlock begun, fun work working => ?_⟩
  obtain ⟨_, carries⟩ := sound.exists_carries
  obtain ⟨_, _, works, _, openedCarries⟩ := carries.exists_opened begun
  exact (openedCarries.works_run works working).committed

namespace Sample

/-- The messages of a first block: the one issues a token, and the other asks for units of it. -/
def messages : List Message := [.issue shortIssue, .mint shortMint]

/-- Of these only the first is accepted. -/
theorem applied_messages : applied (inFirstBlock.deliverAll messages).1 =
    [(.issue shortIssue, [Issuance.createdEvent (.issue shortIssue)])] := by
  obtain ⟨issued, _, _, delivered, processes, sound, mints⟩ := exists_issued
  have invalid : Coin.isValidDenom shortMint.symbol = false := by decide
  have rejected := deliver_of_mints processes sound mints
  simp only [invalid, Bool.false_eq_true, if_false] at rejected
  have second : issued.deliver (.mint shortMint) = (_, _) := Prod.ext rejected rfl
  have accepted (events : List Event) : (TxResult.accepted events).isAccepted = true := rfl
  rw [messages, applied_deliverAll_cons delivered, accepted, applied_deliverAll_cons second,
    isAccepted_rejected]
  rfl

end Sample

/-- In the first block of a small chain a token is issued, and a request for units of it is rejected;
on the store of the genesis document the block is that of the issue alone. -/
theorem directBlock_of_begun_sample : create Sample.config = .ok Sample.fresh ∧
    ∃ run opened ended last result final,
      (Sample.fresh.run [.initChain Sample.genesis]).beginBlock 1 = (.ok run, opened) ∧
      (opened.deliverAll Sample.messages).2.endBlock = (.ok ended, last) ∧
      last.commit = (.ok result, final) ∧
      DirectBlock ((Sample.fresh.run [.initChain Sample.genesis]).registry.atHeight 1)
        (Sample.fresh.run [.initChain Sample.genesis]).committed run
        [(.issue Sample.shortIssue, [Issuance.createdEvent (.issue Sample.shortIssue)])] ended
        final.committed ∧
      (opened.run [.deliver (.issue Sample.shortIssue), .endBlock]).committed =
        (Sample.fresh.run [.initChain Sample.genesis]).committed := by
  obtain ⟨run, opened, begun⟩ := Sample.exists_begun
  have reached : Sample.inFirstBlock = opened := by
    change (Sample.fresh.run [.initChain Sample.genesis]).after (.beginBlock 1) = opened
    exact congrArg Prod.snd begun
  obtain ⟨executes, unchanged⟩ := directBlock_of_begun Sample.created [.initChain Sample.genesis]
    begun
  obtain ⟨ended, last, result, final, done, committed, direct⟩ := executes Sample.messages
  have applies := Sample.applied_messages
  rw [reached] at applies
  rw [applies] at direct
  exact ⟨Sample.created, run, opened, ended, last, result, final, begun, done, committed, direct,
    unchanged _ (by simp)⟩

end Chain

end TokenLedger
