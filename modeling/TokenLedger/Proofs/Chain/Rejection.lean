import TokenLedger.Proofs.Chain.Invariant

/-!
# Rejected messages leave no trace

A message that is rejected leaves the chain as it was, pending writes included, so no later message
can tell whether it was delivered. Delivering only those messages of a list that are accepted
therefore gives the same answers and the same chain.
-/

namespace TokenLedger.Chain

variable {chain : Chain} {block : OpenBlock}

/-- What delivering a message answers. -/
abbrev Answer := Except (Stop ChainError) TxResult

/-- Whether an answer is that the message was applied. -/
def Answer.isAccepted : Answer → Bool
  | .ok result => result.isAccepted
  | .error _ => false

/-- Delivers messages in order, and gives each with its answer. -/
def deliverAll (chain : Chain) : List Message → List (Message × Answer) × Chain
  | [] => ([], chain)
  | message :: rest =>
    let (answer, next) := chain.deliver message
    let (answers, last) := next.deliverAll rest
    ((message, answer) :: answers, last)

/-- The messages that are accepted, with their answers. -/
def accepted (answers : List (Message × Answer)) : List (Message × Answer) :=
  answers.filter fun answered => answered.2.isAccepted

/-- A message delivered into an open block is answered, the block stays open, and if the message was
not applied, nothing has changed. -/
theorem Sound.exists_deliver (sound : chain.Sound) (isOpen : chain.block = some block)
    (message : Message) :
    ∃ result next after, chain.deliver message = (.ok result, next) ∧ next.Sound ∧
      next.block = some after ∧ (result.isAccepted = false → next = chain) := by
  have nextSound := sound.deliver message
  obtain ⟨ledger, params, processes, ledgerSound⟩ := sound.pending block isOpen
  rcases deliver_cases processes ledgerSound message with
    ⟨cause, _, rejected⟩ | ⟨after, writes, _, _, applied, _⟩
  · exact ⟨_, chain, block, rejected, sound, isOpen, fun _ => rfl⟩
  · rw [applied] at nextSound
    exact ⟨_, _, _, applied, nextSound, rfl, (nomatch ·)⟩

/-- Delivering the accepted messages only gives their answers and the same chain. -/
theorem Sound.deliverAll_accepted (sound : chain.Sound) (isOpen : chain.block = some block)
    (messages : List Message) :
    chain.deliverAll ((accepted (chain.deliverAll messages).1).map Prod.fst) =
      (accepted (chain.deliverAll messages).1, (chain.deliverAll messages).2) := by
  induction messages generalizing chain block with
  | nil => rfl
  | cons message rest ih =>
    obtain ⟨result, next, after, delivered, nextSound, nextOpen, unchanged⟩ :=
      sound.exists_deliver isOpen message
    have later := ih nextSound nextOpen
    simp only [deliverAll, delivered]
    cases verdict : result.isAccepted with
    | false =>
      -- The message drops out, and the rest is delivered from where it was.
      have dropped : Answer.isAccepted (.ok result) = false := verdict
      rw [unchanged verdict] at later ⊢
      simp only [accepted, List.filter_cons, dropped, Bool.false_eq_true, if_false]
      exact later
    | true =>
      have kept : Answer.isAccepted (.ok result) = true := verdict
      simp only [accepted, List.filter_cons, kept, if_true, List.map_cons, deliverAll, delivered]
        at later ⊢
      rw [later]

/-- Messages delivered into an open block are all answered. -/
theorem Sound.exists_answer (sound : chain.Sound) (isOpen : chain.block = some block)
    (messages : List Message) :
    ∀ answered ∈ (chain.deliverAll messages).1, ∃ result, answered.2 = .ok result := by
  induction messages generalizing chain block with
  | nil => exact fun _ member => nomatch member
  | cons message rest ih =>
    obtain ⟨result, next, after, delivered, nextSound, nextOpen, _⟩ :=
      sound.exists_deliver isOpen message
    simp only [deliverAll, delivered, List.mem_cons]
    rintro answered (rfl | later)
    · exact ⟨result, rfl⟩
    · exact ih nextSound nextOpen answered later

/-- In every run of a chain that was created, messages delivered into an open block are all
answered. Those that are accepted, delivered alone, are answered in the same way and leave the same
chain, which commits the same; and if none is accepted, the chain is the one without messages. -/
theorem deliverAll_accepted_alone {config : NodeConfig} {fresh : Chain}
    (created : create config = .ok fresh) (calls : List Call)
    (isOpen : (fresh.run calls).block = some block) (messages : List Message) :
    let delivered := (fresh.run calls).deliverAll messages
    let alone := (fresh.run calls).deliverAll ((accepted delivered.1).map Prod.fst)
    (∀ answered ∈ delivered.1, ∃ result, answered.2 = .ok result) ∧
      alone.1 = accepted delivered.1 ∧ alone.2 = delivered.2 ∧
      alone.2.commit = delivered.2.commit ∧
      (accepted delivered.1 = [] → delivered.2 = fresh.run calls) := by
  have sound := (sound_create created).run calls
  have same := sound.deliverAll_accepted isOpen messages
  have last := congrArg Prod.snd same
  refine ⟨sound.exists_answer isOpen messages, congrArg Prod.fst same, last,
    congrArg commit last, fun nothing => ?_⟩
  rw [nothing] at last
  exact last.symm

/-- Of two messages in the first block of a small chain, those accepted may be delivered alone. -/
theorem deliverAll_accepted_alone_sample :
    let delivered := Sample.inFirstBlock.deliverAll
      [.issue Sample.shortIssue, .mint Sample.shortMint]
    (Sample.inFirstBlock.deliverAll ((accepted delivered.1).map Prod.fst)).2 = delivered.2 := by
  obtain ⟨_, _, _, processes, _⟩ := Sample.exists_opened
  exact (deliverAll_accepted_alone Sample.created [.initChain Sample.genesis, .beginBlock 1]
    processes.isOpen _).2.2.1

end TokenLedger.Chain
