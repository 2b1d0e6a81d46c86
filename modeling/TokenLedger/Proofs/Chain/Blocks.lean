import TokenLedger.Proofs.Chain.Heights

/-!
# The order of calls in a block

A block is opened, messages are delivered into it, it is ended, and it is committed. Of this order a
chain keeps the frame: messages, ends and commits end in a result while a block is open and at no
other time, and a block is open from its begin to the next commit. Inside of the frame it keeps no
order. Messages are taken after an end, each further end runs the hooks that are due once more, and
a commit does not ask for an end. Whether the hooks at the end of a block run once and last is up to
who makes the calls.
-/

namespace TokenLedger.Chain

variable {chain next fresh : Chain} {ledger after : Ledger} {config : NodeConfig}

/-! ## Calls that end in a result -/

/-- Whether a call ends in a result; a message that is rejected does, too. -/
def Reply.isOk : Reply → Bool
  | .committed answer => answer.isOk
  | .ran answer => answer.isOk
  | .delivered answer => answer.isOk

/-- The calls among some requests that end in a result, in order. -/
def completed (chain : Chain) : List Request → List Call
  | [] => []
  | request :: rest =>
    (request.call?.filter fun call => (chain.reply call).isOk).toList ++
      (chain.afterRequest request).completed rest

/-- A refusal is no result. -/
theorem Call.isOk_refusal (call : Call) (cause : ChainError) :
    (call.refusal cause).isOk = false := by
  cases call <;> rfl

/-- With a block open the calls that work on one end in a result, and no others do. -/
theorem Step.isOk_eq_needsBlock {call : Call} {reply : Reply} {block : OpenBlock}
    (step : chain.Step ledger call reply next after) (carries : chain.Carries ledger)
    (isOpen : chain.block = some block) : reply.isOk = call.needsBlock := by
  have initialized := (carries.exists_sound isOpen).1
  cases step with
  | refused reason =>
    rw [call.isOk_refusal]
    cases reason with
    | noBlock _ closed =>
      rw [closed] at isOpen
      contradiction
    | _ => rfl
  | notLoaded unloaded | loaded unloaded =>
    rw [unloaded] at initialized
    contradiction
  | opened _ _ _ closed =>
    rw [closed] at isOpen
    contradiction
  | rejected | applied | ended | merged => rfl

/-- A call that works on a block ends in a result exactly if one is open. -/
theorem Sound.isOk_reply_iff (sound : chain.Sound) {call : Call} (needed : call.needsBlock = true) :
    (chain.reply call).isOk = true ↔ ∃ block, chain.block = some block := by
  cases isOpen : chain.block with
  | none =>
    obtain ⟨refused, _⟩ := (Refuses.noBlock needed isOpen).unchanged
    rw [refused, call.isOk_refusal]
    exact iff_of_false Bool.false_ne_true fun ⟨_, never⟩ => nomatch never
  | some block =>
    obtain ⟨_, _, carries, step⟩ := sound.exists_step call
    exact iff_of_true ((step.isOk_eq_needsBlock carries isOpen).trans needed) ⟨block, rfl⟩

/-! ## From a begin to the next commit -/

/-- Requests, the begin of a block that ends in a result, and requests without a commit. -/
structure Frames (fresh : Chain) (early : List Request) (height : Height) (work : List Request) :
    Prop where
  /-- The begin ends in a result. -/
  begun : ((fresh.serve early).reply (.beginBlock height)).isOk = true
  /-- No commit is asked for. -/
  pending : Request.call .commit ∉ work

/-- A begin whose result is known is one. -/
theorem frames_of_begun {early work : List Request} {height : Height} {run : HookRun}
    {opened : Chain} (begun : (fresh.serve early).beginBlock height = (.ok run, opened))
    (pending : Request.call .commit ∉ work) : fresh.Frames early height work := by
  refine ⟨?_, pending⟩
  rw [reply, begun]
  rfl

/-- None is among the calls of the requests either. -/
theorem Frames.commit_not_mem {early work : List Request} {height : Height}
    (frames : fresh.Frames early height work) :
    Call.commit ∉ work.filterMap Request.call? := by
  intro asked
  obtain ⟨request, member, same⟩ := List.mem_filterMap.mp asked
  cases request with
  | call call =>
    obtain rfl : call = .commit := Option.some.inj same
    exact frames.pending member
  | query | exportGenesis | balance | totalSupply | token => contradiction

/-- The chain with the block just opened. -/
theorem Frames.exists_begun {early work : List Request} {height : Height}
    (frames : fresh.Frames early height work) :
    ∃ run, (fresh.serve early).beginBlock height =
      (.ok run, (fresh.serve early).after (.beginBlock height)) := by
  have begun := frames.begun
  rw [reply] at begun
  rw [Chain.after]
  generalize (fresh.serve early).beginBlock height = answer at begun ⊢
  obtain ⟨_ | run, opened⟩ := answer
  · contradiction
  · exact ⟨run, rfl⟩

/-- Through all requests but a commit the block is open. -/
theorem Frames.works (sound : fresh.Sound) {early work : List Request} {height : Height}
    (frames : fresh.Frames early height work) :
    (fresh.serve early).Works height
      (((fresh.serve early).after (.beginBlock height)).serve work) := by
  obtain ⟨_, begun⟩ := frames.exists_begun
  rw [serve_eq_run _ work]
  exact (sound.serve early).works_of_begun begun frames.commit_not_mem

/-- A block that is open after a step was open before it, or the step has opened it. -/
theorem Step.open_cases {call : Call} {reply : Reply} {block : OpenBlock}
    (step : chain.Step ledger call reply next after) (isOpen : next.block = some block) :
    (call ≠ .commit ∧ ∃ before, chain.block = some before ∧ before.height = block.height) ∨
      call = .beginBlock block.height ∧ reply.isOk = true := by
  cases step with
  | refused reason =>
    refine .inl ⟨?_, block, isOpen, rfl⟩
    rintro rfl
    cases reason with
    | noBlock _ closed =>
      rw [closed] at isOpen
      contradiction
  | notLoaded | loaded | rejected => exact .inl ⟨nofun, block, isOpen, rfl⟩
  | opened =>
    cases isOpen
    exact .inr ⟨rfl, rfl⟩
  | applied _ here | ended _ here =>
    cases isOpen
    exact .inl ⟨nofun, _, here, rfl⟩
  | merged => contradiction

/-- An open block was opened by a begin after which no commit was asked for. -/
theorem Sound.exists_frames (sound : fresh.Sound) (closed : fresh.block = none)
    (requests : List Request) {block : OpenBlock}
    (isOpen : (fresh.serve requests).block = some block) :
    ∃ early work, requests = early ++ .call (.beginBlock block.height) :: work ∧
      fresh.Frames early block.height work := by
  induction requests using List.reverseRecOn generalizing block with
  | nil =>
    rw [show (fresh.serve []).block = none from closed] at isOpen
    contradiction
  | append_singleton requests request ih =>
    -- An earlier begin still frames the requests if the last one is no commit.
    have further {before : OpenBlock} (here : (fresh.serve requests).block = some before)
        (same : before.height = block.height) (working : request ≠ .call .commit) :
        ∃ early work, requests ++ [request] = early ++ .call (.beginBlock block.height) :: work ∧
          fresh.Frames early block.height work := by
      obtain ⟨early, work, rfl, frames⟩ := ih here
      rw [same] at frames ⊢
      refine ⟨early, work ++ [request], by rw [List.append_assoc, List.cons_append],
        frames.begun, fun asked => ?_⟩
      rcases List.mem_append.mp asked with asked | asked
      · exact frames.pending asked
      · exact working (List.mem_singleton.mp asked).symm
    rw [serve_append] at isOpen
    cases request with
    | query | exportGenesis | balance | totalSupply | token => exact further isOpen rfl nofun
    | call call =>
      obtain ⟨_, _, _, step⟩ := (sound.serve requests).exists_step call
      rcases step.open_cases isOpen with ⟨working, _, here, same⟩ | ⟨rfl, begun⟩
      · exact further here same fun asked => working (Request.call.inj asked)
      · exact ⟨requests, [], rfl, begun, List.not_mem_nil⟩

/-- A block is open exactly if a begin was accepted after which no commit was asked for. -/
theorem exists_block_iff_frames (created : create config = .ok fresh) (requests : List Request) :
    (∃ block, (fresh.serve requests).block = some block) ↔
      ∃ early height work, requests = early ++ .call (.beginBlock height) :: work ∧
        fresh.Frames early height work := by
  have sound := sound_create created
  constructor
  · rintro ⟨block, isOpen⟩
    have closed := (sound.unloaded (initialized_create created)).2
    obtain ⟨early, work, split, frames⟩ := sound.exists_frames closed requests isOpen
    exact ⟨early, block.height, work, split, frames⟩
  · rintro ⟨early, height, work, rfl, frames⟩
    obtain ⟨block, isOpen, _⟩ := (frames.works sound).exists_block
    rw [serve_append]
    exact ⟨block, isOpen⟩

/-! ## The order in a block -/

/-- In an open block all calls that work on one end in a result, in whatever order. -/
theorem Sound.completed_of_open (sound : chain.Sound) {block : OpenBlock}
    (isOpen : chain.block = some block) {work : List Request}
    (pending : Request.call .commit ∉ work) :
    chain.completed work = (work.filterMap Request.call?).filter Call.needsBlock := by
  induction work generalizing chain block with
  | nil => rfl
  | cons request rest ih =>
    rw [List.mem_cons, not_or] at pending
    cases request with
    | query | exportGenesis | balance | totalSupply | token => exact ih sound isOpen pending.2
    | call call =>
      have working : call ≠ .commit := fun same => pending.1 (congrArg Request.call same.symm)
      obtain ⟨_, _, carries, step⟩ := sound.exists_step call
      have works : chain.Works block.height chain := ⟨rfl, rfl, block, isOpen, rfl⟩
      obtain ⟨_, still, _⟩ := (step.works carries working works).exists_block
      have later := ih (sound.after call) still pending.2
      have answered := step.isOk_eq_needsBlock carries isOpen
      change ((some call).filter fun call => (chain.reply call).isOk).toList ++
        (chain.after call).completed rest =
          (call :: rest.filterMap Request.call?).filter Call.needsBlock
      rw [Option.filter_some, answered, later, List.filter_cons]
      cases call.needsBlock <;> rfl

/-- Calls in a block in the order that is meant: nothing comes after an end, and there is one. -/
structure InOrder (calls : List Call) : Prop where
  /-- Nothing comes after an end. -/
  last : ∀ before after, calls = before ++ .endBlock :: after → after = []
  /-- There is an end. -/
  ends : Call.endBlock ∈ calls

/-- Messages and ends are in order if they are messages and then one end. -/
theorem inOrder_iff {calls : List Call}
    (working : ∀ call ∈ calls, call ≠ .endBlock → ∃ message, .deliver message = call) :
    InOrder calls ↔ ∃ messages : List Message, calls = messages.map .deliver ++ [.endBlock] := by
  constructor
  · intro ordered
    obtain ⟨before, after, rfl⟩ := List.append_of_mem ordered.ends
    obtain rfl := ordered.last before after rfl
    have messages : ∀ call ∈ before, call ∈ Set.range Call.deliver := by
      intro call member
      refine working call (List.mem_append_left _ member) ?_
      rintro rfl
      obtain ⟨first, second, rfl⟩ := List.append_of_mem member
      have nothing := ordered.last first (second ++ [.endBlock]) (by simp)
      exact List.append_ne_nil_of_right_ne_nil second (List.cons_ne_nil _ _) nothing
    obtain ⟨listed, rfl⟩ : before ∈ Set.range (List.map Call.deliver) := by
      rwa [Set.range_list_map]
    exact ⟨listed, rfl⟩
  · rintro ⟨messages, rfl⟩
    clear working
    refine ⟨fun before after split => ?_, by simp⟩
    induction messages generalizing before with
    | nil =>
      cases before with
      | nil => exact (List.cons.inj split).2.symm
      | cons => simp at split
    | cons message rest ih =>
      cases before with
      | nil => cases split
      | cons => exact ih _ (List.cons.inj split).2

/-- With a block open an end runs all hooks that are due at the end of the block. -/
theorem Sound.exists_endBlock (sound : chain.Sound) {block : OpenBlock}
    (isOpen : chain.block = some block) :
    ∃ next, chain.endBlock = (.ok ⟨(chain.registry.hooksDue .endFirst).length,
      (chain.registry.hooksDue .endLast).length, []⟩, next) := by
  obtain ⟨_, _, processes, ledgerSound⟩ := sound.pending block isOpen
  obtain ⟨_, ran, _⟩ := exists_runPhases processes ledgerSound.configured .endFirst .endLast
  exact ⟨_, ran⟩

/-- What a chain that has opened a block makes of the calls in it. -/
structure TakesAnyOrder (opened : Chain) (height : Height) (work : List Request) : Prop where
  /-- All messages and ends end in a result. -/
  completed : opened.completed work = (work.filterMap Request.call?).filter Call.needsBlock
  /-- They are in order exactly if they were asked for as messages and then one end. -/
  ordered : InOrder (opened.completed work) ↔ ∃ messages : List Message,
    (work.filterMap Request.call?).filter Call.needsBlock = messages.map .deliver ++ [.endBlock]
  /-- A further end runs all hooks that are due, whether or not it is the first one. -/
  ends : ∃ next, (opened.serve work).endBlock =
    (.ok ⟨((opened.serve work).registry.hooksDue .endFirst).length,
      ((opened.serve work).registry.hooksDue .endLast).length, []⟩, next)
  /-- The block can be committed, whether or not it was ended. -/
  commits : ∃ result next, (opened.serve work).commit = (.ok result, next) ∧ result.height = height

/-- From a begin on, as long as no commit is asked for, calls are taken in any order. -/
theorem Frames.takesAnyOrder (sound : fresh.Sound) {early work : List Request} {height : Height}
    (frames : fresh.Frames early height work) :
    ((fresh.serve early).after (.beginBlock height)).TakesAnyOrder height work := by
  have opened : ((fresh.serve early).after (.beginBlock height)).Sound :=
    (sound.serve early).after _
  have begun : fresh.Frames early height [] := ⟨frames.begun, List.not_mem_nil⟩
  obtain ⟨_, isOpen, _⟩ := (begun.works sound).exists_block
  have taken := opened.completed_of_open isOpen frames.pending
  have working : ∀ call ∈ (work.filterMap Request.call?).filter Call.needsBlock,
      call ≠ .endBlock → ∃ message, .deliver message = call := by
    intro call member apart
    obtain ⟨asked, needed⟩ := List.mem_filter.mp member
    cases call with
    | initChain | beginBlock => contradiction
    | deliver message => exact ⟨message, rfl⟩
    | endBlock => exact absurd rfl apart
    | commit => exact absurd asked frames.commit_not_mem
  have works := frames.works sound
  obtain ⟨_, still, _⟩ := works.exists_block
  obtain ⟨result, next, committed, same, _⟩ := works.exists_commit
  refine ⟨taken, ?_, (opened.serve work).exists_endBlock still, result, next, committed, same⟩
  rw [taken]
  exact inOrder_iff working

/-- After any requests to a chain that was created, a message, an end or a commit ends in a result
exactly if a block was opened and no commit was asked for since. From there on all messages and ends
do, in any order: they are messages and then one end exactly if that is what was asked for. Every
end runs all hooks that are due, also after another one, and the block can be committed at any
time, also without one. -/
theorem blocks_of_serve (created : create config = .ok fresh) (requests : List Request) :
    (∀ call, call.needsBlock = true → (((fresh.serve requests).reply call).isOk = true ↔
      ∃ early height work, requests = early ++ .call (.beginBlock height) :: work ∧
        fresh.Frames early height work)) ∧
    ∀ early height work, fresh.Frames early height work →
      ((fresh.serve early).after (.beginBlock height)).TakesAnyOrder height work := by
  have sound := sound_create created
  refine ⟨fun call needed => ?_, fun early height work frames => frames.takesAnyOrder sound⟩
  exact ((sound.serve requests).isOk_reply_iff needed).trans
    (exists_block_iff_frames created requests)

namespace Sample

/-- Requests that end a block, deliver a message and end the block again. -/
def twoEnds : List Request :=
  [.call .endBlock, .call (.deliver (.issue shortIssue)), .call .endBlock]

/-- The first block of the chain takes them. -/
theorem frames_twoEnds : Sample.fresh.Frames [.call (.initChain genesis)] 1 twoEnds := by
  obtain ⟨_, opened, begun⟩ := exists_begun
  have reached : Sample.fresh.serve [.call (.initChain genesis)] =
      Sample.fresh.run [.initChain genesis] := serve_eq_run _ _
  rw [← reached] at begun
  exact frames_of_begun begun (by simp [twoEnds])

/-- The chain with its first block open. -/
def firstOpened : Chain :=
  (Sample.fresh.serve [.call (.initChain genesis)]).after (.beginBlock 1)

/-- Without a commit in between they end in results, and a commit does after them. -/
theorem blocks_of_serve_sample : create Sample.config = .ok Sample.fresh ∧
    Sample.fresh.Frames [.call (.initChain genesis)] 1 twoEnds ∧
    firstOpened.TakesAnyOrder 1 twoEnds ∧
    ((Sample.fresh.serve ([.call (.initChain genesis)] ++ .call (.beginBlock 1) :: twoEnds)).reply
      .commit).isOk = true := by
  have whole := blocks_of_serve created
    ([.call (.initChain genesis)] ++ .call (.beginBlock 1) :: twoEnds)
  exact ⟨created, frames_twoEnds, whole.2 _ _ _ frames_twoEnds,
    (whole.1 .commit rfl).mpr ⟨_, _, _, rfl, frames_twoEnds⟩⟩

/-- A block need not follow the order that is meant: one is committed in which an end comes before a
message and before another end, and one without any end. -/
theorem exists_commit_out_of_order :
    firstOpened.completed twoEnds = [.endBlock, .deliver (.issue shortIssue), .endBlock] ∧
    ¬ InOrder (firstOpened.completed twoEnds) ∧
    (∃ result next, (firstOpened.serve twoEnds).commit = (.ok result, next) ∧
      result.height = 1) ∧
    ¬ InOrder (firstOpened.completed []) ∧
    ∃ result next, (firstOpened.serve []).commit = (.ok result, next) ∧ result.height = 1 := by
  have begun : Sample.fresh.Frames [.call (.initChain genesis)] 1 [] :=
    ⟨frames_twoEnds.begun, List.not_mem_nil⟩
  have worked : firstOpened.TakesAnyOrder 1 twoEnds :=
    frames_twoEnds.takesAnyOrder (sound_create created)
  have idle : firstOpened.TakesAnyOrder 1 [] := begun.takesAnyOrder (sound_create created)
  have taken : firstOpened.completed twoEnds =
      [.endBlock, .deliver (.issue shortIssue), .endBlock] := worked.completed
  refine ⟨taken, fun ordered => ?_, worked.commits, fun ordered => ?_, idle.commits⟩
  · rw [taken] at ordered
    have nothing := ordered.last [] [.deliver (.issue shortIssue), .endBlock] rfl
    exact List.cons_ne_nil _ _ nothing
  · rw [idle.completed] at ordered
    exact absurd ordered.ends List.not_mem_nil

end Sample

end TokenLedger.Chain
