import TokenLedger.Proofs.Ledger.Records

/-!
# What actions do to a ledger

An action is described by where it leads from a ledger: what it gives, which ledger it leaves, which
events it emits, and for which causes it may be refused. A description excludes faults; that an
action runs into one is said by itself. A description also says that the pending writes stay in the
layer in which the action runs, so it holds in an open block and in every layer that
`Action.atomically` puts on top of one. Descriptions compose along `bind`.
-/

namespace TokenLedger

variable {ε ε' α β : Type}

/-- How an action may end that started in a layer over `under`, at a height, after some events. -/
inductive Ended (under : View) (height : Height) (events : List Event)
    (done : α → Ledger → List Event → Prop) (refused : ε → Prop) :
    Except (Stop ε) α × Context → Prop where
  /-- With a result, in the same layer, having emitted further events. -/
  | done {value : α} {after : Ledger} {emitted : List Event} (writes : WriteSet)
    (holds : (View.layer under writes).flatten.Holds after)
    (result : done value after emitted) :
    Ended under height events done refused
      (.ok value, ⟨.layer under writes, height, events ++ emitted⟩)
  /-- With a refusal. -/
  | refused {cause : ε} {context : Context} (reason : refused cause) :
    Ended under height events done refused (.error (.refused cause), context)

/-- An action that emits no events ends with those before it. -/
theorem Ended.quiet {under : View} {height : Height} {events : List Event}
    {done : α → Ledger → List Event → Prop} {refused : ε → Prop} {value : α} {after : Ledger}
    (writes : WriteSet) (holds : (View.layer under writes).flatten.Holds after)
    (result : done value after []) :
    Ended under height events done refused (.ok value, ⟨.layer under writes, height, events⟩) := by
  have ended : Ended under height events done refused
      (.ok value, ⟨.layer under writes, height, events ++ []⟩) := .done writes holds result
  rwa [List.append_nil] at ended

namespace Action

/-- From a ledger an action ends in what `done` says, or is refused for a cause in `refused`. -/
def Runs (action : Action ε α) (ledger : Ledger) (done : α → Ledger → List Event → Prop)
    (refused : ε → Prop) : Prop :=
  ∀ (under : View) (writes : WriteSet) (height : Height) (events : List Event),
    (View.layer under writes).flatten.Holds ledger →
      Ended under height events done refused
        (action.perform ⟨.layer under writes, height, events⟩)

/-- From a ledger an action gives a value and leaves a ledger, without events or refusals. -/
def Yields (action : Action ε α) (ledger : Ledger) (value : α) (after : Ledger) : Prop :=
  action.Runs ledger (fun given left emitted => given = value ∧ left = after ∧ emitted = [])
    fun _ => False

variable {ledger : Ledger} {done done' : α → Ledger → List Event → Prop}
  {refused refused' : ε → Prop}

/-- Performing one action and then another. -/
theorem perform_bind (action : Action ε α) (next : α → Action ε β) (context : Context) :
    (action >>= next).perform context =
      match action.perform context with
      | (.ok value, after) => (next value).perform after
      | (.error stop, after) => (.error stop, after) := by
  simp only [perform, ExceptT.run, bind, ExceptT.bind, ExceptT.mk, StateT.bind, ExceptT.bindCont]
  rcases action context with ⟨_ | _, after⟩ <;> rfl

/-- After an action that gives a value the next one is performed with it. -/
theorem perform_bind_ok {action : Action ε α} {context middle : Context} {value : α}
    (performed : action.perform context = (.ok value, middle)) (next : α → Action ε β) :
    (action >>= next).perform context = (next value).perform middle := by
  rw [perform_bind, performed]

/-- After an action that ends without a result nothing more is performed. -/
theorem perform_bind_error {action : Action ε α} {context after : Context} {stop : Stop ε}
    (performed : action.perform context = (.error stop, after)) (next : α → Action ε β) :
    (action >>= next).perform context = (.error stop, after) := by
  rw [perform_bind, performed]

/-- A look-up in a store gives what the view has under the bytes of the store. -/
theorem perform_getKey (name : StoreName) (key : Bytes) (context : Context) :
    (getKey name key : Action ε (Option Bytes)).perform context =
      (.ok (context.view.getIn name.keyStart key), context) := rfl

/-- A scan of a store gives what the view lists under the bytes of the store. -/
theorem perform_scanKeys (name : StoreName) (start : Bytes) (context : Context) :
    (scanKeys name start : Action ε (List (Bytes × Bytes))).perform context =
      (.ok (context.view.scanIn name.keyStart start), context) := rfl

/-! ## What ended in a result -/

/-- If two actions in order end in a result, so do both. -/
theorem exists_of_perform_bind {action : Action ε α} {next : α → Action ε β}
    {context after : Context} {value : β}
    (performed : (action >>= next).perform context = (.ok value, after)) :
    ∃ given middle, action.perform context = (.ok given, middle) ∧
      (next given).perform middle = (.ok value, after) := by
  rw [perform_bind] at performed
  split at performed
  · next given middle first => exact ⟨given, middle, first, performed⟩
  · exact absurd (congrArg Prod.fst performed) (by rintro ⟨⟩)

/-- If steps behind a condition for a refusal end in a result, the condition is not met. -/
theorem unmet_of_perform_guard {condition : Prop} [Decidable condition] {cause : ε}
    {next : Unit → Action ε β} {context after : Context} {value : β}
    (performed : (if condition then refuse cause >>= next else next ()).perform context =
      (.ok value, after)) :
    ¬ condition ∧ (next ()).perform context = (.ok value, after) := by
  split at performed
  · exact absurd (congrArg Prod.fst performed) (by rintro ⟨⟩)
  · next unmet => exact ⟨unmet, performed⟩

/-- If steps behind a check end in a result, the check passes. -/
theorem passed_of_perform_check {check : Except ε Unit} {next : Unit → Action ε β}
    {context after : Context} {value : β}
    (performed : (ofExcept check >>= next).perform context = (.ok value, after)) :
    check = .ok () ∧ (next ()).perform context = (.ok value, after) := by
  cases check with
  | ok _ => exact ⟨rfl, performed⟩
  | error cause => exact absurd (congrArg Prod.fst performed) (by rintro ⟨⟩)

/-! ## Descriptions -/

/-- A description may be weakened. -/
theorem Runs.mono {action : Action ε α} (runs : action.Runs ledger done refused)
    (weaker : ∀ value after emitted, done value after emitted → done' value after emitted)
    (more : ∀ cause, refused cause → refused' cause) : action.Runs ledger done' refused' := by
  intro under writes height events holds
  have ended := runs under writes height events holds
  generalize action.perform _ = final at ended ⊢
  cases ended with
  | done writes holds result => exact .done writes holds (weaker _ _ _ result)
  | refused reason => exact .refused (more _ reason)

/-- An action that is never refused ends in a result as described. -/
theorem Runs.exists_perform {action : Action ε α} (runs : action.Runs ledger done fun _ => False)
    {under : View} {writes : WriteSet} (height : Height) (events : List Event)
    (holds : (View.layer under writes).flatten.Holds ledger) :
    ∃ value left emitted context, done value left emitted ∧
      action.perform ⟨.layer under writes, height, events⟩ = (.ok value, context) := by
  have ended := runs under writes height events holds
  generalize action.perform _ = final at ended ⊢
  cases ended with
  | @done value left emitted writes _ result => exact ⟨value, left, emitted, _, result, rfl⟩
  | refused never => exact never.elim

/-- A value by itself changes nothing. -/
theorem yields_pure (ledger : Ledger) (value : α) :
    (pure value : Action ε α).Yields ledger value ledger := by
  intro under writes height events holds
  exact .quiet writes holds ⟨rfl, rfl, rfl⟩

/-- A refusal is one for its cause. -/
theorem runs_refuse {cause : ε} (reason : refused cause) :
    (refuse cause : Action ε α).Runs ledger done refused := by
  intro under writes height events _
  exact .refused reason

/-- What a first action does is where the next one starts. -/
theorem Runs.bind {action : Action ε α} {next : α → Action ε β}
    {last : β → Ledger → List Event → Prop} (first : action.Runs ledger done refused)
    (rest : ∀ value after emitted, done value after emitted → (next value).Runs after
      (fun given left further => last given left (emitted ++ further)) refused) :
    (action >>= next).Runs ledger last refused := by
  intro under writes height events holds
  have ended := first under writes height events holds
  rw [perform_bind]
  generalize action.perform _ = middle at ended ⊢
  cases ended with
  | refused reason => exact .refused reason
  | @done value after emitted writes holds result =>
    have final := rest value after emitted result under writes height (events ++ emitted) holds
    change Ended under height events last refused ((next value).perform _)
    generalize (next value).perform _ = answer at final ⊢
    cases final with
    | refused reason => exact .refused reason
    | done writes holds result =>
      rw [List.append_assoc]
      exact .done writes holds result

/-- A first action may be refused for causes of its own. -/
theorem Runs.bind_refused {action : Action ε α} {next : α → Action ε β}
    {last : β → Ledger → List Event → Prop} (first : action.Runs ledger done refused)
    (more : ∀ cause, refused cause → refused' cause)
    (rest : ∀ value after emitted, done value after emitted → (next value).Runs after
      (fun given left further => last given left (emitted ++ further)) refused') :
    (action >>= next).Runs ledger last refused' :=
  (first.mono (fun _ _ _ result => result) more).bind rest

/-- What an action yields is what it does. -/
theorem Yields.runs {action : Action ε α} {value : α} {after : Ledger}
    (yields : action.Yields ledger value after) (result : done value after []) :
    action.Runs ledger done refused := by
  refine yields.mono ?_ fun _ never => never.elim
  rintro _ _ _ ⟨rfl, rfl, rfl⟩
  exact result

/-- An action that yields a value hands it to the next one. -/
theorem Yields.bind {action : Action ε α} {next : α → Action ε β} {value : α} {after : Ledger}
    {last : β → Ledger → List Event → Prop} (first : action.Yields ledger value after)
    (rest : (next value).Runs after last refused) : (action >>= next).Runs ledger last refused := by
  refine first.bind_refused (fun _ never => never.elim) ?_
  rintro _ _ _ ⟨rfl, rfl, rfl⟩
  exact rest

/-- Actions that yield compose to one that yields. -/
theorem Yields.then {action : Action ε α} {next : α → Action ε β} {value : α} {result : β}
    {middle after : Ledger} (first : action.Yields ledger value middle)
    (rest : (next value).Yields middle result after) :
    (action >>= next).Yields ledger result after :=
  Yields.bind first rest

/-- A computation that may be refused, as an action. -/
theorem runs_ofExcept {computed : Except ε α}
    (passed : ∀ value, computed = .ok value → done value ledger [])
    (failed : ∀ cause, computed = .error cause → refused cause) :
    (ofExcept computed).Runs ledger done refused := by
  cases computed with
  | error cause => exact runs_refuse (failed cause rfl)
  | ok value => exact (yields_pure ledger value).runs (passed value rfl)

/-- A computation that is not faulty yields what it computes. -/
theorem yields_ofFaulty {computed : Except Fault α} {value : α} (passed : computed = .ok value) :
    (ofFaulty computed : Action ε α).Yields ledger value ledger := by
  rw [passed]
  exact yields_pure ledger value

/-- Refusals passed on under another type. -/
theorem Runs.mapCause {action : Action ε α} {change : ε → ε'} {refused : ε' → Prop}
    (runs : action.Runs ledger done fun cause => refused (change cause)) :
    (action.mapCause change).Runs ledger done refused := by
  intro under writes height events holds
  have ended := runs under writes height events holds
  simp only [Action.mapCause, perform, ExceptT.run] at ended ⊢
  generalize action _ = final at ended ⊢
  cases ended with
  | done writes holds result => exact .done writes holds result
  | refused reason => exact .refused reason

/-- An event is emitted after those before it. -/
theorem runs_emit (event : Event) :
    (emit event : Action ε Unit).Runs ledger
      (fun _ after emitted => after = ledger ∧ emitted = [event]) fun _ => False :=
  fun _ writes _ _ holds => .done writes holds ⟨rfl, rfl⟩

/-! ## Records -/

/-- The record in a slot is read under its key. -/
theorem yields_getKey (ledger : Ledger) (slot : Slot) :
    (getKey slot.storeName slot.localKey : Action ε (Option Bytes)).Yields ledger
      (ledger.record? slot) ledger := by
  intro under writes height events holds
  have read := (View.get_eq_find?_flatten (.layer under writes) slot.key).trans
    (holds.find?_key slot)
  exact .quiet writes holds ⟨read, rfl, rfl⟩

/-- Whether there is a record in a slot is asked under its key. -/
theorem yields_hasKey (ledger : Ledger) (slot : Slot) :
    (hasKey slot.storeName slot.localKey : Action ε Bool).Yields ledger
      (ledger.record? slot).isSome ledger := by
  intro under writes height events holds
  have read := (View.get_eq_find?_flatten (.layer under writes) slot.key).trans
    (holds.find?_key slot)
  exact .quiet writes holds ⟨congrArg Option.isSome read, rfl, rfl⟩

/-- A layer that a write goes to stays over what is under it. -/
theorem exists_layer_write (under : View) (writes : WriteSet) (pending : Bytes × Option Bytes) :
    ∃ merged, (View.layer under writes).write pending = .layer under merged :=
  View.exists_layer_of_under? (View.under?_write _ pending)

/-- A write to a slot leaves the ledger that differs in that slot. -/
theorem yields_write {action : Action ε Unit} (slot : Slot) (change : Option Bytes) {after : Ledger}
    (writing : ∀ context : Context, action.perform context =
      (.ok (), { context with view := context.view.write (slot.key, change) }))
    (records : ∀ other, after.record? other =
      if slot = other then change else ledger.record? other) :
    action.Yields ledger () after := by
  intro under writes height events holds
  have flat := View.flatten_write (.layer under writes) (slot.key, change)
  obtain ⟨merged, layered⟩ := exists_layer_write under writes (slot.key, change)
  have written := holds.applyWrite slot change records
  rw [← flat, layered] at written
  rw [writing]
  change Ended under height events _ _
    (.ok (), ⟨(View.layer under writes).write (slot.key, change), height, events⟩)
  rw [layered]
  exact .quiet merged written ⟨rfl, rfl, rfl⟩

/-- A value set under the key of a slot is the record in it. -/
theorem yields_setKey (slot : Slot) (value : Bytes) {after : Ledger}
    (records : ∀ other, after.record? other =
      if slot = other then some value else ledger.record? other) :
    (setKey slot.storeName slot.localKey value : Action ε Unit).Yields ledger () after :=
  yields_write slot (some value) (fun _ => rfl) records

/-- Once the key of a slot is deleted there is no record in it. -/
theorem yields_deleteKey (slot : Slot) {after : Ledger}
    (records : ∀ other, after.record? other =
      if slot = other then none else ledger.record? other) :
    (deleteKey slot.storeName slot.localKey : Action ε Unit).Yields ledger () after :=
  yields_write slot none (fun _ => rfl) records

/-! ## Faults -/

/-- From a ledger an action runs into a fault. -/
def Faults (action : Action ε α) (ledger : Ledger) (fault : Fault) : Prop :=
  ∀ (under : View) (writes : WriteSet) (height : Height) (events : List Event),
    (View.layer under writes).flatten.Holds ledger →
      ∃ context, action.perform ⟨.layer under writes, height, events⟩ =
        (.error (.faulted fault), context)

variable {fault : Fault}

/-- A fault is run into at once. -/
theorem faults_fail (ledger : Ledger) (fault : Fault) :
    (fail fault : Action ε α).Faults ledger fault :=
  fun _ _ _ _ _ => ⟨_, rfl⟩

/-- After a fault nothing more is done. -/
theorem Faults.bind {action : Action ε α} (faults : action.Faults ledger fault)
    (next : α → Action ε β) : (action >>= next).Faults ledger fault := by
  intro under writes height events holds
  obtain ⟨context, ended⟩ := faults under writes height events holds
  exact ⟨context, perform_bind_error ended next⟩

/-- A fault is run into after an action that ends in a result. -/
theorem Runs.faults {action : Action ε α} {next : α → Action ε β}
    (runs : action.Runs ledger done fun _ => False)
    (rest : ∀ value after emitted, done value after emitted → (next value).Faults after fault) :
    (action >>= next).Faults ledger fault := by
  intro under writes height events holds
  have ended := runs under writes height events holds
  rw [perform_bind]
  generalize action.perform _ = middle at ended ⊢
  cases ended with
  | refused never => exact never.elim
  | @done value after emitted writes holds result =>
    exact rest value after emitted result under writes height (events ++ emitted) holds

/-! ## Layers -/

/-- Merging a layer into the one under it leaves that one over what is under it. -/
theorem exists_layer_commit (under : View) (writes inner : WriteSet) :
    ∃ merged, (View.layer (.layer under writes) inner).commit = .layer under merged :=
  View.exists_layer_of_under? (View.under?_commit _ inner)

/-- On a layer of its own an action does what it does anyway. -/
theorem Runs.atomically {action : Action ε α} (runs : action.Runs ledger done refused) :
    (Action.atomically action).Runs ledger done refused := by
  intro under writes height events holds
  have ended := runs (.layer under writes) ∅ height [] holds
  simp only [Action.atomically, perform, ExceptT.run, View.branch] at ended ⊢
  generalize action _ = final at ended ⊢
  cases ended with
  | refused reason => exact .refused reason
  | @done value after emitted inner holds result =>
    obtain ⟨merged, layered⟩ := exists_layer_commit under writes inner
    rw [← View.flatten_commit, layered] at holds
    simp only [layered, List.nil_append]
    exact .done merged holds result

/-- What does not end in a result on a layer of its own leaves its context as it was. -/
theorem atomically_stopped {action : Action ε α} {context after : Context} {stop : Stop ε}
    (ended : (Action.atomically action).perform context = (.error stop, after)) :
    after = context := by
  simp only [atomically, perform, ExceptT.run] at ended
  split at ended
  · exact absurd (congrArg Prod.fst ended) (by rintro ⟨⟩)
  · exact (congrArg Prod.snd ended).symm

end Action

end TokenLedger
