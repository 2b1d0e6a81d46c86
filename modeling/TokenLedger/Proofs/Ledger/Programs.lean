import TokenLedger.Proofs.Ledger.Layers
import TokenLedger.Proofs.Store.Logs

/-!
# Programs with nested blocks

A program reads, writes and deletes keys of the stores, emits events, inspects how a part of it
ended, and runs parts of it in blocks of their own, nested at will. What of a run is kept is said
without layers: a block that ends in a result keeps its writes and events where they stand, and any
other block keeps none. A run does the same as the program in which such other blocks are erased
and the rest run where they stand.
-/

namespace TokenLedger

/-- A program that may be refused for causes of the first type and gives values of the second. -/
inductive Program : Type → Type → Type 1 where
  /-- Gives a value. -/
  | pure {ε α : Type} (value : α) : Program ε α
  /-- Ends with a refusal. -/
  | refuse {ε α : Type} (cause : ε) : Program ε α
  /-- Ends with a fault. -/
  | fail {ε α : Type} (fault : Fault) : Program ε α
  /-- Reads the value of a key of a store. -/
  | getKey {ε : Type} (name : StoreName) (key : Bytes) : Program ε (Option Bytes)
  /-- Asks whether a key of a store has a value. -/
  | hasKey {ε : Type} (name : StoreName) (key : Bytes) : Program ε Bool
  /-- Lists the entries of a store whose keys start with the given bytes. -/
  | scanKeys {ε : Type} (name : StoreName) (start : Bytes) : Program ε (List (Bytes × Bytes))
  /-- Gives a key of a store a value. -/
  | setKey {ε : Type} (name : StoreName) (key value : Bytes) : Program ε Unit
  /-- Removes a key of a store. -/
  | deleteKey {ε : Type} (name : StoreName) (key : Bytes) : Program ε Unit
  /-- Emits an event. -/
  | emit {ε : Type} (event : Event) : Program ε Unit
  /-- Runs one program and goes on with what it gives. -/
  | bind {ε α β : Type} (first : Program ε β) (next : β → Program ε α) : Program ε α
  /-- Runs a program where it stands and goes on even if it is refused. -/
  | attempt {ε ε' α : Type} (body : Program ε' α) : Program ε (Except ε' α)
  /-- Runs a program in a block of its own. -/
  | atomically {ε α : Type} (body : Program ε α) : Program ε α

/-- What is given of something that was attempted: its refusal is one more result. -/
def attempted {ε ε' α : Type} : Except (Stop ε') α → Except (Stop ε) (Except ε' α)
  | .ok value => .ok (.ok value)
  | .error (.refused cause) => .ok (.error cause)
  | .error (.faulted fault) => .error (.faulted fault)

/-- Runs an action where it stands and gives its refusal as a value. -/
def Action.attempt {ε ε' α : Type} (action : Action ε' α) : Action ε (Except ε' α) := fun context =>
  let ended := action.perform context
  (attempted ended.1, ended.2)

/-- The context after further writes and events. -/
def Context.advance (context : Context) (log : List Write) (events : List Event) : Context :=
  { context with view := context.view.writeAll log, events := context.events ++ events }

/-- How a program ends and what of its writes and events is kept, in order. -/
structure Outcome (ε α : Type) where
  /-- What it gives, or how it ends without. -/
  result : Except (Stop ε) α
  /-- The writes that are kept. -/
  writes : List Write
  /-- The events that are kept. -/
  events : List Event

namespace Program

/-- The action of a program. -/
def action {ε α : Type} : Program ε α → Action ε α
  | .pure value => Pure.pure value
  | .refuse cause => Action.refuse cause
  | .fail fault => Action.fail fault
  | .getKey name key => Action.getKey name key
  | .hasKey name key => Action.hasKey name key
  | .scanKeys name start => Action.scanKeys name start
  | .setKey name key value => Action.setKey name key value
  | .deleteKey name key => Action.deleteKey name key
  | .emit event => Action.emit event
  | .bind first next => first.action >>= fun value => (next value).action
  | .attempt body => body.action.attempt
  | .atomically body => Action.atomically body.action

/-- A program without blocks. -/
def Plain {ε α : Type} : Program ε α → Prop
  | .bind first next => first.Plain ∧ ∀ value, (next value).Plain
  | .attempt body => body.Plain
  | .atomically _ => False
  | _ => True

/-- The program without its blocks, as they end when it runs in a context: the body of one that ends
in a result stands in its place, and of any other one only how it ends is left. -/
def erase {ε α : Type} : Program ε α → Context → Program ε α
  | .bind first next, context =>
    .bind (first.erase context) fun value => (next value).erase (first.action.perform context).2
  | .attempt body, context => .attempt (body.erase context)
  | .atomically body, context =>
    match (body.action.perform context.branch).1 with
    | .ok _ => body.erase context.branch
    | .error (.refused cause) => .refuse cause
    | .error (.faulted fault) => .fail fault
  | program, _ => program

/-- What a program does to a flat store: reads are answered after the writes before them, those of
the blocks around them included. -/
def outcome {ε α : Type} : Program ε α → Store → Outcome ε α
  | .pure value, _ => ⟨.ok value, [], []⟩
  | .refuse cause, _ => ⟨.error (.refused cause), [], []⟩
  | .fail fault, _ => ⟨.error (.faulted fault), [], []⟩
  | .getKey name key, store => ⟨.ok ((View.base store).getIn name.keyStart key), [], []⟩
  | .hasKey name key, store => ⟨.ok ((View.base store).hasIn name.keyStart key), [], []⟩
  | .scanKeys name start, store => ⟨.ok ((View.base store).scanIn name.keyStart start), [], []⟩
  | .setKey name key value, _ => ⟨.ok (), [(name.keyStart ++ key, some value)], []⟩
  | .deleteKey name key, _ => ⟨.ok (), [(name.keyStart ++ key, none)], []⟩
  | .emit event, _ => ⟨.ok (), [], [event]⟩
  | .bind first next, store =>
    let earlier := first.outcome store
    match earlier.result with
    | .ok value =>
      let later := (next value).outcome (Store.writeAll store earlier.writes)
      ⟨later.result, earlier.writes ++ later.writes, earlier.events ++ later.events⟩
    | .error stop => ⟨.error stop, earlier.writes, earlier.events⟩
  | .attempt body, store =>
    let inner := body.outcome store
    ⟨attempted inner.result, inner.writes, inner.events⟩
  | .atomically body, store =>
    let inner := body.outcome store
    match inner.result with
    | .ok _ => inner
    | .error stop => ⟨.error stop, [], []⟩

end Program

/-! ## What of a run is kept -/

/-- Nothing further leaves a context. -/
theorem Context.advance_nil (context : Context) : context.advance [] [] = context := by
  rw [advance, List.append_nil]
  rfl

/-- Writes and events of two parts in order are those of one. -/
theorem Context.advance_append (context : Context) (earlier later : List Write)
    (before after : List Event) :
    context.advance (earlier ++ later) (before ++ after) =
      (context.advance earlier before).advance later after := by
  rw [advance, View.writeAll_append, ← List.append_assoc]
  rfl

/-- A block that is merged leaves its writes and events where it stands. -/
theorem Context.merge_branch (context : Context) (log : List Write) (events : List Event) :
    { context with
      view := (context.branch.advance log events).view.commit
      events := context.events ++ (context.branch.advance log events).events } =
      context.advance log events := by
  have layered : (context.branch.advance log events).view =
      .layer context.view (WriteSet.ofLog log) := View.writeAll_layer context.view ∅ log
  rw [layered, View.commit_layer_ofLog]
  rfl

namespace Program

variable {ε α : Type}

/-- A program ends as on the flat store that the view amounts to, and leaves the writes and events
that are kept there. -/
theorem perform_eq_outcome (program : Program ε α) (context : Context) :
    program.action.perform context =
      ((program.outcome context.view.flatten).result,
        context.advance (program.outcome context.view.flatten).writes
          (program.outcome context.view.flatten).events) := by
  induction program generalizing context with
  | pure value => exact congrArg (Prod.mk _) context.advance_nil.symm
  | refuse cause => exact congrArg (Prod.mk _) context.advance_nil.symm
  | fail fault => exact congrArg (Prod.mk _) context.advance_nil.symm
  | getKey name key =>
    have same : context.view.getIn name.keyStart key =
        (View.base context.view.flatten).getIn name.keyStart key :=
      context.view.get_eq_find?_flatten _
    rw [outcome, ← same, Context.advance_nil]
    rfl
  | hasKey name key =>
    have same : context.view.hasIn name.keyStart key =
        (View.base context.view.flatten).hasIn name.keyStart key :=
      congrArg Option.isSome (context.view.get_eq_find?_flatten _)
    rw [outcome, ← same, Context.advance_nil]
    rfl
  | scanKeys name start =>
    have same : context.view.scanIn name.keyStart start =
        (View.base context.view.flatten).scanIn name.keyStart start := by
      rw [View.scanIn, View.scan_eq_below_flatten]
      rfl
    rw [outcome, ← same, Context.advance_nil]
    rfl
  | setKey name key value =>
    rw [outcome, Context.advance, List.append_nil]
    rfl
  | deleteKey name key =>
    rw [outcome, Context.advance, List.append_nil]
    rfl
  | emit event => rfl
  | bind first next firstKeeps nextKeeps =>
    have flat := context.view.flatten_writeAll (first.outcome context.view.flatten).writes
    rw [action, Action.perform_bind, firstKeeps, outcome]
    cases (first.outcome context.view.flatten).result with
    | error stop => rfl
    | ok value =>
      simp only [nextKeeps, Context.advance_append]
      rw [← flat]
      rfl
  | attempt body keeps =>
    rw [action, outcome]
    change (attempted (body.action.perform context).1, (body.action.perform context).2) = _
    rw [keeps]
  | atomically body keeps =>
    rw [action, Action.perform_atomically, keeps, outcome]
    have flat : context.branch.view.flatten = context.view.flatten := context.view.flatten_branch
    rw [flat]
    cases ended : (body.outcome context.view.flatten).result with
    | error stop => exact congrArg (Prod.mk _) context.advance_nil.symm
    | ok value => simp only [ended, Context.merge_branch]

/-- The program without its blocks has none. -/
theorem plain_erase (program : Program ε α) (context : Context) :
    (program.erase context).Plain := by
  induction program generalizing context with
  | bind first next firstPlain nextPlain =>
    exact ⟨firstPlain context, fun value => nextPlain value _⟩
  | attempt body plain => exact plain context
  | atomically body plain =>
    rw [erase]
    split
    · exact plain context.branch
    · trivial
    · trivial
  | _ => trivial

/-- Without its blocks a program does the same. -/
theorem perform_erase (program : Program ε α) (context : Context) :
    (program.erase context).action.perform context = program.action.perform context := by
  induction program generalizing context with
  | bind first next firstSame nextSame =>
    rw [erase, action, action, Action.perform_bind, Action.perform_bind, firstSame]
    cases ended : first.action.perform context with
    | mk result after =>
      cases result with
      | error stop => rfl
      | ok value => simp only [nextSame]
  | attempt body same =>
    change (attempted _, _) = (attempted _, _)
    rw [same]
  | atomically body same =>
    -- What the body leaves in its block tells what it leaves where it stands.
    have inside := (body.erase context.branch).perform_eq_outcome context.branch
    have outside := (body.erase context.branch).perform_eq_outcome context
    have flat : context.branch.view.flatten = context.view.flatten := context.view.flatten_branch
    rw [same, flat] at inside
    rw [erase, action, Action.perform_atomically, inside]
    generalize (body.erase context.branch).outcome context.view.flatten = kept at outside ⊢
    obtain ⟨result, writes, events⟩ := kept
    cases result with
    | error stop => cases stop <;> rfl
    | ok value =>
      simp only [Context.merge_branch]
      exact outside
  | _ => rfl

/-- Blocks keep all or nothing, and do nothing else. A program does what it does with every block
that does not end in a result erased, of which only how it ends is left, and with the body of every
other block where it stands: it ends in the same way, with the same store and the same events. Of
its writes and events those are kept, in order, that are in no such erased block, and how it ends
and which they are depends on nothing but the store that the view amounts to. -/
theorem blocks_all_or_nothing (program : Program ε α) (context : Context) :
    (program.erase context).Plain ∧
      (program.erase context).action.perform context = program.action.perform context ∧
      program.action.perform context =
        ((program.outcome context.view.flatten).result,
          context.advance (program.outcome context.view.flatten).writes
            (program.outcome context.view.flatten).events) :=
  ⟨program.plain_erase context, program.perform_erase context, program.perform_eq_outcome context⟩

/-- A block that ends in a result, inside one that does not, keeps nothing. -/
example (name : StoreName) (kept lost : Event) :
    outcome (.bind (.emit kept) fun _ => .attempt (.atomically (.bind
        (.atomically (.bind (.emit lost) fun _ => .setKey name [] [1])) fun _ => .refuse ()))) ∅ =
      (⟨.ok (.error ()), [], [kept]⟩ : Outcome Unit (Except Unit Unit)) := by
  cbv

end Program

end TokenLedger
