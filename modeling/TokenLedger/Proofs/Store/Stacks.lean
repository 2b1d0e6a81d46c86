import Mathlib.Data.List.Induction
import TokenLedger.Proofs.Store.Logs

/-!
# Stacked layers refine one flat map

Layers are opened, committed, discarded, detached and resumed in any order. A journal tells the
same history without layers: for each layer that is live, the writes made on it, the earliest
first. Whatever was done, the view is the one that the journal says, so it is read like one flat map
that took the writes of the live layers from the lowest to the topmost one. What a layer covers
stays as it is for as long as the layer is open.
-/

namespace TokenLedger

/-- A step on a stack of layers. -/
inductive LayerStep where
  /-- Give a key a value, in the topmost layer. -/
  | set (key value : Bytes)
  /-- Remove a key, in the topmost layer. -/
  | delete (key : Bytes)
  /-- Open an empty layer. -/
  | branch
  /-- Merge the topmost layer into what is under it. -/
  | commit
  /-- Drop the topmost layer. -/
  | discard
  /-- Take the topmost layer off and keep its writes for later. -/
  | detach
  /-- Put a layer on top that has the writes of the layer which was detached as the given one. -/
  | resume (index : Nat)

/-- A stack of layers, and the writes of the layers that were detached, in order. -/
structure LayerStack where
  /-- The layers over their store. -/
  view : View
  /-- The writes of each layer that was detached. -/
  detached : List WriteSet

namespace LayerStack

/-- A store without layers. -/
def ofStore (store : Store) : LayerStack := ⟨.base store, []⟩

/-- The stack after a step. -/
def step (stack : LayerStack) : LayerStep → LayerStack
  | .set key value => { stack with view := stack.view.set key value }
  | .delete key => { stack with view := stack.view.delete key }
  | .branch => { stack with view := stack.view.branch }
  | .commit => { stack with view := stack.view.commit }
  | .discard => { stack with view := stack.view.discard }
  | .detach => ⟨stack.view.discard, stack.detached ++ [stack.view.pending]⟩
  | .resume index =>
    match stack.detached[index]? with
    | some writes => { stack with view := .layer stack.view writes }
    | none => stack

/-- The stack after several steps. -/
def after (stack : LayerStack) (steps : List LayerStep) : LayerStack := steps.foldl step stack

/-- Steps after each of which some layer lies over what was the top of the stack before them. -/
def Covered (stack : LayerStack) (steps : List LayerStep) : Prop :=
  ∀ count < steps.length, stack.view.depth < (stack.after (steps.take (count + 1))).view.depth

instance (stack : LayerStack) (steps : List LayerStep) : Decidable (stack.Covered steps) :=
  inferInstanceAs (Decidable (∀ count < steps.length, _))

end LayerStack

/-! ## The journal of a stack -/

/-- What was written where: on the store, on each live layer and on each detached one. -/
structure Journal where
  /-- The writes that reached the store. -/
  carriedOut : List Write
  /-- The writes of each live layer, the topmost layer first. -/
  layers : List (List Write)
  /-- The writes of each layer that was detached. -/
  detached : List (List Write)

namespace Journal

/-- Nothing was written. -/
def empty : Journal := ⟨[], [], []⟩

/-- The journal after further writes on what is topmost. -/
def append (journal : Journal) (log : List Write) : Journal :=
  match journal.layers with
  | [] => { journal with carriedOut := journal.carriedOut ++ log }
  | top :: rest => { journal with layers := (top ++ log) :: rest }

/-- The journal after a step. -/
def step (journal : Journal) : LayerStep → Journal
  | .set key value => journal.append [(key, some value)]
  | .delete key => journal.append [(key, none)]
  | .branch => { journal with layers := [] :: journal.layers }
  | .commit =>
    match journal.layers with
    | [] => journal
    | top :: rest => { journal with layers := rest }.append top
  | .discard => { journal with layers := journal.layers.tail }
  | .detach =>
    { journal with
      layers := journal.layers.tail
      detached := journal.detached ++ [journal.layers.headD []] }
  | .resume index =>
    match journal.detached[index]? with
    | some log => { journal with layers := log :: journal.layers }
    | none => journal

/-- The journal after several steps. -/
def after (journal : Journal) (steps : List LayerStep) : Journal := steps.foldl step journal

/-- The writes that are live: those that reached the store, then those of each layer from the
lowest to the topmost one. -/
def writes (journal : Journal) : List Write :=
  journal.carriedOut ++ journal.layers.reverse.flatten

/-- The layers that a journal tells of, over a store. -/
def viewOver (journal : Journal) (store : Store) : View :=
  journal.layers.foldr (fun log under => .layer under (WriteSet.ofLog log))
    ((View.base store).writeAll journal.carriedOut)

/-- The stack that a journal tells of, over a store. -/
def stackOver (journal : Journal) (store : Store) : LayerStack :=
  ⟨journal.viewOver store, journal.detached.map WriteSet.ofLog⟩

variable (journal : Journal) (store : Store)

/-- Without layers there is the store, with what reached it carried out. -/
theorem exists_viewOver_of_nil (bottom : journal.layers = []) :
    ∃ below, journal.viewOver store = .base below := by
  rw [viewOver, bottom, List.foldr_nil, View.writeAll_base]
  exact ⟨_, rfl⟩

/-- Further writes go to what is topmost. -/
theorem viewOver_append (log : List Write) :
    (journal.append log).viewOver store = (journal.viewOver store).writeAll log := by
  obtain ⟨carriedOut, layers, detached⟩ := journal
  cases layers with
  | nil => exact View.writeAll_append _ _ _
  | cons top rest =>
    change View.layer _ (WriteSet.ofLog (top ++ log)) = View.writeAll (.layer _ _) log
    rw [View.writeAll_layer, WriteSet.ofLog, WriteSet.insertAll_append]
    rfl

/-- Without further writes on what is topmost the detached layers stay. -/
theorem detached_append (log : List Write) : (journal.append log).detached = journal.detached := by
  obtain ⟨carriedOut, layers, detached⟩ := journal
  cases layers <;> rfl

/-- Further writes on what is topmost change the stack there. -/
theorem stackOver_append (log : List Write) :
    (journal.append log).stackOver store =
      { journal.stackOver store with view := (journal.viewOver store).writeAll log } := by
  rw [stackOver, viewOver_append, detached_append]
  rfl

/-- A step changes the stack of a journal as it changes the journal. -/
theorem stackOver_step (step : LayerStep) :
    (journal.step step).stackOver store = (journal.stackOver store).step step := by
  cases step with
  | set key value => exact journal.stackOver_append store [(key, some value)]
  | delete key => exact journal.stackOver_append store [(key, none)]
  | branch => rfl
  | resume index =>
    simp only [Journal.step, LayerStack.step, stackOver, List.getElem?_map]
    cases journal.detached[index]? <;> rfl
  | commit =>
    obtain ⟨carriedOut, layers, detached⟩ := journal
    cases layers with
    | nil =>
      obtain ⟨below, bottom⟩ := exists_viewOver_of_nil ⟨carriedOut, [], detached⟩ store rfl
      simp only [Journal.step, LayerStack.step, stackOver, bottom, View.commit]
    | cons top rest =>
      change stackOver (append ⟨carriedOut, rest, detached⟩ top) store =
        ⟨View.commit (.layer (viewOver ⟨carriedOut, rest, detached⟩ store) (WriteSet.ofLog top)),
          detached.map WriteSet.ofLog⟩
      rw [stackOver_append, View.commit_layer_ofLog]
      rfl
  | discard =>
    obtain ⟨carriedOut, layers, detached⟩ := journal
    cases layers with
    | nil =>
      obtain ⟨below, bottom⟩ := exists_viewOver_of_nil ⟨carriedOut, [], detached⟩ store rfl
      simp only [Journal.step, LayerStack.step, stackOver, List.tail_nil, bottom, View.discard]
    | cons top rest => rfl
  | detach =>
    obtain ⟨carriedOut, layers, detached⟩ := journal
    cases layers with
    | nil =>
      obtain ⟨below, bottom⟩ := exists_viewOver_of_nil ⟨carriedOut, [], detached⟩ store rfl
      change LayerStack.mk (viewOver ⟨carriedOut, [], detached⟩ store)
        ((detached ++ [[]]).map WriteSet.ofLog) = _
      simp only [LayerStack.step, stackOver, bottom, View.discard, View.pending, List.map_append]
      rfl
    | cons top rest =>
      simp only [Journal.step, LayerStack.step, stackOver, List.tail_cons, List.headD_cons,
        List.map_append, List.map_cons, List.map_nil]
      rfl

/-- So do several steps. -/
theorem stackOver_after (steps : List LayerStep) :
    (journal.after steps).stackOver store = (journal.stackOver store).after steps := by
  induction steps generalizing journal with
  | nil => rfl
  | cons step steps ih =>
    change ((journal.step step).after steps).stackOver store = _
    rw [ih, stackOver_step]
    rfl

/-- A journal's view amounts to the store after the live writes, one by one. -/
theorem find?_flatten_viewOver :
    (journal.viewOver store).flatten.find? = Contents.writeAll store.find? journal.writes := by
  obtain ⟨carriedOut, layers, detached⟩ := journal
  induction layers with
  | nil =>
    rw [writes, List.reverse_nil, List.flatten_nil, List.append_nil]
    exact View.find?_flatten_writeAll (.base store) carriedOut
  | cons top rest ih =>
    have order : writes ⟨carriedOut, top :: rest, detached⟩ =
        writes ⟨carriedOut, rest, detached⟩ ++ top := by
      simp only [writes, List.reverse_cons, List.flatten_append, List.flatten_cons,
        List.flatten_nil, List.append_nil, List.append_assoc]
    rw [order, Contents.writeAll_append, ← ih]
    funext key
    rw [Contents.writeAll_apply]
    exact Store.find?_applyAll _ _ key

end Journal

/-! ## What lies under a layer -/

namespace View

/-- What of a view lies at most at the given depth: its layers from the top down are taken off. -/
def lower (depth : Nat) : View → View
  | .base store => .base store
  | .layer under writes =>
    if under.depth < depth then .layer under writes else under.lower depth

/-- Nothing is taken off a view that is not deeper. -/
theorem lower_of_depth_le {depth : Nat} {view : View} (shallow : view.depth ≤ depth) :
    view.lower depth = view := by
  cases view with
  | base store => rfl
  | layer under writes => exact if_pos shallow

/-- A layer that lies too high is taken off. -/
theorem lower_layer {depth : Nat} {under : View} (deep : depth ≤ under.depth) (writes : WriteSet) :
    (View.layer under writes).lower depth = under.lower depth :=
  if_neg (Nat.not_lt.mpr deep)

/-- Views over the same view are equally deep. -/
theorem depth_eq_of_under? {left right : View} (same : left.under? = right.under?) :
    left.depth = right.depth := by
  cases left <;> cases right <;> simp_all [under?, depth]

/-- Views over the same view agree in what lies below their topmost layers. -/
theorem lower_eq_of_under? {depth : Nat} {left right : View} (same : left.under? = right.under?)
    (deep : depth < left.depth) : left.lower depth = right.lower depth := by
  cases left with
  | base store => exact absurd deep (Nat.not_lt_zero depth)
  | layer under writes =>
    obtain ⟨others, rfl⟩ := exists_layer_of_under? same.symm
    have covered : depth ≤ under.depth := Nat.le_of_lt_succ deep
    rw [lower_layer covered, lower_layer covered]

/-- A commit takes one layer off. -/
theorem depth_commit (view : View) : view.commit.depth = view.depth - 1 := by
  cases view with
  | base store => rfl
  | layer under writes => exact depth_eq_of_under? (under?_commit under writes)

/-- Dropping a layer leaves what it covered. -/
theorem discard_eq_of_lower {view under : View} (open_ : view.depth = under.depth + 1)
    (covers : view.lower under.depth = under) : view.discard = under := by
  cases view with
  | base store => exact absurd open_.symm (Nat.succ_ne_zero _)
  | layer inner writes =>
    have level : inner.depth = under.depth := Nat.succ.inj open_
    rw [lower_layer (Nat.le_of_eq level.symm), lower_of_depth_le (Nat.le_of_eq level)] at covers
    exact covers

end View

namespace LayerStack

variable {stack : LayerStack}

/-- A step that ends above some depth leaves what lies there. -/
theorem lower_step {depth : Nat} (deep : depth ≤ stack.view.depth) (step : LayerStep)
    (above : depth < (stack.step step).view.depth) :
    (stack.step step).view.lower depth = stack.view.lower depth := by
  cases step with
  | set key value => exact View.lower_eq_of_under? (View.under?_write _ (key, some value)) above
  | delete key => exact View.lower_eq_of_under? (View.under?_write _ (key, none)) above
  | branch => exact View.lower_layer deep ∅
  | resume index =>
    simp only [LayerStack.step] at above ⊢
    cases found : stack.detached[index]? with
    | none => rfl
    | some writes => exact View.lower_layer deep writes
  | commit =>
    obtain ⟨view, detached⟩ := stack
    cases view with
    | base store => rfl
    | layer under writes =>
      have still := View.under?_commit under writes
      have inner : depth < under.depth := by
        rw [← View.depth_eq_of_under? still]
        exact above
      have covered := View.lower_layer (Nat.le_of_lt inner) writes
      exact (View.lower_eq_of_under? still above).trans covered.symm
  | discard =>
    obtain ⟨view, detached⟩ := stack
    cases view with
    | base store => rfl
    | layer under writes => exact (View.lower_layer (Nat.le_of_lt above) writes).symm
  | detach =>
    obtain ⟨view, detached⟩ := stack
    cases view with
    | base store => rfl
    | layer under writes => exact (View.lower_layer (Nat.le_of_lt above) writes).symm

/-- Steps above the top of a stack leave it as it was. -/
theorem Covered.lower_after {steps : List LayerStep} (covered : stack.Covered steps) :
    (stack.after steps).view.lower stack.view.depth = stack.view ∧
      stack.view.depth ≤ (stack.after steps).view.depth := by
  induction steps using List.reverseRecOn with
  | nil => exact ⟨View.lower_of_depth_le (Nat.le_refl _), Nat.le_refl _⟩
  | append_singleton steps step ih =>
    have earlier : stack.Covered steps := fun count inside => by
      have longer : count < (steps ++ [step]).length := by
        rw [List.length_append]
        exact Nat.lt_add_right _ inside
      have covers := covered count longer
      rwa [List.take_append_of_le_length inside] at covers
    obtain ⟨kept, deep⟩ := ih earlier
    have last : stack.after (steps ++ [step]) = (stack.after steps).step step := by
      rw [after, List.foldl_append]
      rfl
    have above : stack.view.depth < ((stack.after steps).step step).view.depth := by
      have whole : (steps ++ [step]).take (steps.length + 1) = steps ++ [step] :=
        List.take_of_length_le (Nat.le_of_eq (by rw [List.length_append, List.length_singleton]))
      have covers := covered steps.length (by simp)
      rwa [whole, last] at covers
    rw [last, lower_step deep step above]
    exact ⟨kept, Nat.le_of_lt above⟩

/-- After any history a stack is read like one flat map to which the writes of the live layers were
applied, from the lowest layer to the topmost one and in each in the order in which they were made.
A commit takes one layer off and leaves a view that is read the same, and once a layer over a stack
is dropped, by discarding or by detaching it, the stack is exactly what it was before. -/
theorem reads_flat (store : Store) (history : List LayerStep) :
    let stack := (ofStore store).after history
    let contents := Contents.writeAll store.find? (Journal.empty.after history).writes
    stack.view.Answers contents ∧
      ((stack.step .commit).view.Answers contents ∧
        (stack.step .commit).view.depth = stack.view.depth - 1) ∧
      ∀ later, stack.Covered later → (stack.after later).view.depth = stack.view.depth + 1 →
        ((stack.after later).step .discard).view = stack.view ∧
          ((stack.after later).step .detach).view = stack.view := by
  intro stack contents
  have journaled : (Journal.empty.after history).stackOver store = stack :=
    Journal.stackOver_after Journal.empty store history
  have flat : stack.view.flatten.find? = contents := by
    rw [← journaled]
    exact Journal.find?_flatten_viewOver _ store
  refine ⟨?_, ⟨?_, View.depth_commit stack.view⟩, fun later covered opened => ?_⟩
  · rw [← flat]
    exact stack.view.answers
  · have committed : (stack.step .commit).view.flatten.find? = contents := by
      rw [← flat]
      exact congrArg KeyMap.find? stack.view.flatten_commit
    rw [← committed]
    exact (stack.step .commit).view.answers
  · have dropped := View.discard_eq_of_lower opened covered.lower_after.1
    exact ⟨dropped, dropped⟩

/-- A layer that is committed, detached and resumed inside another one, and that one dropped. -/
theorem reads_flat_sample :
    let stack := (ofStore ∅).after [.set [1] [7], .branch, .delete [1], .set [255, 0] [8]]
    let later : List LayerStep :=
      [.branch, .set [1] [9], .branch, .delete [255, 0], .detach, .resume 0, .commit]
    stack.Covered later ∧ (stack.after later).view.depth = stack.view.depth + 1 ∧
      ((stack.after later).step .discard).view = stack.view := by
  have covered : ((ofStore ∅).after [.set [1] [7], .branch, .delete [1], .set [255, 0] [8]]).Covered
      [.branch, .set [1] [9], .branch, .delete [255, 0], .detach, .resume 0, .commit] := by
    decide
  have frame := (reads_flat ∅ [.set [1] [7], .branch, .delete [1], .set [255, 0] [8]]).2.2
  exact ⟨covered, rfl, (frame _ covered rfl).1⟩

end LayerStack

end TokenLedger
