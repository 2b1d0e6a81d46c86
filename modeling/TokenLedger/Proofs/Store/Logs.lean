import Mathlib.Logic.Function.Basic
import TokenLedger.Proofs.Store.Contents

/-!
# Writes in the order in which they were made

A log is a list of writes, the earliest first. A flat map takes a log write by write. A layer keeps
of it only what it says last of each key, and that is enough: a view depends on the log through
that alone, so committing a layer is making the writes of its log on the view under it.
-/

namespace TokenLedger

/-- A key and what it is bound to from now on; bound to nothing, it is removed. -/
abbrev Write := Bytes × Option Bytes

/-- A flat map after one write. -/
def Contents.write (contents : Contents) (write : Write) : Contents :=
  Function.update contents write.1 write.2

/-- A flat map after the writes of a log. -/
def Contents.writeAll (contents : Contents) (log : List Write) : Contents :=
  log.foldl Contents.write contents

/-- Pending writes after those of a log. -/
def WriteSet.insertAll (writes : WriteSet) (log : List Write) : WriteSet :=
  log.foldl (fun writes write => writes.insert write.1 write.2) writes

/-- What a log says last of each key. -/
def WriteSet.ofLog (log : List Write) : WriteSet := WriteSet.insertAll ∅ log

/-- A store after the writes of a log. -/
def Store.writeAll (store : Store) (log : List Write) : Store := log.foldl Store.applyWrite store

/-- A view after the writes of a log. -/
def View.writeAll (view : View) (log : List Write) : View := log.foldl View.write view

/-- A flat map after one write holds what was written, and elsewhere what it held. -/
theorem Contents.write_apply (contents : Contents) (write : Write) (key : Bytes) :
    contents.write write key = if write.1 = key then write.2 else contents key := by
  rw [Contents.write, Function.update_apply]
  exact if_congr eq_comm rfl rfl

/-- Writes of two logs in order are those of one log. -/
theorem Contents.writeAll_append (contents : Contents) (earlier later : List Write) :
    contents.writeAll (earlier ++ later) = (contents.writeAll earlier).writeAll later :=
  List.foldl_append

/-- A store takes the writes of a log like a flat map. -/
theorem Store.find?_writeAll (store : Store) (log : List Write) :
    (Store.writeAll store log).find? = Contents.writeAll store.find? log := by
  induction log generalizing store with
  | nil => rfl
  | cons write log ih =>
    have one : (store.applyWrite write).find? = Contents.write store.find? write := by
      funext key
      rw [Store.find?_applyWrite, Contents.write_apply]
    change (Store.writeAll (store.applyWrite write) log).find? = _
    rw [ih, one]
    rfl

namespace WriteSet

/-- Pending writes after those of two logs in order. -/
theorem insertAll_append (writes : WriteSet) (earlier later : List Write) :
    writes.insertAll (earlier ++ later) = (writes.insertAll earlier).insertAll later :=
  List.foldl_append

/-- Of each key the pending writes hold what the log says last, or else what they held before. -/
theorem find?_insertAll (writes : WriteSet) (log : List Write) (key : Bytes) :
    (writes.insertAll log).find? key = ((ofLog log).find? key).or (writes.find? key) := by
  induction log generalizing writes with
  | nil => rfl
  | cons write log ih =>
    have first := ih (writes.insert write.1 write.2)
    have alone := ih ((∅ : WriteSet).insert write.1 write.2)
    change (insertAll (writes.insert write.1 write.2) log).find? key =
      ((insertAll ((∅ : WriteSet).insert write.1 write.2) log).find? key).or (writes.find? key)
    rw [first, alone, Option.or_assoc, KeyMap.find?_insert, KeyMap.find?_insert]
    by_cases same : write.1 = key
    · simp only [same, if_true, Option.some_or]
    · have nothing : (∅ : WriteSet).find? key = none := rfl
      simp only [same, if_false, nothing, Option.none_or]

/-- Pending writes are what they say last of each key. -/
theorem ofLog_entries (writes : WriteSet) : ofLog writes.entries = writes := by
  have walk : ∀ (entries : List Write) (key : Bytes), KeysAscend entries →
      (ofLog entries).find? key = findEntry key entries := by
    intro entries key ascend
    induction entries with
    | nil => rfl
    | cons head rest ih =>
      obtain ⟨above, tail⟩ := List.pairwise_cons.mp ascend
      have split := find?_insertAll ((∅ : WriteSet).insert head.1 head.2) rest key
      rw [KeyMap.find?_insert, ih tail] at split
      change (insertAll ((∅ : WriteSet).insert head.1 head.2) rest).find? key = _
      rw [split, findEntry]
      by_cases same : head.1 = key
      · have absent : findEntry key rest = none := findEntry_eq_none fun entry member equal =>
          Bytes.lt_irrefl key (by simpa only [same, equal] using above entry member)
        rw [absent, if_pos same, if_pos same, Option.none_or]
      · have nothing : (∅ : WriteSet).find? key = none := rfl
        rw [if_neg same, if_neg same, nothing, Option.or_none]
  exact KeyMap.ext_find? fun key => walk writes.entries key writes.ascend

end WriteSet

/-- Of each key a flat map holds what the log says last, or else what it held before. -/
theorem Contents.writeAll_apply (contents : Contents) (log : List Write) (key : Bytes) :
    contents.writeAll log key = ((WriteSet.ofLog log).find? key).getD (contents key) := by
  induction log generalizing contents with
  | nil => rfl
  | cons write log ih =>
    have split := WriteSet.find?_insertAll ((∅ : WriteSet).insert write.1 write.2) log key
    rw [KeyMap.find?_insert] at split
    change (contents.write write).writeAll log key =
      ((WriteSet.insertAll ((∅ : WriteSet).insert write.1 write.2) log).find? key).getD _
    rw [ih, split, Contents.write_apply]
    cases (WriteSet.ofLog log).find? key with
    | some change => rfl
    | none =>
      have nothing : (∅ : WriteSet).find? key = none := rfl
      by_cases same : write.1 = key
      · simp only [same, if_true, Option.none_or, Option.getD_none, Option.getD_some]
      · simp only [same, if_false, nothing, Option.none_or, Option.getD_none]

namespace View

/-- Writes of two logs in order are those of one log. -/
theorem writeAll_append (view : View) (earlier later : List Write) :
    view.writeAll (earlier ++ later) = (view.writeAll earlier).writeAll later :=
  List.foldl_append

/-- The store that a view amounts to takes the writes of a log. -/
theorem flatten_writeAll (view : View) (log : List Write) :
    (view.writeAll log).flatten = Store.writeAll view.flatten log := by
  induction log generalizing view with
  | nil => rfl
  | cons write log ih =>
    change ((view.write write).writeAll log).flatten = _
    rw [ih, flatten_write]
    rfl

/-- The store that a view amounts to takes the writes of a log like a flat map. -/
theorem find?_flatten_writeAll (view : View) (log : List Write) :
    (view.writeAll log).flatten.find? = Contents.writeAll view.flatten.find? log := by
  rw [flatten_writeAll, Store.find?_writeAll]

/-- On a layer the writes of a log are pending. -/
theorem writeAll_layer (under : View) (writes : WriteSet) (log : List Write) :
    (View.layer under writes).writeAll log = .layer under (writes.insertAll log) := by
  induction log generalizing writes with
  | nil => rfl
  | cons write log ih =>
    have one : (View.layer under writes).write write =
        .layer under (writes.insert write.1 write.2) := by
      obtain ⟨key, change⟩ := write
      cases change <;> rfl
    change ((View.layer under writes).write write).writeAll log = _
    rw [one, ih]
    rfl

/-- On a store the writes of a log are carried out. -/
theorem writeAll_base (store : Store) (log : List Write) :
    (View.base store).writeAll log = .base (Store.writeAll store log) := by
  induction log generalizing store with
  | nil => rfl
  | cons write log ih =>
    change ((View.base store).write write).writeAll log = _
    rw [write_base, ih]
    rfl

/-- Logs that say the same last of each key lead to the same view. -/
theorem writeAll_congr (view : View) {left right : List Write}
    (same : WriteSet.ofLog left = WriteSet.ofLog right) :
    view.writeAll left = view.writeAll right := by
  cases view with
  | base store =>
    rw [writeAll_base, writeAll_base]
    congr 1
    refine KeyMap.ext_find? fun key => ?_
    rw [Store.find?_writeAll, Store.find?_writeAll, Contents.writeAll_apply,
      Contents.writeAll_apply, same]
  | layer under writes =>
    rw [writeAll_layer, writeAll_layer]
    congr 1
    refine KeyMap.ext_find? fun key => ?_
    rw [WriteSet.find?_insertAll, WriteSet.find?_insertAll, same]

/-- Committing a layer is making the writes of its log on the view under it. -/
theorem commit_layer_ofLog (under : View) (log : List Write) :
    (View.layer under (WriteSet.ofLog log)).commit = under.writeAll log :=
  under.writeAll_congr (WriteSet.ofLog_entries _)

end View

end TokenLedger
