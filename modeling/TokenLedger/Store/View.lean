import TokenLedger.Store.KeyMap

/-!
# A store seen through pending writes

A view is a store with any number of layers of pending writes on top of it. Reads look through the
layers from the top; writes go to the topmost one, and reach the store only when every layer above
it is committed. `flatten` is the store a view amounts to, and each operation has one lemma that
says what it does to it.
-/

namespace TokenLedger

/-- A flat store. -/
abbrev Store := KeyMap Bytes

/-- Pending writes; a key bound to nothing is to be deleted. -/
abbrev WriteSet := KeyMap (Option Bytes)

/-- One pending write carried out. -/
def Store.applyWrite (store : Store) (write : Bytes × Option Bytes) : Store :=
  match write.2 with
  | some value => store.insert write.1 value
  | none => store.erase write.1

/-- Every pending write carried out. -/
def Store.applyAll (store : Store) (writes : WriteSet) : Store :=
  writes.entries.foldl Store.applyWrite store

/-- A write decides its own key and no other. -/
theorem Store.find?_applyWrite (store : Store) (write : Bytes × Option Bytes) (key : Bytes) :
    (store.applyWrite write).find? key = if write.1 = key then write.2 else store.find? key := by
  obtain ⟨target, pending⟩ := write
  cases pending with
  | some value => exact KeyMap.find?_insert store target key value
  | none => exact KeyMap.find?_erase store target key

/-- After a write set is carried out, each key holds what the set says, or what it held before. -/
theorem Store.find?_applyAll (store : Store) (writes : WriteSet) (key : Bytes) :
    (store.applyAll writes).find? key = (writes.find? key).getD (store.find? key) := by
  unfold Store.applyAll KeyMap.find?
  have walk : ∀ (entries : List (Bytes × Option Bytes)) (start : Store), KeysAscend entries →
      findEntry key (entries.foldl Store.applyWrite start).entries =
        (findEntry key entries).getD (findEntry key start.entries) := by
    intro entries
    induction entries with
    | nil => intro start _; rfl
    | cons head rest ih =>
      intro start ascend
      obtain ⟨above, tail⟩ := List.pairwise_cons.mp ascend
      rw [List.foldl_cons, ih _ tail]
      have written := Store.find?_applyWrite start head key
      unfold KeyMap.find? at written
      rw [written]
      by_cases same : head.1 = key
      · have absent : findEntry key rest = none := findEntry_eq_none fun entry member equal =>
          Bytes.lt_irrefl key (by simpa [same, equal] using above entry member)
        simp [findEntry, same, absent]
      · simp [findEntry, same]
  exact walk writes.entries store writes.ascend

/-- A store under layers of pending writes. -/
inductive View where
  /-- The store itself; writes take effect at once. -/
  | base (store : Store)
  /-- A layer of pending writes over another view. -/
  | layer (under : View) (writes : WriteSet)

namespace View

/-- The value of a key: the topmost layer that mentions it decides. -/
def get : View → Bytes → Option Bytes
  | .base store, key => store.find? key
  | .layer under writes, key => (writes.find? key).getD (under.get key)

/-- Whether a key has a value. -/
def has (view : View) (key : Bytes) : Bool := (view.get key).isSome

/-- The entries whose keys start with the given bytes, ascending. -/
def scan : View → Bytes → Store
  | .base store, start => store.below start
  | .layer under writes, start => (under.scan start).applyAll (writes.below start)

/-- Gives a key a value, in the topmost layer. -/
def set : View → Bytes → Bytes → View
  | .base store, key, value => .base (store.insert key value)
  | .layer under writes, key, value => .layer under (writes.insert key (some value))

/-- Removes a key, in the topmost layer. -/
def delete : View → Bytes → View
  | .base store, key => .base (store.erase key)
  | .layer under writes, key => .layer under (writes.insert key none)

/-- Opens an empty layer. -/
def branch (view : View) : View := .layer view ∅

/-- Carries one pending write out on a view. -/
def write (view : View) (pending : Bytes × Option Bytes) : View :=
  match pending.2 with
  | some value => view.set pending.1 value
  | none => view.delete pending.1

/-- Merges the topmost layer into what is under it. -/
def commit : View → View
  | .base store => .base store
  | .layer under writes => writes.entries.foldl write under

/-- Drops the topmost layer. -/
def discard : View → View
  | .base store => .base store
  | .layer under _ => under

/-- The pending writes of the topmost layer. -/
def pending : View → WriteSet
  | .base _ => ∅
  | .layer _ writes => writes

/-- Whether the topmost layer holds any pending write. -/
def isDirty (view : View) : Bool := !view.pending.isEmpty

/-- The number of open layers. -/
def depth : View → Nat
  | .base _ => 0
  | .layer under _ => under.depth + 1

/-- The view under the topmost layer; a store has nothing under it. -/
def under? : View → Option View
  | .base _ => none
  | .layer under _ => some under

/-- The store at the bottom, with no layer applied. -/
def root : View → Store
  | .base store => store
  | .layer under _ => under.root

/-- The store a view amounts to, with every layer applied. -/
def flatten : View → Store
  | .base store => store
  | .layer under writes => under.flatten.applyAll writes

/-- Reading a view is reading the store it amounts to. -/
theorem get_eq_find?_flatten (view : View) (key : Bytes) :
    view.get key = view.flatten.find? key := by
  induction view with
  | base store => rfl
  | layer under writes ih => simp [get, flatten, Store.find?_applyAll, ih]

/-- Scanning a view is scanning the store it amounts to. -/
theorem scan_eq_below_flatten (view : View) (start : Bytes) :
    view.scan start = view.flatten.below start := by
  induction view with
  | base store => rfl
  | layer under writes ih =>
    refine KeyMap.ext_find? fun key => ?_
    simp only [scan, flatten, ih, Store.find?_applyAll, KeyMap.find?_below]
    by_cases inside : start.isPrefixOf key <;> simp [inside]

/-- Setting a key in a view sets it in the store it amounts to. -/
theorem flatten_set (view : View) (key value : Bytes) :
    (view.set key value).flatten = view.flatten.insert key value := by
  cases view with
  | base store => rfl
  | layer under writes =>
    refine KeyMap.ext_find? fun other => ?_
    simp only [set, flatten, Store.find?_applyAll, KeyMap.find?_insert]
    by_cases same : key = other <;> simp [same]

/-- Deleting a key in a view erases it in the store it amounts to. -/
theorem flatten_delete (view : View) (key : Bytes) :
    (view.delete key).flatten = view.flatten.erase key := by
  cases view with
  | base store => rfl
  | layer under writes =>
    refine KeyMap.ext_find? fun other => ?_
    simp only [delete, flatten, Store.find?_applyAll, KeyMap.find?_insert, KeyMap.find?_erase]
    by_cases same : key = other <;> simp [same]

/-- A fresh layer changes nothing that can be read. -/
theorem flatten_branch (view : View) : view.branch.flatten = view.flatten := rfl

/-- Carrying a pending write out on a view carries it out on the store it amounts to. -/
theorem flatten_write (view : View) (pending : Bytes × Option Bytes) :
    (view.write pending).flatten = view.flatten.applyWrite pending := by
  obtain ⟨key, change⟩ := pending
  cases change with
  | some value => exact flatten_set view key value
  | none => exact flatten_delete view key

/-- Merging the topmost layer changes nothing that can be read. -/
theorem flatten_commit (view : View) : view.commit.flatten = view.flatten := by
  cases view with
  | base store => rfl
  | layer under writes =>
    have walk : ∀ (entries : List (Bytes × Option Bytes)) (start : View),
        (entries.foldl write start).flatten = entries.foldl Store.applyWrite start.flatten := by
      intro entries
      induction entries with
      | nil => intro start; rfl
      | cons head rest ih => intro start; rw [List.foldl_cons, ih, flatten_write, List.foldl_cons]
    exact walk writes.entries under

/-! ## What is under a layer -/

/-- A write goes to the topmost layer. -/
theorem under?_write (view : View) (pending : Bytes × Option Bytes) :
    (view.write pending).under? = view.under? := by
  obtain ⟨key, change⟩ := pending
  cases change <;> cases view <;> rfl

/-- Without layers a write is carried out at once. -/
theorem write_base (store : Store) (pending : Bytes × Option Bytes) :
    (View.base store).write pending = .base (store.applyWrite pending) := by
  obtain ⟨key, change⟩ := pending
  cases change <;> rfl

/-- A layer is merged into the topmost one of those under it. -/
theorem under?_commit (under : View) (writes : WriteSet) :
    (View.layer under writes).commit.under? = under.under? := by
  have walk : ∀ (entries : List (Bytes × Option Bytes)) (start : View),
      (entries.foldl write start).under? = start.under? := by
    intro entries
    induction entries with
    | nil => exact fun _ => rfl
    | cons entry rest ih =>
      intro start
      rw [List.foldl_cons, ih, under?_write]
  exact walk writes.entries under

/-- A view with nothing under it is the store that it amounts to. -/
theorem eq_base_of_under? {view : View} (bottom : view.under? = none) :
    view = .base view.flatten := by
  cases view with
  | base store => rfl
  | layer under writes => exact nomatch bottom

/-- A view with another one under it is a layer over that one. -/
theorem exists_layer_of_under? {view under : View} (covers : view.under? = some under) :
    ∃ writes, view = .layer under writes := by
  cases view with
  | base store => exact nomatch covers
  | layer _ writes =>
    rw [Option.some.inj covers]
    exact ⟨writes, rfl⟩

end View

end TokenLedger
