import TokenLedger.Bytes

/-!
# Ordered maps from byte strings

A map is a list of entries whose keys ascend strictly, so equal contents mean equal maps:
`KeyMap.ext_find?` says that two maps which answer every look-up alike are the same map. Each
operation is described by one look-up lemma.
-/

namespace TokenLedger

/-- Keys in strictly ascending byte order. -/
abbrev KeysAscend {β : Type} (entries : List (Bytes × β)) : Prop :=
  entries.Pairwise fun left right => left.1 < right.1

/-- A finite map from byte strings, in the one form its contents allow. -/
structure KeyMap (β : Type) where
  /-- The entries, ascending by key. -/
  entries : List (Bytes × β)
  /-- No key occurs twice and none is out of order. -/
  ascend : KeysAscend entries

/-- The entry list with `key` bound to `value`, at the place its order gives it. -/
def insertEntry {β : Type} (key : Bytes) (value : β) : List (Bytes × β) → List (Bytes × β)
  | [] => [(key, value)]
  | entry :: rest =>
    if key < entry.1 then (key, value) :: entry :: rest
    else if key = entry.1 then (key, value) :: rest
    else entry :: insertEntry key value rest

/-- Every entry after an insertion is the new one or an old one. -/
theorem mem_insertEntry {β : Type} {key : Bytes} {value : β} {entries : List (Bytes × β)}
    {entry : Bytes × β} (member : entry ∈ insertEntry key value entries) :
    entry = (key, value) ∨ entry ∈ entries := by
  induction entries with
  | nil => simpa [insertEntry] using member
  | cons head rest ih =>
    unfold insertEntry at member
    split at member
    · simpa using member
    · split at member
      · rcases List.mem_cons.mp member with same | old
        · exact .inl same
        · exact .inr (List.mem_cons_of_mem _ old)
      · rcases List.mem_cons.mp member with same | later
        · exact .inr (same ▸ List.mem_cons_self)
        · rcases ih later with new | old
          · exact .inl new
          · exact .inr (List.mem_cons_of_mem _ old)

/-- Insertion keeps the keys ascending. -/
theorem keysAscend_insertEntry {β : Type} (key : Bytes) (value : β) {entries : List (Bytes × β)}
    (ascend : KeysAscend entries) : KeysAscend (insertEntry key value entries) := by
  induction entries with
  | nil => simp [insertEntry, KeysAscend]
  | cons head rest ih =>
    obtain ⟨above, tail⟩ := List.pairwise_cons.mp ascend
    unfold insertEntry
    split
    · next before =>
      refine List.pairwise_cons.mpr ⟨fun entry member => ?_, ascend⟩
      rcases List.mem_cons.mp member with same | later
      · exact same ▸ before
      · exact Bytes.lt_trans before (above entry later)
    · next notBefore =>
      split
      · next same =>
        exact List.pairwise_cons.mpr ⟨fun entry member => same ▸ above entry member, tail⟩
      · next different =>
        refine List.pairwise_cons.mpr ⟨fun entry member => ?_, ih tail⟩
        rcases mem_insertEntry member with new | old
        · subst new
          exact Decidable.byContradiction fun notAfter =>
            different (Bytes.eq_of_not_lt notBefore notAfter)
        · exact above entry old

/-- The value bound to a key in an entry list. -/
def findEntry {β : Type} (key : Bytes) : List (Bytes × β) → Option β
  | [] => none
  | entry :: rest => if entry.1 = key then some entry.2 else findEntry key rest

/-- A key below every key of a list is not found in it. -/
theorem findEntry_eq_none {β : Type} {key : Bytes} {entries : List (Bytes × β)}
    (absent : ∀ entry ∈ entries, entry.1 ≠ key) : findEntry key entries = none := by
  induction entries with
  | nil => rfl
  | cons head rest ih =>
    simp only [findEntry, absent head List.mem_cons_self, if_false]
    exact ih fun entry member => absent entry (List.mem_cons_of_mem _ member)

/-- What is found is an entry. -/
theorem mem_of_findEntry {β : Type} {key : Bytes} {value : β} {entries : List (Bytes × β)}
    (found : findEntry key entries = some value) : (key, value) ∈ entries := by
  induction entries with
  | nil => contradiction
  | cons head rest ih =>
    unfold findEntry at found
    split at found
    · next same =>
      injection found with found
      subst found same
      exact List.mem_cons_self
    · exact List.mem_cons_of_mem _ (ih found)

/-- An entry of an ascending list is found under its key. -/
theorem findEntry_of_mem {β : Type} {key : Bytes} {value : β} {entries : List (Bytes × β)}
    (ascend : KeysAscend entries) (member : (key, value) ∈ entries) :
    findEntry key entries = some value := by
  induction entries with
  | nil => contradiction
  | cons head rest ih =>
    obtain ⟨above, tail⟩ := List.pairwise_cons.mp ascend
    unfold findEntry
    rcases List.mem_cons.mp member with same | later
    · simp [← same]
    · have before : head.1 < key := above (key, value) later
      have differs : head.1 ≠ key := fun same => Bytes.lt_irrefl key (same ▸ before)
      simp only [differs, if_false]
      exact ih tail later

/-- Insertion binds its own key and leaves every other key alone. -/
theorem findEntry_insertEntry {β : Type} (key : Bytes) (value : β) {entries : List (Bytes × β)}
    (ascend : KeysAscend entries) (other : Bytes) :
    findEntry other (insertEntry key value entries) =
      if key = other then some value else findEntry other entries := by
  induction entries with
  | nil => simp [insertEntry, findEntry]
  | cons head rest ih =>
    obtain ⟨above, tail⟩ := List.pairwise_cons.mp ascend
    unfold insertEntry
    split
    · rfl
    · split
      · next same =>
        subst same
        simp only [findEntry]
        split <;> rfl
      · next different =>
        simp only [findEntry, ih tail]
        by_cases here : head.1 = other
        · have : key ≠ other := fun same => different (same.trans here.symm)
          simp [here, this]
        · simp [here]

namespace KeyMap

variable {β : Type}

/-- The map with no entries. -/
def empty : KeyMap β := ⟨[], List.Pairwise.nil⟩

instance : EmptyCollection (KeyMap β) := ⟨empty⟩

instance : Inhabited (KeyMap β) := ⟨empty⟩

instance [DecidableEq β] : DecidableEq (KeyMap β) := fun left right =>
  if same : left.entries = right.entries then
    .isTrue (by cases left; cases right; simpa using same)
  else .isFalse fun equal => same (by rw [equal])

/-- The value bound to a key. -/
def find? (map : KeyMap β) (key : Bytes) : Option β := findEntry key map.entries

/-- Whether a key is bound. -/
def contains (map : KeyMap β) (key : Bytes) : Bool := (map.find? key).isSome

/-- The map with `key` bound to `value`. -/
def insert (map : KeyMap β) (key : Bytes) (value : β) : KeyMap β :=
  ⟨insertEntry key value map.entries, keysAscend_insertEntry key value map.ascend⟩

/-- The entries whose keys satisfy a test. -/
def filterKeys (map : KeyMap β) (keep : Bytes → Bool) : KeyMap β :=
  ⟨map.entries.filter fun entry => keep entry.1, map.ascend.filter _⟩

/-- The map without a key. -/
def erase (map : KeyMap β) (key : Bytes) : KeyMap β := map.filterKeys (· ≠ key)

/-- The entries whose keys start with the given bytes. -/
def below (map : KeyMap β) (start : Bytes) : KeyMap β := map.filterKeys start.isPrefixOf

/-- The number of entries. -/
def size (map : KeyMap β) : Nat := map.entries.length

/-- Whether there is no entry. -/
def isEmpty (map : KeyMap β) : Bool := map.entries.isEmpty

@[simp]
theorem find?_empty (key : Bytes) : (empty : KeyMap β).find? key = none := rfl

/-- What a key is bound to after an insertion. -/
theorem find?_insert (map : KeyMap β) (key other : Bytes) (value : β) :
    (map.insert key value).find? other = if key = other then some value else map.find? other :=
  findEntry_insertEntry key value map.ascend other

/-- A filtered map answers for the keys it keeps and for no others. -/
theorem find?_filterKeys (map : KeyMap β) (keep : Bytes → Bool) (key : Bytes) :
    (map.filterKeys keep).find? key = if keep key then map.find? key else none := by
  unfold find? filterKeys
  have walk : ∀ entries : List (Bytes × β),
      findEntry key (entries.filter fun entry => keep entry.1) =
        if keep key then findEntry key entries else none := by
    intro entries
    induction entries with
    | nil => simp [findEntry]
    | cons head rest ih =>
      by_cases kept : keep head.1
      · simp only [List.filter_cons, kept, if_true, findEntry, ih]
        by_cases same : head.1 = key
        · simp [same, same ▸ kept]
        · simp [same]
      · simp only [List.filter_cons, kept, findEntry]
        by_cases same : head.1 = key
        · subst same
          simpa [kept] using ih
        · simpa [same] using ih
  exact walk map.entries

/-- What a key is bound to after an erasure. -/
theorem find?_erase (map : KeyMap β) (key other : Bytes) :
    (map.erase key).find? other = if key = other then none else map.find? other := by
  rw [erase, find?_filterKeys]
  by_cases same : key = other
  · simp [same]
  · simp [same, Ne.symm same]

/-- A map restricted to a start answers for the keys with that start. -/
theorem find?_below (map : KeyMap β) (start key : Bytes) :
    (map.below start).find? key = if start.isPrefixOf key then map.find? key else none :=
  find?_filterKeys map _ key

/-- An entry is found under its key, and only entries are found. -/
theorem find?_eq_some_iff (map : KeyMap β) (key : Bytes) (value : β) :
    map.find? key = some value ↔ (key, value) ∈ map.entries :=
  ⟨mem_of_findEntry, findEntry_of_mem map.ascend⟩

/-- Two ascending entry lists with the same members are equal. -/
theorem entries_eq_of_mem_iff {left right : List (Bytes × β)} (leftAscend : KeysAscend left)
    (rightAscend : KeysAscend right) (same : ∀ entry, entry ∈ left ↔ entry ∈ right) :
    left = right := by
  induction left generalizing right with
  | nil =>
    cases right with
    | nil => rfl
    | cons head rest => exact absurd ((same head).mpr List.mem_cons_self) (by simp)
  | cons head rest ih =>
    cases right with
    | nil => exact absurd ((same head).mp List.mem_cons_self) (by simp)
    | cons other others =>
      obtain ⟨above, tail⟩ := List.pairwise_cons.mp leftAscend
      obtain ⟨otherAbove, otherTail⟩ := List.pairwise_cons.mp rightAscend
      have heads : head = other := by
        rcases List.mem_cons.mp ((same head).mp List.mem_cons_self) with equal | later
        · exact equal
        · rcases List.mem_cons.mp ((same other).mpr List.mem_cons_self) with equal | laterOther
          · exact equal.symm
          · exact absurd (Bytes.lt_trans (above other laterOther) (otherAbove head later))
              (Bytes.lt_irrefl _)
      subst heads
      congr 1
      refine ih tail otherTail fun entry => ⟨fun member => ?_, fun member => ?_⟩
      · rcases List.mem_cons.mp ((same entry).mp (List.mem_cons_of_mem _ member)) with equal | later
        · exact absurd (equal ▸ above entry member) (Bytes.lt_irrefl _)
        · exact later
      · rcases List.mem_cons.mp ((same entry).mpr (List.mem_cons_of_mem _ member)) with
          equal | later
        · exact absurd (equal ▸ otherAbove entry member) (Bytes.lt_irrefl _)
        · exact later

/-- Maps that answer every look-up alike are equal. -/
theorem ext_find? {left right : KeyMap β} (same : ∀ key, left.find? key = right.find? key) :
    left = right := by
  have entries : left.entries = right.entries :=
    entries_eq_of_mem_iff left.ascend right.ascend fun (key, value) => by
      rw [← find?_eq_some_iff, ← find?_eq_some_iff, same]
  cases left
  cases right
  simpa using entries

end KeyMap

end TokenLedger
