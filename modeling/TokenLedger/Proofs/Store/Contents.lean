import Mathlib.Data.Set.List
import TokenLedger.Store.Namespace

/-!
# What a map holds and how it is read

The contents of a map give each key its value. A reader of the map answers as its contents say: a
look-up gives the value, and a scan lists the entries whose keys start with given bytes, each once
and in ascending order. These answers determine each other, and a view or a namespace of one is
read as the contents say that its flat store has.
-/

namespace TokenLedger

/-- What a map holds: the value of each key that has one. -/
abbrev Contents := Bytes → Option Bytes

/-- A look-up, a test and a scan that answer as a map of some contents does. -/
structure Contents.Answers (contents : Contents) (get : Bytes → Option Bytes) (has : Bytes → Bool)
    (scan : Bytes → List (Bytes × Bytes)) : Prop where
  /-- A key is looked up. -/
  get_eq : ∀ key, get key = contents key
  /-- A key is asked for. -/
  has_eq : ∀ key, has key = (contents key).isSome
  /-- What is listed ascends, so nothing is listed twice. -/
  ascend : ∀ start, KeysAscend (scan start)
  /-- The entries whose keys start with the given bytes are listed. -/
  mem_scan_iff : ∀ start key value,
    (key, value) ∈ scan start ↔ start <+: key ∧ contents key = some value

/-- Readers of the same contents give the same lists. -/
theorem Contents.Answers.scan_eq {contents : Contents} {get get' : Bytes → Option Bytes}
    {has has' : Bytes → Bool} {scan scan' : Bytes → List (Bytes × Bytes)}
    (first : contents.Answers get has scan) (second : contents.Answers get' has' scan')
    (start : Bytes) : scan start = scan' start := by
  refine KeyMap.entries_eq_of_mem_iff (first.ascend start) (second.ascend start) ?_
  rintro ⟨key, value⟩
  rw [first.mem_scan_iff, second.mem_scan_iff]

/-- The entries whose keys start with given bytes are listed by ascending key: those of the items of
a family that has one item for each. -/
theorem Contents.Answers.exists_listing {ι : Type} {contents : Contents}
    {get : Bytes → Option Bytes} {has : Bytes → Bool} {scan : Bytes → List (Bytes × Bytes)}
    (answers : contents.Answers get has scan) (start : Bytes) (listed : ι → Prop)
    (key value : ι → Bytes)
    (inside : ∀ item, listed item →
      start <+: key item ∧ contents (key item) = some (value item))
    (family : ∀ other, start <+: other → contents other ≠ none →
      ∃ item, listed item ∧ key item = other)
    (distinct : ∀ left right, listed left → listed right → key left = key right → left = right) :
    ∃ items : List ι, scan start = items.map (fun item => (key item, value item)) ∧
      (items.Pairwise fun left right => key left < key right) ∧
      ∀ item, item ∈ items ↔ listed item := by
  -- Other items may have the same keys and values, so the list is one of items of the family.
  let entryOf (item : { item : ι // listed item }) : Bytes × Bytes := (key item, value item)
  have each : ∀ entry ∈ scan start, entry ∈ Set.range entryOf := by
    rintro ⟨other, record⟩ member
    obtain ⟨starts, found⟩ := (answers.mem_scan_iff start other record).mp member
    have present : contents other ≠ none := by
      rw [found]
      exact Option.some_ne_none record
    obtain ⟨item, here, rfl⟩ := family other starts present
    rw [(inside item here).2] at found
    exact ⟨⟨item, here⟩, congrArg (Prod.mk (key item)) (Option.some.inj found)⟩
  obtain ⟨items, same⟩ := (Set.ext_iff.mp (Set.range_list_map entryOf) (scan start)).mpr each
  refine ⟨items.map Subtype.val, ?_, ?_, fun item => ?_⟩
  · rw [← same, List.map_map]
    rfl
  · have ascend := answers.ascend start
    rw [← same, KeysAscend, List.pairwise_map] at ascend
    rwa [List.pairwise_map]
  · constructor
    · intro member
      obtain ⟨⟨_, here⟩, _, rfl⟩ := List.mem_map.mp member
      exact here
    · intro here
      have member : entryOf ⟨item, here⟩ ∈ scan start :=
        (answers.mem_scan_iff _ _ _).mpr (inside item here)
      rw [← same] at member
      obtain ⟨⟨other, listed⟩, member, equal⟩ := List.mem_map.mp member
      have one : other = item := distinct other item listed here (congrArg Prod.fst equal)
      rw [← one]
      exact List.mem_map_of_mem (f := Subtype.val) member

/-! ## Scans of a map -/

namespace KeyMap

variable {β : Type}

/-- What is listed below some bytes are the entries whose keys start with them. -/
theorem mem_below_iff (map : KeyMap β) (start key : Bytes) (value : β) :
    (key, value) ∈ (map.below start).entries ↔ start <+: key ∧ map.find? key = some value := by
  rw [← find?_eq_some_iff, find?_below, ← List.isPrefixOf_iff_prefix]
  by_cases inside : start.isPrefixOf key = true
  · simp only [inside, if_true, true_and]
  · simp only [inside, Bool.false_eq_true, if_false, false_and, reduceCtorEq]

/-- From the first key that is not below some bytes on, those that start with them come first. -/
theorem filter_eq_takeWhile {start : Bytes} {entries : List (Bytes × β)}
    (ascend : KeysAscend entries) (notBelow : ∀ entry ∈ entries, ¬ entry.1 < start) :
    entries.filter (fun entry => start.isPrefixOf entry.1) =
      entries.takeWhile fun entry => start.isPrefixOf entry.1 := by
  induction entries with
  | nil => rfl
  | cons head rest ih =>
    obtain ⟨above, tail⟩ := List.pairwise_cons.mp ascend
    by_cases starts : start.isPrefixOf head.1 = true
    · have inner := ih tail fun entry member => notBelow entry (List.mem_cons_of_mem _ member)
      simp only [List.filter_cons, List.takeWhile_cons, starts, if_true, inner]
    · -- A later key that starts with these bytes would make this one start with them.
      simp only [List.filter_cons, List.takeWhile_cons, starts, if_false, Bool.false_eq_true]
      refine List.filter_eq_nil_iff.mpr fun entry member later => ?_
      have between := Bytes.prefix_of_between (notBelow head List.mem_cons_self)
        (above entry member) (List.isPrefixOf_iff_prefix.mp later)
      exact starts (List.isPrefixOf_iff_prefix.mpr between)

/-- Keys that start with some bytes stand side by side: a scan may begin at the first key that is
not below these bytes and end at the first one that does not start with them. -/
theorem entries_below (map : KeyMap β) (start : Bytes) :
    (map.below start).entries =
      (map.entries.dropWhile fun entry => decide (entry.1 < start)).takeWhile
        fun entry => start.isPrefixOf entry.1 := by
  change map.entries.filter (fun entry => start.isPrefixOf entry.1) = _
  have walk : ∀ entries : List (Bytes × β), KeysAscend entries →
      entries.filter (fun entry => start.isPrefixOf entry.1) =
        (entries.dropWhile fun entry => decide (entry.1 < start)).takeWhile
          fun entry => start.isPrefixOf entry.1 := by
    intro entries ascend
    induction entries with
    | nil => rfl
    | cons head rest ih =>
      obtain ⟨above, tail⟩ := List.pairwise_cons.mp ascend
      by_cases below : head.1 < start
      · have outside : ¬ start.isPrefixOf head.1 = true := fun starts =>
          Bytes.not_lt_of_prefix (List.isPrefixOf_iff_prefix.mp starts) below
        simp only [List.filter_cons, outside, if_false, Bool.false_eq_true, ih tail,
          List.dropWhile_cons, decide_eq_true below, if_true]
      · rw [List.dropWhile_cons_of_neg (by simpa using below)]
        refine filter_eq_takeWhile ascend fun entry member => ?_
        rcases List.mem_cons.mp member with same | later
        · exact same ▸ below
        · exact fun under => below (Bytes.lt_trans (above entry later) under)
  exact walk map.entries map.ascend

end KeyMap

/-! ## Views and namespaces -/

namespace View

/-- A view that is read like a map of some contents. -/
abbrev Answers (view : View) (contents : Contents) : Prop :=
  contents.Answers view.get view.has fun start => (view.scan start).entries

/-- A view of which a namespace is read like a map of some contents. -/
abbrev AnswersIn (view : View) (space : Bytes) (contents : Contents) : Prop :=
  contents.Answers (view.getIn space) (view.hasIn space) (view.scanIn space)

/-- A view is read like the store that it amounts to. -/
theorem answers (view : View) : view.Answers view.flatten.find? where
  get_eq := view.get_eq_find?_flatten
  has_eq key := congrArg Option.isSome (view.get_eq_find?_flatten key)
  ascend start := (view.scan start).ascend
  mem_scan_iff start key value := by
    rw [scan_eq_below_flatten, KeyMap.mem_below_iff]

/-- An entry of a namespace is one of the view, under the bytes of the namespace and its key. -/
theorem mem_scanIn_iff (view : View) (space start key value : Bytes) :
    (key, value) ∈ view.scanIn space start ↔
      (space ++ key, value) ∈ (view.scan (space ++ start)).entries := by
  rw [scanIn, List.mem_map]
  constructor
  · rintro ⟨⟨full, held⟩, member, same⟩
    obtain ⟨⟨rest, rfl⟩, _⟩ := (view.answers.mem_scan_iff _ _ _).mp member
    rw [List.append_assoc, List.drop_left] at same
    obtain ⟨rfl, rfl⟩ := Prod.mk.inj same
    rwa [List.append_assoc] at member
  · intro member
    exact ⟨(space ++ key, value), member, by rw [List.drop_left]⟩

/-- What is listed in a namespace ascends without the bytes of the namespace as with them. -/
theorem keysAscend_scanIn (view : View) (space start : Bytes) :
    KeysAscend (view.scanIn space start) := by
  rw [KeysAscend, scanIn, List.pairwise_map]
  refine (view.scan (space ++ start)).ascend.imp_of_mem ?_
  rintro ⟨left, leftValue⟩ ⟨right, rightValue⟩ leftMember rightMember before
  obtain ⟨⟨front, rfl⟩, _⟩ := (view.answers.mem_scan_iff _ _ _).mp leftMember
  obtain ⟨⟨back, rfl⟩, _⟩ := (view.answers.mem_scan_iff _ _ _).mp rightMember
  simp only [List.append_assoc, List.drop_left] at before ⊢
  exact (Bytes.append_lt_append_iff space _ _).mp before

/-- A namespace is read like a map that holds what stands under its bytes. -/
theorem answersIn (view : View) (space : Bytes) :
    view.AnswersIn space fun key => view.get (space ++ key) where
  get_eq _ := rfl
  has_eq _ := rfl
  ascend := view.keysAscend_scanIn space
  mem_scan_iff start key value := by
    rw [mem_scanIn_iff, view.answers.mem_scan_iff, List.prefix_append_right_inj,
      ← get_eq_find?_flatten]

end View

end TokenLedger
