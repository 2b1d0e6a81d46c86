import TokenLedger.Proofs.Ledger.Runs
import TokenLedger.Proofs.Store.Namespaces

/-!
# Where subspaces overlap

A parameter is stored under the name of its subspace, a slash and its key. Setting it changes what
is read of no other parameter of its subspace. It changes what is read of a parameter of another
subspace exactly if both stand under one key, which needs a slash in a name: the name of one
subspace is that of the other, a slash and what the key of the other one goes on with.
-/

namespace TokenLedger.Subspace

/-! ## Keys -/

/-- Where two texts that are cut at a slash are one text, they are cut at one place, or the cut of
one of them lies behind that of the other. -/
theorem exists_middle_of_append {left right front back : List Char} (differ : left ≠ right)
    (same : left ++ '/' :: front = right ++ '/' :: back) :
    (∃ middle, right = left ++ '/' :: middle ∧ front = middle ++ '/' :: back) ∨
      ∃ middle, left = right ++ '/' :: middle ∧ back = middle ++ '/' :: front := by
  -- What one of the two has in front of its cut beyond the other starts with the other's slash.
  have beyond {short long inner outer : List Char} (apart : short ≠ long) {rest : List Char}
      (longer : long = short ++ rest) (split : '/' :: inner = rest ++ '/' :: outer) :
      ∃ middle, long = short ++ '/' :: middle ∧ inner = middle ++ '/' :: outer := by
    cases rest with
    | nil => exact absurd (longer.trans (List.append_nil short)).symm apart
    | cons head middle =>
      rw [List.cons_append] at split
      obtain ⟨slash, tail⟩ := List.cons.inj split
      rw [← slash] at longer
      exact ⟨middle, longer, tail⟩
  rcases List.append_eq_append_iff.mp same with ⟨rest, longer, split⟩ | ⟨rest, longer, split⟩
  · exact .inl (beyond differ longer split)
  · exact .inr (beyond differ.symm longer split)

/-- A parameter of an inner subspace stands where one of an outer subspace does: the name of the
inner one goes on behind that of the outer one and a slash, and the key of the outer parameter
starts with what it goes on with. -/
def Nests (outer : Subspace) (outerKey : String) (inner : Subspace) (innerKey : String) : Prop :=
  ∃ middle, inner.name = outer.name ++ "/" ++ middle ∧ outerKey = middle ++ "/" ++ innerKey

variable {space other : Subspace} {key otherKey : String}

/-- Where subspaces are nested two parameters stand under one key. -/
theorem Nests.keyBytes_eq (nests : Nests space key other otherKey) :
    space.keyBytes key = other.keyBytes otherKey := by
  obtain ⟨middle, name, rfl⟩ := nests
  rw [keyBytes, keyBytes, name]
  simp only [String.append_assoc]

/-- Parameters of subspaces with different names stand under one key exactly if one of the subspaces
is nested in the other. -/
theorem keyBytes_eq_iff (differ : space.name ≠ other.name) :
    space.keyBytes key = other.keyBytes otherKey ↔
      Nests space key other otherKey ∨ Nests other otherKey space key := by
  constructor
  · intro same
    have texts : space.name ++ "/" ++ key = other.name ++ "/" ++ otherKey :=
      Bytes.utf8_injective same
    have letters : space.name.toList ++ '/' :: key.toList =
        other.name.toList ++ '/' :: otherKey.toList := by
      simpa using congrArg String.toList texts
    have names : space.name.toList ≠ other.name.toList := fun equal =>
      differ (String.toList_inj.mp equal)
    have cut {text : String} {front back : List Char} (split : text.toList = front ++ '/' :: back) :
        text = String.ofList front ++ "/" ++ String.ofList back := by
      rw [← String.toList_inj, split]
      simp
    rcases exists_middle_of_append names letters with ⟨middle, name, tail⟩ | ⟨middle, name, tail⟩
    · exact .inl ⟨String.ofList middle, by simpa using cut name, by simpa using cut tail⟩
    · exact .inr ⟨String.ofList middle, by simpa using cut name, by simpa using cut tail⟩
  · rintro (nests | nests)
    · exact nests.keyBytes_eq
    · exact nests.keyBytes_eq.symm

/-- A subspace with no slash in its name is nested in no other. -/
theorem not_nests_of_plain (plain : '/' ∉ other.name.toList) :
    ¬ Nests space key other otherKey := by
  rintro ⟨middle, name, _⟩
  apply plain
  rw [name]
  simp

/-- Parameters of one subspace stand under keys of their own. -/
theorem keyBytes_ne (differ : otherKey ≠ key) : space.keyBytes key ≠ space.keyBytes otherKey := by
  intro same
  have texts : space.name ++ "/" ++ key = space.name ++ "/" ++ otherKey :=
    Bytes.utf8_injective same
  exact differ ((String.append_right_inj _).mp texts).symm

/-! ## What is read and written -/

variable {ε α : Type} [JsonForm α] (context : Context)

/-- What is stored of a parameter. -/
def stored? (space : Subspace) (key : String) (view : View) : Option Bytes :=
  view.getIn StoreName.params.keyStart (space.keyBytes key)

/-- A key that the subspace accepts may be used. -/
theorem perform_requireKey (known : space.keys.contains key = true) :
    (space.requireKey key : Action ε Unit).perform context = (.ok (), context) := by
  rw [requireKey, if_pos known]
  rfl

/-- A parameter is set if something is stored of it. -/
theorem perform_has (known : space.keys.contains key = true) :
    (space.has key : Action ε Bool).perform context =
      (.ok (space.stored? key context.view).isSome, context) := by
  rw [has, Action.perform_bind_ok (perform_requireKey context known)]
  rfl

/-- What stored bytes, or none, give where they are read as a value of a type. -/
def readStored (space : Subspace) (key : String) : Option Bytes → Except (Stop ε) (Option α)
  | none => .ok none
  | some stored =>
    match JsonForm.readBytes? stored with
    | some value => .ok (some value)
    | none => .error (.faulted (.malformedParameter key space.name))

/-- What is read of a parameter depends on what is stored of it. -/
theorem perform_get? (known : space.keys.contains key = true) :
    (space.get? key : Action ε (Option α)).perform context =
      (space.readStored key (space.stored? key context.view), context) := by
  have read := Action.perform_getKey (ε := ε) .params (space.keyBytes key) context
  rw [get?, Action.perform_bind_ok (perform_requireKey context known), Action.perform_bind_ok read,
    ← stored?]
  cases space.stored? key context.view with
  | none => rfl
  | some stored =>
    simp only [readStored]
    cases (JsonForm.readBytes? stored : Option α) <;> rfl

/-- A parameter is read that is set and reads as its type. -/
theorem perform_get (known : space.keys.contains key = true) {value : α}
    (read : (space.readStored key (space.stored? key context.view) :
      Except (Stop ε) (Option α)) = .ok (some value)) :
    (space.get key : Action ε α).perform context = (.ok value, context) := by
  have found := perform_get? (ε := ε) (α := α) context known
  rw [read] at found
  rw [get, Action.perform_bind_ok found]
  rfl

/-- Setting a parameter writes it under its key. -/
theorem perform_set (known : space.keys.contains key = true) (value : α) :
    (space.set key value : Action ε Unit).perform context = (.ok (), { context with
      view := context.view.setIn StoreName.params.keyStart (space.keyBytes key)
        (JsonForm.writeBytes value) }) := by
  rw [set, Action.perform_bind_ok (perform_requireKey context known)]
  rfl

/-- The context after a parameter is set. -/
def afterSet (space : Subspace) (key : String) (value : α) (context : Context) : Context :=
  ((space.set key value : Action Empty Unit).perform context).2

/-- After a parameter is set what was written is stored of those under its key, and of all others
what was stored before. -/
theorem stored?_afterSet (known : space.keys.contains key = true) (value : α) (other : Subspace)
    (otherKey : String) :
    other.stored? otherKey (space.afterSet key value context).view =
      if space.keyBytes key = other.keyBytes otherKey then some (JsonForm.writeBytes value)
      else other.stored? otherKey context.view := by
  let write : Write := (space.keyBytes key, some (JsonForm.writeBytes value))
  have left : (space.afterSet key value context).view =
      context.view.writeIn StoreName.params.keyStart write := by
    rw [afterSet, perform_set context known]
    rfl
  rw [stored?, left, View.getIn_writeIn, Contents.write_apply]
  rfl

/-- What is read of a parameter is the same in two contexts: whether it is set, and its value as
whatever type. -/
structure ReadsAlike (space : Subspace) (key : String) (before after : Context) : Prop where
  /-- It is set in both or in neither. -/
  has : ∀ ε : Type, ((space.has key : Action ε Bool).perform after).1 =
    ((space.has key : Action ε Bool).perform before).1
  /-- It reads as the same value, or is malformed in both. -/
  get? : ∀ (ε α : Type) [JsonForm α], ((space.get? key : Action ε (Option α)).perform after).1 =
    ((space.get? key : Action ε (Option α)).perform before).1

/-- What is read of a parameter is the same where the same is stored of it. -/
theorem readsAlike_of_stored? {before after : Context} (known : space.keys.contains key = true)
    (same : space.stored? key after.view = space.stored? key before.view) :
    space.ReadsAlike key before after where
  has ε := by rw [perform_has after known, perform_has before known, same]
  get? ε α _ := by rw [perform_get? after known, perform_get? before known, same]

/-- Setting a parameter does not change what is read of one that stands under another key. -/
theorem readsAlike_afterSet (known : space.keys.contains key = true)
    (otherKnown : other.keys.contains otherKey = true) (value : α)
    (apart : space.keyBytes key ≠ other.keyBytes otherKey) :
    other.ReadsAlike otherKey context (space.afterSet key value context) :=
  readsAlike_of_stored? otherKnown (by rw [stored?_afterSet context known, if_neg apart])

/-- Setting a parameter sets every parameter that stands under its key, so what is read of that one
changes where it was not set. -/
theorem not_readsAlike_afterSet (known : space.keys.contains key = true)
    (otherKnown : other.keys.contains otherKey = true) (value : α)
    (shared : space.keyBytes key = other.keyBytes otherKey)
    (unset : other.stored? otherKey context.view = none) :
    ¬ other.ReadsAlike otherKey context (space.afterSet key value context) := by
  intro alike
  have same := alike.has Empty
  rw [perform_has _ otherKnown, perform_has _ otherKnown, stored?_afterSet context known,
    if_pos shared, unset] at same
  exact absurd same (by rintro ⟨⟩)

/-- Setting a parameter leaves what is read of the other parameters of its subspace, and is read
back if its value reads back. It leaves what is read of a parameter of a subspace of another name in
every store exactly if neither subspace is nested in the other with the two, which does not happen
to names without a slash. -/
theorem set_overlaps_iff (known : space.keys.contains key = true) (value : α) :
    (∀ before : Context,
        ((space.set key value : Action ε Unit).perform before).1 = .ok () ∧
          (∀ otherKey, space.keys.contains otherKey = true → otherKey ≠ key →
            space.ReadsAlike otherKey before (space.afterSet key value before)) ∧
            (JsonForm.readBytes? (JsonForm.writeBytes value) = some value →
              ((space.get key : Action ε α).perform (space.afterSet key value before)).1 =
                .ok value)) ∧
      ∀ (other : Subspace) (otherKey : String), space.name ≠ other.name →
        other.keys.contains otherKey = true →
          ((∀ before, other.ReadsAlike otherKey before (space.afterSet key value before)) ↔
            ¬ (Nests space key other otherKey ∨ Nests other otherKey space key)) ∧
            ('/' ∉ space.name.toList → '/' ∉ other.name.toList →
              ∀ before, other.ReadsAlike otherKey before (space.afterSet key value before)) := by
  constructor
  · intro before
    refine ⟨?_, fun otherKey otherKnown differ => ?_, fun readsBack => ?_⟩
    · rw [perform_set before known]
    · exact readsAlike_afterSet before known otherKnown value (keyBytes_ne differ)
    · have read : (space.readStored key (space.stored? key (space.afterSet key value before).view) :
          Except (Stop ε) (Option α)) = .ok (some value) := by
        rw [stored?_afterSet before known, if_pos rfl, readStored, readsBack]
      rw [perform_get _ known read]
  · intro other otherKey differ otherKnown
    have separate (apart : ¬ (Nests space key other otherKey ∨ Nests other otherKey space key))
        (before : Context) : other.ReadsAlike otherKey before (space.afterSet key value before) :=
      readsAlike_afterSet before known otherKnown value fun shared =>
        apart ((keyBytes_eq_iff differ).mp shared)
    refine ⟨⟨fun alike nests => ?_, separate⟩, fun plain otherPlain => separate ?_⟩
    · -- In an empty store the other parameter is not set before.
      have shared := (keyBytes_eq_iff differ).mpr nests
      exact not_readsAlike_afterSet ⟨.base ∅, 0, []⟩ known otherKnown value shared rfl
        (alike ⟨.base ∅, 0, []⟩)
    · rintro (nests | nests)
      · exact not_nests_of_plain otherPlain nests
      · exact not_nests_of_plain plain nests

/-- Of two nested subspaces the parameters that stand under one key overlap, and no others. -/
theorem set_overlaps_iff_sample :
    let outer : Subspace := ⟨"a", ["b/c", "d"]⟩
    let inner : Subspace := ⟨"a/b", ["c"]⟩
    outer.keys.contains "b/c" = true ∧ outer.keys.contains "d" = true ∧
      outer.name ≠ inner.name ∧ inner.keys.contains "c" = true ∧
        (¬ ∀ before, inner.ReadsAlike "c" before (outer.afterSet "b/c" true before)) ∧
          (∀ before, inner.ReadsAlike "c" before (outer.afterSet "d" true before)) ∧
            ∀ before, outer.ReadsAlike "d" before (outer.afterSet "b/c" true before) ∧
              ((outer.get "b/c" : Action Empty Bool).perform
                (outer.afterSet "b/c" true before)).1 = .ok true := by
  intro outer inner
  have known : outer.keys.contains "b/c" = true := by decide
  have otherKnown : outer.keys.contains "d" = true := by decide
  have differ : outer.name ≠ inner.name := by decide
  have innerKnown : inner.keys.contains "c" = true := by decide
  obtain ⟨within, across⟩ := set_overlaps_iff (ε := Empty) known true
  obtain ⟨_, acrossOther⟩ := set_overlaps_iff (ε := Empty) otherKnown true
  have overlap : Nests outer "b/c" inner "c" := ⟨"b", by decide, by decide⟩
  have separate : ¬ (Nests outer "d" inner "c" ∨ Nests inner "c" outer "d") := by
    rintro (⟨middle, _, key⟩ | nests)
    · have slash : '/' ∈ "d".toList := by
        rw [key]
        simp
      exact absurd slash (by decide)
    · exact not_nests_of_plain (by decide) nests
  refine ⟨known, otherKnown, differ, innerKnown,
    fun alike => (across inner "c" differ innerKnown).1.mp alike (.inl overlap),
    (acrossOther inner "c" differ innerKnown).1.mpr separate, fun before => ?_⟩
  obtain ⟨_, others, readsBack⟩ := within before
  exact ⟨others "d" otherKnown (by decide), readsBack (by decide +kernel)⟩

/-- A parameter set in one subspace may set one of a subspace of another name. -/
theorem exists_set_in_other :
    let outer : Subspace := ⟨"a", ["b/c"]⟩
    let inner : Subspace := ⟨"a/b", ["c"]⟩
    let before : Context := ⟨.base ∅, 0, []⟩
    outer.name ≠ inner.name ∧ outer.keys.contains "b/c" = true ∧
      inner.keys.contains "c" = true ∧
        ((outer.has "b/c" : Action Empty Bool).perform before).1 = .ok false ∧
          ((outer.has "b/c" : Action Empty Bool).perform (inner.afterSet "c" true before)).1 =
            .ok true := by
  refine ⟨by decide, by decide, by decide, rfl, ?_⟩
  decide +kernel

end TokenLedger.Subspace
