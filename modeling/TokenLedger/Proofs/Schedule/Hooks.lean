import TokenLedger.Registry

/-!
# Hooks by height

The hooks of a phase stand in groups by ascending height. A hook that is added comes last at its own
height, and the hooks of all other heights stay as they are.
-/

namespace TokenLedger.HookSchedule

variable {κ : Type}

/-- Groups of which each has a greater height than those before it. -/
def Ascends (groups : List (Height × List κ)) : Prop :=
  groups.Pairwise fun left right => left.1 < right.1

/-- The schedule without hooks has none at any height. -/
theorem hooksAt_empty (height : Height) : (empty : HookSchedule κ).hooksAt height = [] := rfl

/-- The hooks of a height are those of the first group, if the height is its own. -/
theorem hooksAt_cons (group : Height × List κ) (rest : List (Height × List κ)) (height : Height) :
    (⟨group :: rest⟩ : HookSchedule κ).hooksAt height =
      if group.1 = height then group.2 else (⟨rest⟩ : HookSchedule κ).hooksAt height := by
  simp only [hooksAt, List.find?_cons]
  by_cases same : group.1 = height <;> simp [same]

/-- Below all groups there are no hooks. -/
theorem hooksAt_eq_nil {groups : List (Height × List κ)} {height : Height}
    (below : ∀ group ∈ groups, height < group.1) :
    (⟨groups⟩ : HookSchedule κ).hooksAt height = [] := by
  induction groups with
  | nil => rfl
  | cons group rest ih =>
    have differs : group.1 ≠ height := fun same =>
      UInt64.lt_irrefl height (by simpa [same] using below group List.mem_cons_self)
    rw [hooksAt_cons, if_neg differs]
    exact ih fun later member => below later (List.mem_cons_of_mem _ member)

/-- The groups after an addition are old ones and that of the hook. -/
theorem height_of_mem_pushGroup {height : Height} {hook : κ} {groups : List (Height × List κ)}
    {group : Height × List κ} (member : group ∈ pushGroup height hook groups) :
    group.1 = height ∨ ∃ old ∈ groups, old.1 = group.1 := by
  induction groups with
  | nil =>
    rw [pushGroup, List.mem_singleton] at member
    exact .inl (congrArg Prod.fst member)
  | cons head rest ih =>
    unfold pushGroup at member
    split at member
    · rcases List.mem_cons.mp member with rfl | old
      · exact .inl rfl
      · exact .inr ⟨group, old, rfl⟩
    split at member
    · rcases List.mem_cons.mp member with rfl | later
      · exact .inr ⟨head, List.mem_cons_self, rfl⟩
      · exact .inr ⟨group, List.mem_cons_of_mem _ later, rfl⟩
    · rcases List.mem_cons.mp member with rfl | later
      · exact .inr ⟨group, List.mem_cons_self, rfl⟩
      · rcases ih later with same | ⟨old, inside, same⟩
        · exact .inl same
        · exact .inr ⟨old, List.mem_cons_of_mem _ inside, same⟩

/-- An addition keeps the heights ascending. -/
theorem ascends_pushGroup {height : Height} {hook : κ} {groups : List (Height × List κ)}
    (ascends : Ascends groups) : Ascends (pushGroup height hook groups) := by
  induction groups with
  | nil => exact List.pairwise_singleton _ _
  | cons head rest ih =>
    obtain ⟨above, tail⟩ := List.pairwise_cons.mp ascends
    unfold pushGroup
    split
    · next before =>
      refine List.pairwise_cons.mpr ⟨fun group member => ?_, ascends⟩
      rcases List.mem_cons.mp member with rfl | later
      · exact before
      · exact UInt64.lt_trans before (above group later)
    split
    · exact List.pairwise_cons.mpr ⟨above, tail⟩
    · next notBefore differs =>
      refine List.pairwise_cons.mpr ⟨fun group member => ?_, ih tail⟩
      rcases height_of_mem_pushGroup member with same | ⟨old, inside, same⟩
      · rw [same]
        exact UInt64.lt_of_le_of_ne (UInt64.not_lt.mp notBefore) (Ne.symm differs)
      · rw [← same]
        exact above old inside

/-- A hook that is added comes last at its own height and changes no other height. -/
theorem hooksAt_pushGroup {height : Height} {hook : κ} {groups : List (Height × List κ)}
    (ascends : Ascends groups) (other : Height) :
    (⟨pushGroup height hook groups⟩ : HookSchedule κ).hooksAt other =
      if height = other then (⟨groups⟩ : HookSchedule κ).hooksAt height ++ [hook]
      else (⟨groups⟩ : HookSchedule κ).hooksAt other := by
  induction groups with
  | nil => rw [pushGroup, hooksAt_cons]; rfl
  | cons head rest ih =>
    obtain ⟨above, tail⟩ := List.pairwise_cons.mp ascends
    unfold pushGroup
    split
    · next before =>
      have none : (⟨head :: rest⟩ : HookSchedule κ).hooksAt height = [] := by
        refine hooksAt_eq_nil fun group member => ?_
        rcases List.mem_cons.mp member with rfl | later
        · exact before
        · exact UInt64.lt_trans before (above group later)
      rw [hooksAt_cons, none]
      rfl
    split
    · next same =>
      subst same
      rw [hooksAt_cons, hooksAt_cons, hooksAt_cons, if_pos rfl]
      split <;> rfl
    · next differs =>
      rw [hooksAt_cons, hooksAt_cons, hooksAt_cons, ih tail, if_neg (Ne.symm differs)]
      by_cases here : head.1 = other
      · have apart : ¬ height = other := fun same => differs (same.trans here.symm)
        rw [if_pos here, if_neg apart, if_pos here]
      · rw [if_neg here, if_neg here]

/-- The hooks of all heights are those of the first group and those of the others. -/
theorem count_cons (group : Height × List κ) (rest : List (Height × List κ)) :
    (⟨group :: rest⟩ : HookSchedule κ).count =
      group.2.length + (⟨rest⟩ : HookSchedule κ).count := rfl

/-- A hook that is added counts once, over all heights. -/
theorem count_push (schedule : HookSchedule κ) (height : Height) (hook : κ) :
    (schedule.push height hook).count = schedule.count + 1 := by
  obtain ⟨groups⟩ := schedule
  change (⟨pushGroup height hook groups⟩ : HookSchedule κ).count = _
  induction groups with
  | nil => rfl
  | cons head rest ih =>
    unfold pushGroup
    split
    · rw [count_cons, List.length_singleton, Nat.add_comm]
    split
    · rw [count_cons, count_cons, List.length_append, List.length_singleton]
      omega
    · rw [count_cons, count_cons, ih]
      omega

/-- A schedule whose groups ascend. -/
def Ordered (schedule : HookSchedule κ) : Prop := Ascends schedule.groups

/-- The schedule without hooks is ordered. -/
theorem ordered_empty : (empty : HookSchedule κ).Ordered := List.Pairwise.nil

/-- An addition keeps a schedule ordered. -/
theorem Ordered.push {schedule : HookSchedule κ} (ordered : schedule.Ordered) (height : Height)
    (hook : κ) : (schedule.push height hook).Ordered :=
  ascends_pushGroup ordered

/-- The hooks after an addition. -/
theorem Ordered.hooksAt_push {schedule : HookSchedule κ} (ordered : schedule.Ordered)
    (height : Height) (hook : κ) (other : Height) :
    (schedule.push height hook).hooksAt other =
      if height = other then schedule.hooksAt height ++ [hook] else schedule.hooksAt other :=
  hooksAt_pushGroup ordered other

end TokenLedger.HookSchedule
