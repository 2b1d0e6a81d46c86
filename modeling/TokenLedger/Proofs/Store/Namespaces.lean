import TokenLedger.Proofs.Store.Logs
import TokenLedger.Upgrade

/-!
# Namespaces are maps of their own

A write through a namespace is a write on the view, under the bytes of the namespace. Where neither
of two namespaces starts with the other no key belongs to both, so what is written through one
cannot be seen through the other. Through its own namespace the view is one more flat map, whatever
layers it has.
-/

namespace TokenLedger

/-- Neither of two byte strings starts with the other. -/
def Bytes.Apart (left right : Bytes) : Prop := ¬ left <+: right ∧ ¬ right <+: left

instance (left right : Bytes) : Decidable (left.Apart right) :=
  inferInstanceAs (Decidable (_ ∧ _))

/-- No byte string starts with two of which neither starts with the other. -/
theorem Bytes.Apart.append_ne {left right : Bytes} (apart : left.Apart right)
    (front back : Bytes) : left ++ front ≠ right ++ back := by
  intro same
  have starts : left <+: right ++ back := same ▸ List.prefix_append left front
  rcases List.prefix_or_prefix_of_prefix starts (List.prefix_append right back) with inside | inside
  · exact apart.1 inside
  · exact apart.2 inside

/-- The bytes of different stores are apart. -/
theorem StoreName.apart_keyStart {left right : StoreName} (differ : left ≠ right) :
    left.keyStart.Apart right.keyStart := by
  cases left <;> cases right <;> first | exact absurd rfl differ | decide

namespace View

/-- Carries one write out on a namespace. -/
def writeIn (view : View) (space : Bytes) (write : Write) : View :=
  match write.2 with
  | some value => view.setIn space write.1 value
  | none => view.deleteIn space write.1

/-- A view after the writes of a log on a namespace. -/
def writeAllIn (view : View) (space : Bytes) (log : List Write) : View :=
  log.foldl (fun view write => view.writeIn space write) view

/-- A key is looked up after one write. -/
theorem get_write (view : View) (write : Write) (key : Bytes) :
    (view.write write).get key = if write.1 = key then write.2 else view.get key := by
  rw [get_eq_find?_flatten, flatten_write, Store.find?_applyWrite, ← get_eq_find?_flatten]

variable (view : View) (space : Bytes)

/-- A write on a namespace is one on the view, under the bytes of the namespace. -/
theorem writeIn_eq_write (write : Write) :
    view.writeIn space write = view.write (space ++ write.1, write.2) := by
  obtain ⟨key, change⟩ := write
  cases change <;> rfl

/-- Through its own namespace a write is one on a flat map. -/
theorem getIn_writeIn (write : Write) :
    (view.writeIn space write).getIn space = Contents.write (view.getIn space) write := by
  funext key
  rw [Contents.write_apply, writeIn_eq_write, getIn, get_write]
  simp only [List.append_cancel_left_eq]
  rfl

/-- Through a namespace that is apart a write cannot be seen. -/
theorem getIn_writeIn_of_apart {other : Bytes} (apart : space.Apart other) (write : Write) :
    (view.writeIn space write).getIn other = view.getIn other := by
  funext key
  have elsewhere : space ++ write.1 ≠ other ++ key := apart.append_ne write.1 key
  rw [writeIn_eq_write, getIn, get_write, if_neg elsewhere]
  rfl

/-- Through its own namespace a log is one on a flat map. -/
theorem getIn_writeAllIn (log : List Write) :
    (view.writeAllIn space log).getIn space = Contents.writeAll (view.getIn space) log := by
  induction log generalizing view with
  | nil => rfl
  | cons write log ih =>
    change ((view.writeIn space write).writeAllIn space log).getIn space = _
    rw [ih, getIn_writeIn]
    rfl

/-- Through a namespace that is apart a log cannot be seen. -/
theorem getIn_writeAllIn_of_apart {other : Bytes} (apart : space.Apart other)
    (log : List Write) : (view.writeAllIn space log).getIn other = view.getIn other := by
  induction log generalizing view with
  | nil => rfl
  | cons write log ih =>
    change ((view.writeIn space write).writeAllIn space log).getIn other = _
    rw [ih, getIn_writeIn_of_apart view space apart]

/-- Writes through one namespace make it a flat map of its own with these writes, and through any
namespace that is apart from it everything is looked up, asked for and listed as before. The
namespaces of different stores are apart. -/
theorem independent_namespaces (log : List Write) :
    (view.writeAllIn space log).AnswersIn space (Contents.writeAll (view.getIn space) log) ∧
      (∀ other, space.Apart other →
        (∀ key, (view.writeAllIn space log).getIn other key = view.getIn other key ∧
          (view.writeAllIn space log).hasIn other key = view.hasIn other key) ∧
        ∀ start, (view.writeAllIn space log).scanIn other start = view.scanIn other start) ∧
      ∀ left right : StoreName, left ≠ right → left.keyStart.Apart right.keyStart := by
  refine ⟨?_, fun other apart => ?_, fun left right => StoreName.apart_keyStart⟩
  · rw [← getIn_writeAllIn]
    exact answersIn (view.writeAllIn space log) space
  · have unchanged := getIn_writeAllIn_of_apart view space apart log
    have before : view.AnswersIn other (view.getIn other) := answersIn view other
    have after : (view.writeAllIn space log).AnswersIn other (view.getIn other) := by
      rw [← unchanged]
      exact answersIn (view.writeAllIn space log) other
    refine ⟨fun key => ⟨congrFun unchanged key, ?_⟩, after.scan_eq before⟩
    rw [after.has_eq, before.has_eq]

/-- A key of one store is deleted again in a layer; the other store still lists its own. -/
theorem independent_namespaces_sample :
    let view := ((View.base ∅).setIn StoreName.supply.keyStart [0] [1]).branch
    let space := StoreName.asset.keyStart
    space.Apart StoreName.supply.keyStart ∧
      (view.writeAllIn space [([0], some [2]), ([], some [3]), ([0], none)]).scanIn
        StoreName.supply.keyStart [] = [([0], [1])] := by
  have frame := independent_namespaces
    ((View.base ∅).setIn StoreName.supply.keyStart [0] [1]).branch StoreName.asset.keyStart
    [([0], some [2]), ([], some [3]), ([0], none)]
  have apart : StoreName.asset.keyStart.Apart StoreName.supply.keyStart :=
    frame.2.2 .asset .supply (by decide)
  have listed : ((View.base ∅).setIn StoreName.supply.keyStart [0] [1]).branch.scanIn
      StoreName.supply.keyStart [] = [([0], [1])] := by
    decide +kernel
  exact ⟨apart, ((frame.2.1 _ apart).2 []).trans listed⟩

end View

end TokenLedger
