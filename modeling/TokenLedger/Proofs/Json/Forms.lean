import Mathlib.Data.List.Basic
import TokenLedger.Coins
import TokenLedger.Proofs.Json.RoundTrip

/-!
# Records written as documents

What the ledger stores as a document is read back as the value that was written. A form keeps its
value if the document is plain and is read as that value; both texts of the document, as characters
and as bytes, then hold it. The fields of a record are found by their names, in whatever order its
members stand.
-/

namespace TokenLedger

namespace Json

/-! ## Fields of a record -/

/-- A list is read whole if each of its elements is. -/
theorem mapM_eq_some_map {α β : Type} {read : α → Option β} {given : α → β} {listed : List α}
    (each : ∀ element ∈ listed, read element = some (given element)) :
    listed.mapM read = some (listed.map given) := by
  induction listed with
  | nil => rfl
  | cons element others ih =>
    have first := each element List.mem_cons_self
    have rest := ih fun other member => each other (List.mem_cons_of_mem _ member)
    rw [List.mapM_cons, first, rest]
    rfl

/-- The members of a name, among members of distinct names, are the one that has it. -/
theorem filterMap_eq_singleton {members : List (String × Json)}
    (distinct : (members.map Prod.fst).Nodup) {member : String × Json}
    (listed : member ∈ members) :
    (members.filterMap fun other => if other.1 = member.1 then some other.2 else none) =
      [member.2] := by
  induction members with
  | nil => contradiction
  | cons first others ih =>
    rw [List.map_cons, List.nodup_cons] at distinct
    rcases List.mem_cons.mp listed with rfl | listed
    · have absent : ∀ other ∈ others, (if other.1 = member.1 then some other.2 else none) =
          (none : Option Json) := by
        intro other inside
        have apart : other.1 ≠ member.1 := fun same =>
          distinct.1 (List.mem_map.mpr ⟨other, inside, same⟩)
        rw [if_neg apart]
      simp only [List.filterMap_cons, if_true, List.filterMap_eq_nil_iff.mpr absent]
    · have apart : first.1 ≠ member.1 := fun same =>
        distinct.1 (List.mem_map.mpr ⟨member, listed, same.symm⟩)
      simp only [List.filterMap_cons, if_neg apart]
      exact ih distinct.2 listed

/-- A record gives the values of its fields by their names, whatever the order of its members. -/
theorem fields?_record {members listed : List (String × Json)}
    (distinct : (members.map Prod.fst).Nodup) (order : listed.Perm members) :
    fields? (members.map fun member => [member.1]) (.record listed) =
      some (members.map fun member => some member.2) := by
  have known : (listed.map fun member => (some member.1, member.2)).all
      (fun member => member.1.isSome) = true := by
    simp
  have once (member : String × Json) (inside : member ∈ members) :
      memberOnce? [member.1] (listed.map fun member => (some member.1, member.2)) =
        some (some member.2) := by
    have found : membersNamed [member.1] (listed.map fun member => (some member.1, member.2)) =
        listed.filterMap fun other => if other.1 = member.1 then some other.2 else none := by
      simp [membersNamed, List.filterMap_map]
    have single := order.filterMap fun other => if other.1 = member.1 then some other.2 else none
    rw [filterMap_eq_singleton distinct inside, List.perm_singleton] at single
    rw [memberOnce?, found, single]
  rw [record, fields?, if_pos known, List.mapM_map]
  exact mapM_eq_some_map once

end Json

namespace JsonForm

/-! ## Values that are kept -/

/-- The texts of a JSON value, compact and pretty, as characters and as bytes, are read as a value
of a type. -/
structure Spells {α : Type} [JsonForm α] (json : Json) (value : α) : Prop where
  /-- The compact text is. -/
  compact : read? json.compact = some value
  /-- The pretty text is. -/
  pretty : read? json.pretty = some value
  /-- The bytes of the compact text are. -/
  compactBytes : readBytes? (Bytes.utf8 json.compact) = some value
  /-- The bytes of the pretty text are. -/
  prettyBytes : readBytes? (Bytes.utf8 json.pretty) = some value

/-- The texts of a plain value are read as the value itself is. -/
theorem spells_of_plain {α : Type} [JsonForm α] {json : Json} {value : α} (plain : json.Plain)
    (given : ofJson? json = some value) : Spells json value where
  compact := by rw [read?, Json.parse_compact plain, Option.bind_some, given]
  pretty := by rw [read?, Json.parse_pretty plain, Option.bind_some, given]
  compactBytes := by
    rw [readBytes?, Json.parseBytes_utf8, Json.parse_compact plain, Option.bind_some, given]
  prettyBytes := by
    rw [readBytes?, Json.parseBytes_utf8, Json.parse_pretty plain, Option.bind_some, given]

/-- A value whose document is plain and is read as the value. -/
structure Keeps {α : Type} [JsonForm α] (value : α) : Prop where
  /-- The document holds nothing that a reader could see differently. -/
  plain : (toJson value).Plain
  /-- The document is read as the value. -/
  ofJson?_eq : ofJson? (toJson value) = some value

variable {α : Type} [JsonForm α]

/-- The texts written for a value that is kept are read as that value. -/
theorem Keeps.spells {value : α} (keeps : Keeps value) : Spells (toJson value) value :=
  spells_of_plain keeps.plain keeps.ofJson?_eq

/-- The bytes written for a value are read as that value. -/
theorem Keeps.readBytes?_writeBytes {value : α} (keeps : Keeps value) :
    readBytes? (writeBytes value) = some value :=
  keeps.spells.compactBytes

/-- A field that has to be there is read if its value is kept. -/
theorem Keeps.required?_eq {value : α} (keeps : Keeps value) :
    Json.required? (some (toJson value)) = some value :=
  keeps.ofJson?_eq

/-- Texts are kept. -/
theorem keeps_text (value : String) : Keeps value := ⟨.text value, rfl⟩

/-- Flags are kept. -/
theorem keeps_bool (value : Bool) : Keeps value := ⟨.bool value, rfl⟩

/-- Small integers are kept. -/
theorem keeps_int8 (value : Int8) : Keeps value where
  plain := .integer value.toInt
  ofJson?_eq := by
    have low : -128 ≤ value.toInt := value.le_toInt
    have high : value.toInt ≤ 127 := by
      have := value.toInt_lt
      omega
    simp [toJson, ofJson?, Json.integerIn?, low, high]

/-- Integers of a word are kept. -/
theorem keeps_int64 (value : Int64) : Keeps value where
  plain := .integer value.toInt
  ofJson?_eq := by
    have low : -0x8000000000000000 ≤ value.toInt := value.le_toInt
    have high : value.toInt ≤ 0x7FFFFFFFFFFFFFFF := by
      have := value.toInt_lt
      omega
    simp [toJson, ofJson?, Json.integerIn?, low, high]

/-- Words are kept. -/
theorem keeps_word (value : UInt64) : Keeps value where
  plain := .integer value.toNat
  ofJson?_eq := by
    have high : (value.toNat : Int) ≤ 0xFFFFFFFFFFFFFFFF := by
      have := value.toNat_lt
      omega
    simp [toJson, ofJson?, Json.integerIn?, high]

/-- Amounts are kept. -/
theorem keeps_amount (amount : Amount) : Keeps amount where
  plain := .integer amount.toNat
  ofJson?_eq := by
    have fits := amount.fits
    have high : (amount.toNat : Int) ≤ 0xFFFFFFFFFFFFFFFFFFFFFFFFFFFFFFFF := by omega
    simp only [toJson, ofJson?, Json.integerIn?, Int.natCast_nonneg, high, and_self, if_true,
      Option.bind_some, Int.toNat_natCast, Amount.ofNat?, fits, dif_pos]

/-- Coins are kept. -/
theorem keeps_coin (coin : Coin) : Keeps coin where
  plain := .record fun member listed => by
    rcases List.mem_cons.mp listed with rfl | listed
    · exact (keeps_text coin.denom).plain
    · obtain rfl := List.mem_singleton.mp listed
      exact (keeps_amount coin.amount).plain
  ofJson?_eq := by
    have fields : Json.fields? [["denom"], ["amount"]] (toJson coin) =
        some [some (toJson coin.denom), some (toJson coin.amount)] :=
      Json.fields?_record (by simp) (.refl _)
    have denom := (keeps_text coin.denom).required?_eq
    have amount := (keeps_amount coin.amount).required?_eq
    simp only [ofJson?, fields, Option.bind_eq_bind, Option.bind_some] at denom amount ⊢
    simp only [denom, amount, Option.bind_some]

/-- A list is kept if its elements are. -/
theorem keeps_list (values : List α) (each : ∀ value ∈ values, Keeps value) : Keeps values where
  plain := .array fun item listed => by
    obtain ⟨value, member, rfl⟩ := List.mem_map.mp listed
    exact (each value member).plain
  ofJson?_eq := by
    have read : values.mapM (fun value => ofJson? (toJson value)) = some (values.map id) :=
      Json.mapM_eq_some_map fun value member => (each value member).ofJson?_eq
    simp only [toJson, ofJson?, List.mapM_map]
    rw [List.map_id] at read
    exact read

/-- Coin sets are kept, well-formed or not. -/
theorem keeps_coins (coins : Coins) : Keeps coins where
  plain := (keeps_list coins.toList fun coin _ => keeps_coin coin).plain
  ofJson?_eq := by
    have list := (keeps_list coins.toList fun coin _ => keeps_coin coin).ofJson?_eq
    simp only [toJson, ofJson?] at list ⊢
    rw [list, Option.map_some]

end JsonForm

end TokenLedger
