import TokenLedger.Proofs.Chain.Conservation

/-!
# What a commitment commits to

The bytes of which a commitment is the digest can be read in one way only. Keys and values stand
after their lengths, and where the entries of a store end, the name of the next store cannot be
taken for the length of a key: the fifth byte of a length below 2 ^ 32 is zero, and that of a name
is a letter. So the bytes tell which stores are present and which entries each of them has.
-/

namespace TokenLedger

/-- An entry whose key is shorter than 2 ^ 32 bytes and whose value is shorter than 2 ^ 64. -/
def FramedEntry (entry : Bytes × Bytes) : Prop :=
  entry.1.length < 2 ^ 32 ∧ entry.2.length < 2 ^ 64

/-- A store of such entries. -/
def Store.Framed (store : Store) : Prop := ∀ entry ∈ store.entries, FramedEntry entry

namespace Chain

/-! ## Framing -/

/-- A framed byte string in front of others is read off them in one way. -/
theorem lengthPrefixed_append_inj {left right rest more : Bytes} (leftShort : left.length < 2 ^ 64)
    (rightShort : right.length < 2 ^ 64)
    (same : lengthPrefixed left ++ rest = lengthPrefixed right ++ more) :
    left = right ∧ rest = more := by
  simp only [lengthPrefixed, List.append_assoc] at same
  obtain ⟨sizes, contents⟩ := List.append_inj same (by simp only [Bytes.length_ofNat])
  have lengths : left.length = right.length := by
    have read := congrArg Bytes.toNat sizes
    rwa [Bytes.toNat_ofNat 8 _ leftShort, Bytes.toNat_ofNat 8 _ rightShort] at read
  exact List.append_inj contents lengths

/-- An entry in front of other bytes is read off them in one way. -/
theorem entryBytes_append_inj {left right : Bytes × Bytes} {rest more : Bytes}
    (leftFramed : FramedEntry left) (rightFramed : FramedEntry right)
    (same : entryBytes left ++ rest = entryBytes right ++ more) :
    left = right ∧ rest = more := by
  simp only [entryBytes, List.append_assoc] at same
  obtain ⟨keys, same⟩ := lengthPrefixed_append_inj (leftFramed.1.trans (by decide))
    (rightFramed.1.trans (by decide)) same
  obtain ⟨values, rests⟩ := lengthPrefixed_append_inj leftFramed.2 rightFramed.2 same
  exact ⟨Prod.ext keys values, rests⟩

/-- The fifth byte of an entry belongs to the length of its key, and is zero. -/
theorem getElem?_entryBytes {entry : Bytes × Bytes} (framed : FramedEntry entry) (rest : Bytes) :
    (entryBytes entry ++ rest)[4]? = some 0 := by
  have high : entry.1.length / 256 / 256 / 256 / 256 = 0 := by
    have short := framed.1
    omega
  simp [entryBytes, lengthPrefixed, Bytes.ofNat, high]

/-- Bytes that no entry starts with: their fifth byte is not zero, or there is none. -/
def EndsEntries (rest : Bytes) : Prop := rest[4]? ≠ some 0

/-- Entries in front of bytes that end them are read off in one way. -/
theorem entries_append_inj {left right : List (Bytes × Bytes)} {rest more : Bytes}
    (leftFramed : ∀ entry ∈ left, FramedEntry entry)
    (rightFramed : ∀ entry ∈ right, FramedEntry entry) (restEnds : EndsEntries rest)
    (moreEnds : EndsEntries more)
    (same : left.flatMap entryBytes ++ rest = right.flatMap entryBytes ++ more) :
    left = right ∧ rest = more := by
  induction left generalizing right with
  | nil =>
    cases right with
    | nil => exact ⟨rfl, same⟩
    | cons entry others =>
      have fifth := getElem?_entryBytes (rightFramed entry List.mem_cons_self)
        (others.flatMap entryBytes ++ more)
      rw [← List.append_assoc, ← List.flatMap_cons, ← same] at fifth
      exact absurd fifth restEnds
  | cons entry others ih =>
    cases right with
    | nil =>
      have fifth := getElem?_entryBytes (leftFramed entry List.mem_cons_self)
        (others.flatMap entryBytes ++ rest)
      rw [← List.append_assoc, ← List.flatMap_cons, same] at fifth
      exact absurd fifth moreEnds
    | cons head tail =>
      rw [List.flatMap_cons, List.flatMap_cons, List.append_assoc, List.append_assoc] at same
      obtain ⟨heads, same⟩ := entryBytes_append_inj (leftFramed entry List.mem_cons_self)
        (rightFramed head List.mem_cons_self) same
      obtain ⟨tails, rests⟩ := ih
        (fun entry member => leftFramed entry (List.mem_cons_of_mem _ member))
        (fun entry member => rightFramed entry (List.mem_cons_of_mem _ member)) same
      exact ⟨by rw [heads, tails], rests⟩

/-! ## Entries of a store -/

/-- The entries of a store, keys without the name of the store. -/
def entriesOf (store : Store) (name : StoreName) : List (Bytes × Bytes) :=
  (View.base store).scanIn name.keyStart []

/-- The entries are those found under the name of the store. -/
theorem mem_entriesOf {store : Store} {name : StoreName} {key value : Bytes} :
    (key, value) ∈ entriesOf store name ↔ store.find? (name.keyStart ++ key) = some value := by
  have listed := ((View.base store).answersIn name.keyStart).mem_scan_iff [] key value
  exact listed.trans (and_iff_right List.nil_prefix)

/-- Stores list the same entries under a name exactly if they answer alike for its keys. -/
theorem entriesOf_eq_iff {left right : Store} {name : StoreName} :
    entriesOf left name = entriesOf right name ↔
      ∀ key, left.find? (name.keyStart ++ key) = right.find? (name.keyStart ++ key) := by
  constructor
  · intro same key
    refine Option.ext fun value => ?_
    rw [← mem_entriesOf, ← mem_entriesOf, same]
  · intro same
    have ascend (store : Store) : KeysAscend (entriesOf store name) :=
      (View.base store).keysAscend_scanIn name.keyStart []
    refine KeyMap.entries_eq_of_mem_iff (ascend left) (ascend right) ?_
    rintro ⟨key, value⟩
    rw [mem_entriesOf, mem_entriesOf, same]

/-- Without the name of their store, too, the entries of a framed store are framed. -/
theorem framed_entriesOf {store : Store} (framed : store.Framed) (name : StoreName) :
    ∀ entry ∈ entriesOf store name, FramedEntry entry := by
  rintro ⟨key, value⟩ member
  have found := mem_entriesOf.mp member
  rw [KeyMap.find?_eq_some_iff] at found
  obtain ⟨short, fits⟩ := framed _ found
  rw [List.length_append] at short
  exact ⟨by simp only; omega, fits⟩

/-! ## Stores in a row -/

/-- With the first two stores present, the bytes are theirs and then those of the third, if it is
present. -/
theorem preimage_eq {present : StoreName → Bool} (params : present .params = true)
    (supply : present .supply = true) (store : Store) :
    preimage present store = storeBytes store .params ++ (storeBytes store .supply ++
      if present .asset then storeBytes store .asset else []) := by
  cases asset : present .asset <;>
    simp [preimage, StoreName.all, List.filter, params, supply, asset]

/-- A store in front of bytes that end its entries is read off in one way. -/
theorem storeBytes_append_inj {left right : Store} {name : StoreName} {rest more : Bytes}
    (leftFramed : left.Framed) (rightFramed : right.Framed) (restEnds : EndsEntries rest)
    (moreEnds : EndsEntries more)
    (same : storeBytes left name ++ rest = storeBytes right name ++ more) :
    entriesOf left name = entriesOf right name ∧ rest = more := by
  simp only [storeBytes, List.append_assoc] at same
  exact entries_append_inj (framed_entriesOf leftFramed name) (framed_entriesOf rightFramed name)
    restEnds moreEnds (List.append_cancel_left same)

/-- No entry starts with the name of the supply store. -/
theorem endsEntries_supply (store : Store) (rest : Bytes) :
    EndsEntries (storeBytes store .supply ++ rest) := by
  have name : Bytes.utf8 StoreName.supply.wireName = [115, 117, 112, 112, 108, 121] := by decide
  simp [EndsEntries, storeBytes, name]

/-- No entry starts with the name of the asset store, or with nothing. -/
theorem endsEntries_asset (store : Store) (present : Bool) :
    EndsEntries (if present then storeBytes store .asset else []) := by
  have name : Bytes.utf8 StoreName.asset.wireName = [97, 115, 115, 101, 116] := by decide
  cases present <;> simp [EndsEntries, storeBytes, name]

/-- The asset store is present just if its name is there, and is read off in one way. -/
theorem asset_inj {left right : Store} {first second : Bool} (leftFramed : left.Framed)
    (rightFramed : right.Framed)
    (same : (if first then storeBytes left .asset else []) =
      if second then storeBytes right .asset else []) :
    first = second ∧ (first = true → entriesOf left .asset = entriesOf right .asset) := by
  have filled (store : Store) : storeBytes store .asset ≠ [] := by
    have name : Bytes.utf8 StoreName.asset.wireName = [97, 115, 115, 101, 116] := by decide
    simp [storeBytes, name]
  cases first <;> cases second
  · exact ⟨rfl, (nomatch ·)⟩
  · exact absurd same.symm (filled right)
  · exact absurd same (filled left)
  · refine ⟨rfl, fun _ => ?_⟩
    have ended : EndsEntries [] := by simp [EndsEntries]
    refine (storeBytes_append_inj leftFramed rightFramed ended ended ?_).1
    rwa [List.append_nil, List.append_nil]

/-! ## Keys of a chain -/

/-- The key of a record of a ledger in use is short. -/
theorem length_key_lt {ledger : Ledger} (registered : ledger.Registered) {slot : Slot}
    (recorded : ledger.record? slot ≠ none) : slot.key.length < 2 ^ 32 := by
  cases slot with
  | maxDecimal | issueFee | mintFee | total => decide
  | balance address =>
    rw [Slot.key_balance, List.length_append, address.length_eq]
    decide
  | token symbol =>
    obtain ⟨record, found⟩ := Option.ne_none_iff_exists'.mp recorded
    obtain ⟨token, found, _⟩ := Option.map_eq_some_iff.mp found
    obtain ⟨rfl, storable⟩ := registered symbol token found
    have short : (Bytes.utf8 token.symbol).length ≤ 12 := storable.symbolLength.2
    have front : (StoreName.asset.keyStart ++ TokenBook.keyStart).length = 7 := by decide
    rw [Slot.key_token, List.length_append, front]
    omega

/-- The keys that a sound chain has written are short. -/
theorem Sound.length_lt_of_get {chain : Chain} (sound : chain.Sound) {view : View}
    (shown : chain.Shows view) {key : Bytes} (present : view.get key ≠ none) :
    key.length < 2 ^ 32 := by
  obtain ⟨ledger, holds, inUse⟩ := sound.exists_ledger shown
  have registered : ledger.Registered := by
    rcases inUse with rfl | ⟨params, ledgerSound⟩
    · exact fun _ _ found => nomatch found
    · exact ledgerSound.registered
  rw [View.get_eq_find?_flatten] at present
  obtain ⟨slot, rfl⟩ := holds.exists_slot key present
  rw [holds.find?_key] at present
  exact length_key_lt registered present

/-! ## Reading the bytes -/

/-- The bytes tell which stores are present and which entries each of them has. -/
theorem preimage_inj {left right : Store} {first second : StoreName → Bool}
    (leftFramed : left.Framed) (rightFramed : right.Framed)
    (firstHas : first .params = true ∧ first .supply = true)
    (secondHas : second .params = true ∧ second .supply = true)
    (same : preimage first left = preimage second right) :
    first = second ∧ ∀ name, first name = true → entriesOf left name = entriesOf right name := by
  rw [preimage_eq firstHas.1 firstHas.2, preimage_eq secondHas.1 secondHas.2] at same
  obtain ⟨params, same⟩ := storeBytes_append_inj leftFramed rightFramed
    (endsEntries_supply left _) (endsEntries_supply right _) same
  obtain ⟨supply, same⟩ := storeBytes_append_inj leftFramed rightFramed
    (endsEntries_asset left _) (endsEntries_asset right _) same
  obtain ⟨present, asset⟩ := asset_inj leftFramed rightFramed same
  refine ⟨funext fun name => ?_, fun name => ?_⟩
  · cases name with
    | params => rw [firstHas.1, secondHas.1]
    | supply => rw [firstHas.2, secondHas.2]
    | asset => exact present
  · cases name with
    | params => exact fun _ => params
    | supply => exact fun _ => supply
    | asset => exact asset

/-- The bytes depend on nothing but the entries of the stores that are present. -/
theorem preimage_congr {left right : Store} {present : StoreName → Bool}
    (entries : ∀ name, present name = true → entriesOf left name = entriesOf right name) :
    preimage present left = preimage present right := by
  refine List.flatMap_congr fun name member => ?_
  have listed := entries name (List.mem_filter.mp member).2
  change _ ++ (entriesOf left name).flatMap entryBytes = _
  rw [listed]
  rfl

/-- Over framed stores, and with the stores for parameters and supply present on both sides, the
bytes that are digested are equal exactly if the same stores are present and each of them has the
same entries on both sides. Every key that a chain writes in any run is short enough for this. -/
theorem preimage_eq_iff :
    (∀ (left right : Store) (first second : StoreName → Bool), left.Framed → right.Framed →
      first .params = true ∧ first .supply = true → second .params = true ∧ second .supply = true →
        (preimage first left = preimage second right ↔ first = second ∧
          ∀ name, first name = true →
            ∀ key, left.find? (name.keyStart ++ key) = right.find? (name.keyStart ++ key))) ∧
    ∀ (config : NodeConfig) (fresh : Chain), create config = .ok fresh →
      ∀ (calls : List Call) (view : View), (fresh.run calls).Shows view →
        ∀ key, view.get key ≠ none → key.length < 2 ^ 32 := by
  refine ⟨?_, fun config fresh created calls view shown key present =>
    ((sound_create created).run calls).length_lt_of_get shown present⟩
  intro left right first second leftFramed rightFramed firstHas secondHas
  simp only [← entriesOf_eq_iff]
  constructor
  · exact preimage_inj leftFramed rightFramed firstHas secondHas
  · rintro ⟨rfl, entries⟩
    exact preimage_congr entries

/-- Two stores that differ under a name which is not present and in a key outside of all names give
the same bytes, so they agree under the names that are. With one more name present the bytes are
others. -/
theorem preimage_eq_iff_sample :
    let left : Store := (KeyMap.empty.insert (Bytes.utf8 "supply/a") [1]).insert
      (Bytes.utf8 "asset/b") [2]
    let right : Store := (KeyMap.empty.insert (Bytes.utf8 "supply/a") [1]).insert
      (Bytes.utf8 "other") [3]
    let early : StoreName → Bool := fun name => name ≠ .asset
    left.Framed ∧ right.Framed ∧ preimage early left = preimage early right ∧
      (∀ name, early name = true →
        ∀ key, left.find? (name.keyStart ++ key) = right.find? (name.keyStart ++ key)) ∧
      preimage early left ≠ preimage (fun _ => true) left := by
  intro left right early
  have leftFramed : left.Framed := by
    unfold Store.Framed FramedEntry
    decide
  have rightFramed : right.Framed := by
    unfold Store.Framed FramedEntry
    decide
  have same : preimage early left = preimage early right := by decide
  have agree := (preimage_eq_iff.1 left right early early leftFramed rightFramed ⟨rfl, rfl⟩
    ⟨rfl, rfl⟩).mp same
  refine ⟨leftFramed, rightFramed, same, agree.2, fun equal => ?_⟩
  have present := (preimage_eq_iff.1 left left early (fun _ => true) leftFramed leftFramed
    ⟨rfl, rfl⟩ ⟨rfl, rfl⟩).mp equal
  exact absurd (congrFun present.1 .asset) (by decide)

end Chain

end TokenLedger
