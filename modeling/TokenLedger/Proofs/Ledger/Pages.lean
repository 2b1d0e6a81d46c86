import Mathlib.Algebra.Order.Floor.Div
import TokenLedger.Proofs.Json.Documents
import TokenLedger.Proofs.Ledger.Books

/-!
# Pages of tokens

The window of a page is computed in words, with a start that may not fit and an end that is cut off.
It is the window that numbers without a bound would give, so the pages of a list are its successive
parts: all but the last are full, nothing is lost or listed twice, and behind the last page there is
nothing. Every request for a page of the tokens of a store is answered with that part of them.
-/

namespace TokenLedger

open TokenLedger.Action

namespace Query

/-! ## Windows -/

/-- The number of items of a page: what is asked for, or the usual number if that is zero. -/
def pageSize (limit usual : UInt64) : Nat := (if limit = 0 then usual else limit).toNat

/-- A word that is not zero counts something. -/
theorem toNat_pos {word : UInt64} (nonzero : word ≠ 0) : 0 < word.toNat :=
  Nat.pos_of_ne_zero fun zero => nonzero (UInt64.toNat_inj.mp zero)

/-- Pages of the list of tokens have items. -/
theorem pageSize_pos (limit : UInt64) : 0 < pageSize limit defaultLimit := by
  unfold pageSize
  split
  · decide
  · next nonzero => exact toNat_pos nonzero

namespace Window

/-- The window of a page in numbers without a bound: pages are numbered from one, and the last one
ends with the list. -/
def ofPage (length size page : Nat) : Window :=
  ⟨(page - 1) * size, min ((page - 1) * size + size) length⟩

/-- A window that holds no position. -/
def IsEmpty (window : Window) : Prop := window.stop ≤ window.start

/-- The window of a page is empty if the page starts behind the list. -/
theorem isEmpty_ofPage_iff {length size page : Nat} (positive : 0 < size) :
    (ofPage length size page).IsEmpty ↔ length ≤ (page - 1) * size := by
  change min ((page - 1) * size + size) length ≤ (page - 1) * size ↔ _
  omega

end Window

/-- The start of a page, as a word or beyond all words, decides whether there is a window. -/
theorem window?_eq (length : Nat) {page limit usual : UInt64} (numbered : page ≠ 0) :
    window? length page limit usual =
      if 2 ^ 64 ≤ (page.toNat - 1) * pageSize limit usual then none
      else if length ≤ (page.toNat - 1) * pageSize limit usual then none
      else some ⟨(page.toNat - 1) * pageSize limit usual,
        min (min ((page.toNat - 1) * pageSize limit usual + pageSize limit usual) (2 ^ 64 - 1))
          length⟩ := by
  have word : (1 <<< 64 : Nat) = 2 ^ 64 := by decide
  rw [window?, if_neg numbered, word]
  rfl

/-- A page that is not numbered, or starts behind the list, has no window. -/
theorem window?_eq_none {length : Nat} {page limit usual : UInt64}
    (nothing : page = 0 ∨ length ≤ (page.toNat - 1) * pageSize limit usual) :
    window? length page limit usual = none := by
  by_cases zero : page = 0
  · rw [window?, if_pos zero]
  · rw [window?_eq length zero, if_pos (nothing.resolve_left zero), ite_self]

/-- A page that starts inside the list has the window that numbers without a bound give it. -/
theorem window?_eq_some {length : Nat} {page limit usual : UInt64} (few : length < 2 ^ 64)
    (numbered : page ≠ 0) (inside : (page.toNat - 1) * pageSize limit usual < length) :
    window? length page limit usual =
      some (.ofPage length (pageSize limit usual) page.toNat) := by
  have fits : ¬ 2 ^ 64 ≤ (page.toNat - 1) * pageSize limit usual := by omega
  -- Cutting the end off at the last word comes to nothing: the list ends before.
  have ends : min (min ((page.toNat - 1) * pageSize limit usual + pageSize limit usual)
      (2 ^ 64 - 1)) length =
      min ((page.toNat - 1) * pageSize limit usual + pageSize limit usual) length := by omega
  rw [window?_eq length numbered, if_neg fits, if_neg (not_le.mpr inside), ends, Window.ofPage]

/-- A page has no window exactly if it is not numbered or its window would be empty. -/
theorem window?_eq_none_iff {length : Nat} {page limit usual : UInt64} (few : length < 2 ^ 64)
    (positive : 0 < pageSize limit usual) :
    window? length page limit usual = none ↔
      page = 0 ∨ (Window.ofPage length (pageSize limit usual) page.toNat).IsEmpty := by
  rw [Window.isEmpty_ofPage_iff positive]
  refine ⟨fun absent => ?_, window?_eq_none⟩
  by_contra nothing
  obtain ⟨numbered, inside⟩ := not_or.mp nothing
  rw [window?_eq_some few numbered (not_le.mp inside)] at absent
  contradiction

/-- The window of a page is the one in numbers without a bound; it holds a position of the list and
nothing else. -/
theorem eq_ofPage_of_window? {length : Nat} {page limit usual : UInt64} {window : Window}
    (few : length < 2 ^ 64) (positive : 0 < pageSize limit usual)
    (found : window? length page limit usual = some window) :
    window = .ofPage length (pageSize limit usual) page.toNat ∧
      window.start < window.stop ∧ window.stop ≤ length := by
  have present : ¬ window? length page limit usual = none := by
    rw [found]
    exact Option.some_ne_none window
  rw [window?_eq_none_iff few positive, not_or] at present
  obtain ⟨numbered, holds⟩ := present
  have inside := (Window.isEmpty_ofPage_iff positive).not.mp holds
  rw [window?_eq_some few numbered (not_le.mp inside)] at found
  obtain rfl := Option.some.inj found
  exact ⟨rfl, not_le.mp holds, min_le_right _ _⟩

/-! ## Parts of a list -/

variable {α : Type}

/-- The part of a list at a page that is counted from zero. -/
def part (items : List α) (size index : Nat) : List α := (items.drop (index * size)).take size

/-- The first parts of a list are its first items. -/
theorem flatMap_part (items : List α) (size count : Nat) :
    (List.range count).flatMap (part items size) = items.take (count * size) := by
  induction count with
  | zero => simp
  | succ count ih =>
    rw [List.range_succ, List.flatMap_append, ih, List.flatMap_singleton, Nat.succ_mul,
      List.take_add]
    rfl

/-- There are as many pages as parts that start inside the list. -/
theorem lt_ceilDiv_iff {length size index : Nat} (positive : 0 < size) :
    index < length ⌈/⌉ size ↔ index * size < length := by
  have whole := ceilDiv_le_iff_le_mul (b := length) (c := index) positive
  rw [mul_comm size index] at whole
  omega

/-- A part starting behind the list is empty. -/
theorem part_eq_nil {items : List α} {size index : Nat} (positive : 0 < size)
    (behind : items.length ⌈/⌉ size ≤ index) : part items size index = [] := by
  have start : items.length ≤ index * size := by
    rw [← not_lt, ← lt_ceilDiv_iff positive]
    exact not_lt.mpr behind
  rw [part, List.drop_eq_nil_of_le start, List.take_nil]

/-- A part with another one behind it is full. -/
theorem length_part {items : List α} {size index : Nat} (positive : 0 < size)
    (before : index + 1 < items.length ⌈/⌉ size) : (part items size index).length = size := by
  have next := (lt_ceilDiv_iff positive).mp before
  rw [Nat.succ_mul] at next
  rw [part, List.length_take, List.length_drop]
  omega

/-- The items of the window of a page are a part of the list. -/
theorem slice_window? {items : List α} {page limit usual : UInt64} (few : items.length < 2 ^ 64)
    (numbered : page ≠ 0) :
    slice items (window? items.length page limit usual) =
      part items (pageSize limit usual) (page.toNat - 1) := by
  rw [part]
  by_cases behind : items.length ≤ (page.toNat - 1) * pageSize limit usual
  · rw [window?_eq_none (.inr behind), List.drop_eq_nil_of_le behind, List.take_nil]
    rfl
  · rw [window?_eq_some few numbered (not_le.mp behind), slice, Window.ofPage,
      ← List.take_eq_take_min, List.drop_take, Nat.add_sub_cancel_left]

/-- A list cut into pages of a size: page after page gives the list, all pages but the last are
full, and there are no others. -/
structure Paginates (items : List α) (size : Nat) (page : UInt64 → List α) : Prop where
  /-- The pages in order are the list. -/
  joined : (List.range (items.length ⌈/⌉ size)).flatMap
    (fun index => page (UInt64.ofNat (index + 1))) = items
  /-- A page in front of the last one is full. -/
  full : ∀ number : UInt64, number ≠ 0 → number.toNat < items.length ⌈/⌉ size →
    (page number).length = size
  /-- There is no page zero and none behind the last one. -/
  nothing : ∀ number : UInt64, number = 0 ∨ items.length ⌈/⌉ size < number.toNat →
    page number = []

/-- The windows of a list cut it into pages. -/
theorem paginates_slice {items : List α} {limit usual : UInt64} (few : items.length < 2 ^ 64)
    (positive : 0 < pageSize limit usual) :
    Paginates items (pageSize limit usual) fun number =>
      slice items (window? items.length number limit usual) where
  joined := by
    have count : items.length ⌈/⌉ pageSize limit usual ≤ items.length :=
      (ceilDiv_le_iff_le_mul positive).mpr (Nat.le_mul_of_pos_left _ positive)
    have pages : ∀ index ∈ List.range (items.length ⌈/⌉ pageSize limit usual),
        slice items (window? items.length (UInt64.ofNat (index + 1)) limit usual) =
          part items (pageSize limit usual) index := by
      intro index inside
      have fits : index + 1 < 2 ^ 64 := by
        have := List.mem_range.mp inside
        omega
      have number : (UInt64.ofNat (index + 1)).toNat = index + 1 := UInt64.toNat_ofNat_of_lt' fits
      have numbered : UInt64.ofNat (index + 1) ≠ 0 := by
        rw [Ne, ← UInt64.toNat_inj, number]
        exact Nat.succ_ne_zero index
      rw [slice_window? few numbered, number, Nat.add_sub_cancel]
    have all : items.length ≤ items.length ⌈/⌉ pageSize limit usual * pageSize limit usual := by
      rw [mul_comm]
      exact le_smul_ceilDiv positive
    rw [List.flatMap_congr pages, flatMap_part, List.take_of_length_le all]
  full number numbered before := by
    have counted := toNat_pos numbered
    rw [slice_window? few numbered]
    exact length_part positive (by omega)
  nothing number beyond := by
    by_cases zero : number = 0
    · rw [window?_eq_none (.inl zero)]
      rfl
    · rw [slice_window? few zero]
      exact part_eq_nil positive (by have := beyond.resolve_left zero; omega)

end Query

/-! ## The tokens of a store -/

/-- A view whose asset store has records that are read as tokens, as many as a list can hold. -/
structure View.StoresTokens (view : View) : Prop where
  /-- Every record among tokens is read as one. -/
  readable : ∀ entry ∈ (view.scanIn StoreName.asset.keyStart TokenBook.keyStart),
    ∃ token, Token.decode entry.2 = .ok token
  /-- The length of a list is a word. -/
  few : (view.scanIn StoreName.asset.keyStart TokenBook.keyStart).length < 2 ^ 64

/-- Records that are read as tokens are read as that many tokens. -/
theorem TokenBook.exists_decodeAll {entries : List (Bytes × Bytes)}
    (readable : ∀ entry ∈ entries, ∃ token, Token.decode entry.2 = .ok token) :
    ∃ tokens, decodeAll entries = .ok tokens ∧ tokens.length = entries.length := by
  induction entries with
  | nil => exact ⟨[], rfl, rfl⟩
  | cons entry rest ih =>
    obtain ⟨token, first⟩ := readable entry List.mem_cons_self
    obtain ⟨tokens, others, count⟩ :=
      ih fun other member => readable other (List.mem_cons_of_mem _ member)
    refine ⟨token :: tokens, ?_, congrArg Nat.succ count⟩
    simp only [decodeAll, first, others]
    rfl

/-- The tokens of a store are listed. -/
theorem View.StoresTokens.exists_perform_list {ε : Type} {context : Context}
    (stores : context.view.StoresTokens) :
    ∃ tokens : List Token, tokens.length < 2 ^ 64 ∧
      (TokenBook.list : Action ε (List Token)).perform context = (.ok tokens, context) := by
  obtain ⟨tokens, decoded, count⟩ := TokenBook.exists_decodeAll stores.readable
  refine ⟨tokens, count ▸ stores.few, ?_⟩
  unfold TokenBook.list
  rw [perform_bind_ok (perform_scanKeys .asset TokenBook.keyStart context), decoded]
  rfl

namespace Query

/-! ## Pages of the tokens of a store -/

/-- The page that a body asks for is answered with that part of the tokens. -/
theorem perform_tokens {context : Context} {listed : List Token} {body : Bytes}
    {request : PageRequest}
    (tokens : (TokenBook.list : Action BaseError (List Token)).perform context =
      (.ok listed, context))
    (asked : JsonForm.readBytes? body = some request) :
    (Query.tokens body).perform context =
      (.ok (answer (slice listed
        (window? listed.length request.page request.limit defaultLimit))), context) := by
  unfold Query.tokens
  rw [asked]
  exact perform_bind_ok tokens _

/-- Where tokens are introduced, the answers to requests for the pages of a size of the tokens of a
store cut the list of these tokens into pages, and every request is answered, whatever page and size
it asks for. The windows of the pages are those that numbers without a bound give, so they lie
inside the list; there is none exactly if that is empty or the page is zero. -/
theorem pages_partition {κ : Type} {registry : Registry κ} {context : Context}
    (applied : registry.isApplied .tokenIssue = true) (stores : context.view.StoresTokens) :
    (∃ listed : List Token,
      (TokenBook.list : Action BaseError (List Token)).perform context = (.ok listed, context) ∧
      ∀ limit : UInt64, ∃ page : UInt64 → List Token,
        Paginates listed (pageSize limit defaultLimit) page ∧
        ∀ (number : UInt64) (body : Bytes) (rest : List String),
          JsonForm.readBytes? body = some (PageRequest.mk number limit) →
          ∃ text, (answerAsset (registry.isApplied .tokenIssue) ("list" :: rest) body).perform
              context = (.ok text, context) ∧
            JsonForm.read? text = some (page number)) ∧
    (∀ request : PageRequest, JsonForm.readBytes? (JsonForm.writeBytes request) = some request) ∧
    ∀ length page limit usual : UInt64, 0 < pageSize limit usual →
      (window? length.toNat page limit usual = none ↔
        page = 0 ∨ (Window.ofPage length.toNat (pageSize limit usual) page.toNat).IsEmpty) ∧
      ∀ window, window? length.toNat page limit usual = some window →
        window = .ofPage length.toNat (pageSize limit usual) page.toNat ∧
        window.start < window.stop ∧ window.stop ≤ length.toNat := by
  refine ⟨?_, fun request => (JsonForm.keeps_pageRequest request).readBytes?_writeBytes,
    fun length page limit usual positive => ⟨window?_eq_none_iff length.toNat_lt positive,
      fun window found => eq_ofPage_of_window? length.toNat_lt positive found⟩⟩
  obtain ⟨listed, few, tokens⟩ := stores.exists_perform_list (ε := BaseError)
  refine ⟨listed, tokens, fun limit =>
    ⟨_, paginates_slice few (pageSize_pos limit), fun number body rest asked => ?_⟩⟩
  rw [applied]
  exact ⟨_, perform_tokens tokens asked, (JsonForm.keeps_tokens _).spells.pretty⟩

namespace Sample

/-- The tokens of a store, by ascending symbol. -/
def tokens : List Token := ["atom", "btc", "eth"].map (TokenBook.Sample.token · 100)

/-- A context in which they have been stored in another order, in a layer. -/
def context : Context where
  view := tokens.reverse.foldl (fun view token =>
    view.setIn StoreName.asset.keyStart (TokenBook.keyOf token.symbol) token.encode)
    (View.base ∅).branch
  height := 10
  events := []

/-- A registry at the height at which tokens are introduced. -/
def registry : Registry Unit :=
  { Registry.empty with upgradeHeight? := fun _ => some 10, height := 10 }

/-- The last page that a word can number, and the most items that one can ask for. -/
def lastWord : UInt64 := 0xFFFFFFFFFFFFFFFF

/-- The records of the tokens are scanned in order. -/
theorem scanIn_context : context.view.scanIn StoreName.asset.keyStart TokenBook.keyStart =
    tokens.map fun token => (TokenBook.keyOf token.symbol, token.encode) := rfl

/-- And read back. -/
theorem decode_encode : ∀ token ∈ tokens, Token.decode token.encode = .ok token := by
  intro token member
  have compact : token.Compact := by
    simp only [tokens, List.map_cons, List.map_nil, List.mem_cons, List.not_mem_nil,
      or_false] at member
    rcases member with rfl | rfl | rfl <;> exact ⟨by decide, by decide, by decide⟩
  exact compact.fits.decode_encode

/-- So the context is one of a store of tokens. -/
theorem storesTokens : context.view.StoresTokens where
  readable := by
    rw [scanIn_context, List.forall_mem_map]
    exact fun token member => ⟨token, decode_encode token member⟩
  few := by
    rw [scanIn_context, List.length_map]
    decide

/-- All of them are listed. -/
theorem perform_list : (TokenBook.list : Action BaseError (List Token)).perform context =
    (.ok tokens, context) := by
  unfold TokenBook.list
  rw [perform_bind_ok (perform_scanKeys .asset TokenBook.keyStart context), scanIn_context,
    TokenBook.decodeAll_map decode_encode]
  rfl

end Sample

/-- Three tokens make two pages of two, and the second page holds the last of them; the last page
that can be asked for has no window. -/
theorem pages_partition_sample :
    Sample.registry.isApplied .tokenIssue = true ∧ Sample.context.view.StoresTokens ∧
    ∃ text, (answerAsset (Sample.registry.isApplied .tokenIssue) ["list"]
        (JsonForm.writeBytes (PageRequest.mk 2 2))).perform Sample.context =
          (.ok text, Sample.context) ∧
      JsonForm.read? text = some [TokenBook.Sample.token "eth" 100] ∧
      window? (UInt64.toNat 3) Sample.lastWord Sample.lastWord defaultLimit = none := by
  have applied : Sample.registry.isApplied .tokenIssue = true := rfl
  obtain ⟨⟨listed, performed, pages⟩, requests, windows⟩ :=
    pages_partition applied Sample.storesTokens
  have all : listed = Sample.tokens := by
    rw [Sample.perform_list] at performed
    exact (Except.ok.inj (congrArg Prod.fst performed)).symm
  obtain ⟨page, cut, answered⟩ := pages 2
  obtain ⟨text, answer, read⟩ := answered 2 _ [] (requests (PageRequest.mk 2 2))
  subst all
  have first : (page 1).length = 2 := cut.full 1 (by decide) (by decide)
  have both : page 1 ++ page 2 = Sample.tokens := by
    have count : Sample.tokens.length ⌈/⌉ pageSize 2 defaultLimit = 2 := by decide
    have joined := cut.joined
    rw [count] at joined
    simpa [List.range_succ] using joined
  have last : page 2 = [TokenBook.Sample.token "eth" 100] := by
    have rest := congrArg (List.drop 2) both
    rwa [← first, List.drop_left, first] at rest
  obtain ⟨exactly, _⟩ := windows 3 Sample.lastWord Sample.lastWord defaultLimit (pageSize_pos _)
  have behind : UInt64.toNat 3 ≤
      (Sample.lastWord.toNat - 1) * pageSize Sample.lastWord defaultLimit := by decide
  exact ⟨applied, Sample.storesTokens, text, answer, last ▸ read,
    exactly.mpr (.inr ((Window.isEmpty_ofPage_iff (pageSize_pos _)).mpr behind))⟩

end Query

end TokenLedger
