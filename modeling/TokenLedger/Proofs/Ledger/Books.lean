import TokenLedger.Proofs.Ledger.Runs
import TokenLedger.Proofs.Token.Record

/-!
# The token book is a map

The tokens of the asset store stand under keys made of their symbols, so the store is read as a map
from symbols to tokens whatever the symbols are: a symbol is looked up, the tokens are listed by
ascending symbol, and a write changes the token of its own symbol alone. From an empty store on the
map holds of each symbol the token that was written last.
-/

namespace TokenLedger

open TokenLedger.Action

variable {ε : Type} {view : View} {book : String → Option Token} {context before after : Context}

/-- A view whose asset store holds the tokens of a book under their own symbols, and nothing else
among tokens. -/
structure View.HoldsTokens (view : View) (book : String → Option Token) : Prop where
  /-- Under the key of a symbol stands the record of its token. -/
  getIn_keyOf : ∀ symbol, view.getIn StoreName.asset.keyStart (TokenBook.keyOf symbol) =
    (book symbol).map Token.encode
  /-- No other key among those of tokens has a value. -/
  exists_symbol : ∀ key, TokenBook.keyStart <+: key →
    view.getIn StoreName.asset.keyStart key ≠ none → ∃ symbol, TokenBook.keyOf symbol = key
  /-- A token stands under its own symbol. -/
  symbol_eq : ∀ symbol token, book symbol = some token → token.symbol = symbol
  /-- Its record is read back. -/
  decode_encode : ∀ symbol token, book symbol = some token →
    Token.decode token.encode = .ok token

/-! ## Reading a book -/

/-- Keys of different symbols differ. -/
theorem TokenBook.keyOf_injective {left right : String} (same : keyOf left = keyOf right) :
    left = right :=
  Bytes.utf8_injective (List.append_cancel_left same)

/-- Keys of tokens are ordered like the symbols. -/
theorem TokenBook.keyOf_lt_iff (left right : String) :
    keyOf left < keyOf right ↔ Bytes.utf8 left < Bytes.utf8 right :=
  Bytes.append_lt_append_iff keyStart _ _

/-- The records of tokens that are read back read as these tokens. -/
theorem TokenBook.decodeAll_map {tokens : List Token}
    (readable : ∀ token ∈ tokens, Token.decode token.encode = .ok token) :
    decodeAll (tokens.map fun token => (keyOf token.symbol, token.encode)) = .ok tokens := by
  induction tokens with
  | nil => rfl
  | cons token rest ih =>
    have first := readable token List.mem_cons_self
    have others := ih fun other member => readable other (List.mem_cons_of_mem _ member)
    simp only [List.map_cons, decodeAll, first, others]
    rfl

namespace View.HoldsTokens

/-- The tokens of the book are listed by ascending symbol. -/
theorem exists_perform_list (holds : context.view.HoldsTokens book) :
    ∃ tokens : List Token,
      (TokenBook.list : Action ε (List Token)).perform context = (.ok tokens, context) ∧
      (tokens.Pairwise fun left right => Bytes.utf8 left.symbol < Bytes.utf8 right.symbol) ∧
      ∀ token, token ∈ tokens ↔ book token.symbol = some token := by
  have inside (token : Token) (listed : book token.symbol = some token) :
      TokenBook.keyStart <+: TokenBook.keyOf token.symbol ∧
        context.view.getIn StoreName.asset.keyStart (TokenBook.keyOf token.symbol) =
          some token.encode := by
    have found := holds.getIn_keyOf token.symbol
    rw [listed] at found
    exact ⟨List.prefix_append _ _, found⟩
  have family (key : Bytes) (starts : TokenBook.keyStart <+: key)
      (present : context.view.getIn StoreName.asset.keyStart key ≠ none) :
      ∃ token : Token, book token.symbol = some token ∧ TokenBook.keyOf token.symbol = key := by
    obtain ⟨symbol, rfl⟩ := holds.exists_symbol key starts present
    have found := holds.getIn_keyOf symbol
    cases written : book symbol with
    | none =>
      rw [written] at found
      exact absurd found present
    | some token =>
      have same := holds.symbol_eq symbol token written
      exact ⟨token, by rw [same, written], by rw [same]⟩
  have distinct (left right : Token) (leftListed : book left.symbol = some left)
      (rightListed : book right.symbol = some right)
      (same : TokenBook.keyOf left.symbol = TokenBook.keyOf right.symbol) : left = right := by
    rw [TokenBook.keyOf_injective same, rightListed] at leftListed
    exact (Option.some.inj leftListed).symm
  have answers := context.view.answersIn StoreName.asset.keyStart
  obtain ⟨tokens, scanned, ascend, members⟩ :=
    answers.exists_listing TokenBook.keyStart _ _ _ inside family distinct
  have decoded : TokenBook.decodeAll
      (context.view.scanIn StoreName.asset.keyStart TokenBook.keyStart) = .ok tokens := by
    rw [scanned]
    exact TokenBook.decodeAll_map fun token member =>
      holds.decode_encode _ token ((members token).mp member)
  refine ⟨tokens, ?_, ascend.imp fun {left right} => ?_, members⟩
  · unfold TokenBook.list
    rw [perform_bind_ok (perform_scanKeys .asset TokenBook.keyStart context), decoded]
    rfl
  · exact (TokenBook.keyOf_lt_iff left.symbol right.symbol).mp

/-- A symbol is taken if the book has a token of it. -/
theorem perform_contains (holds : context.view.HoldsTokens book) (symbol : String) :
    (TokenBook.contains symbol : Action ε Bool).perform context =
      (.ok (book symbol).isSome, context) := by
  have asked : (TokenBook.contains symbol : Action ε Bool).perform context =
      (.ok (context.view.getIn StoreName.asset.keyStart (TokenBook.keyOf symbol)).isSome,
        context) := rfl
  rw [asked, holds.getIn_keyOf, Option.isSome_map]

/-- The token of a symbol is the one in the book. -/
theorem perform_find? (holds : context.view.HoldsTokens book) (symbol : String) :
    (TokenBook.find? symbol : Action ε (Option Token)).perform context =
      (.ok (book symbol), context) := by
  unfold TokenBook.find?
  rw [perform_bind_ok (perform_getKey .asset (TokenBook.keyOf symbol) context), holds.getIn_keyOf]
  cases found : book symbol with
  | none => rfl
  | some token =>
    simp only [Option.map_some, holds.decode_encode symbol token found]
    rfl

/-! ## Writing to a book -/

/-- A token that fits in memory is written into the book under its symbol. -/
theorem setIn (holds : view.HoldsTokens book) {token : Token} (fits : token.Fits) :
    (view.setIn StoreName.asset.keyStart (TokenBook.keyOf token.symbol) token.encode).HoldsTokens
      (Function.update book token.symbol (some token)) := by
  have written (key : Bytes) :
      (view.setIn StoreName.asset.keyStart (TokenBook.keyOf token.symbol) token.encode).getIn
        StoreName.asset.keyStart key = if TokenBook.keyOf token.symbol = key then some token.encode
          else view.getIn StoreName.asset.keyStart key := by
    have write := view.getIn_writeIn StoreName.asset.keyStart
      (TokenBook.keyOf token.symbol, some token.encode)
    exact (congrFun write key).trans (Contents.write_apply _ _ key)
  refine ⟨fun symbol => ?_, fun key starts present => ?_, fun symbol other found => ?_,
    fun symbol other found => ?_⟩
  · rw [written, holds.getIn_keyOf, Function.update_apply]
    by_cases same : symbol = token.symbol
    · rw [same, if_pos rfl, if_pos rfl, Option.map_some]
    · have keys : TokenBook.keyOf token.symbol ≠ TokenBook.keyOf symbol := fun equal =>
        same (TokenBook.keyOf_injective equal).symm
      rw [if_neg keys, if_neg same]
  · rw [written] at present
    by_cases same : TokenBook.keyOf token.symbol = key
    · exact ⟨token.symbol, same⟩
    · rw [if_neg same] at present
      exact holds.exists_symbol key starts present
  all_goals
    rw [Function.update_apply] at found
    split at found
  · next same =>
    rw [same, Option.some.inj found]
  · exact holds.symbol_eq symbol other found
  · rw [← Option.some.inj found]
    exact fits.decode_encode
  · exact holds.decode_encode symbol other found

end View.HoldsTokens

/-- A call that writes a token. -/
inductive TokenWrite where
  /-- Stores it under a symbol that is free. -/
  | create (token : Token)
  /-- Stores it in place of the one of its symbol. -/
  | replace (token : Token)

namespace TokenWrite

/-- The token that is written. -/
def token : TokenWrite → Token
  | .create token | .replace token => token

/-- The action of a call. -/
def action : TokenWrite → Action ε Unit
  | .create token => TokenBook.create token
  | .replace token => TokenBook.replace token

/-- The calls one after the other. -/
def actionAll : List TokenWrite → Action ε Unit
  | [] => pure ()
  | call :: rest => do
    call.action
    actionAll rest

/-- The token of a symbol that calls write last, if they write one. -/
def lastWritten (calls : List TokenWrite) (symbol : String) : Option Token :=
  (calls.map token).reverse.find? fun token => token.symbol = symbol

/-- The context in which the token of a call is written. -/
def write (call : TokenWrite) (context : Context) : Context :=
  let key := TokenBook.keyOf call.token.symbol
  { context with view := context.view.setIn StoreName.asset.keyStart key call.token.encode }

/-- A call that a book allows: a token is created under a symbol that is free, and replaced under
one that is taken. -/
def Allowed (book : String → Option Token) : TokenWrite → Prop
  | .create token => book token.symbol = none
  | .replace token => book token.symbol ≠ none

/-- The fault of a call that is not allowed. -/
def fault : TokenWrite → Fault
  | .create token => .duplicateToken token.symbol
  | .replace token => .missingToken token.symbol

variable {call : TokenWrite} {calls : List TokenWrite}

/-- A call that is allowed writes its token. -/
theorem perform_of_allowed (holds : before.view.HoldsTokens book) (allowed : call.Allowed book) :
    (call.action : Action ε Unit).perform before = (.ok (), call.write before) := by
  cases call with
  | create token =>
    have free : book token.symbol = none := allowed
    unfold action TokenBook.create
    rw [perform_bind_ok (holds.perform_contains token.symbol), free]
    rfl
  | replace token =>
    obtain ⟨old, taken⟩ := Option.ne_none_iff_exists'.mp allowed
    unfold action TokenBook.replace
    rw [perform_bind_ok (holds.perform_contains token.symbol), taken]
    rfl

/-- A call that is not allowed runs into its fault and writes nothing. -/
theorem perform_of_not_allowed (holds : before.view.HoldsTokens book)
    (forbidden : ¬ call.Allowed book) :
    (call.action : Action ε Unit).perform before = (.error (.faulted call.fault), before) := by
  cases call with
  | create token =>
    obtain ⟨old, taken⟩ := Option.ne_none_iff_exists'.mp forbidden
    unfold action TokenBook.create
    rw [perform_bind_ok (holds.perform_contains token.symbol), taken]
    rfl
  | replace token =>
    have free : book token.symbol = none := not_not.mp forbidden
    unfold action TokenBook.replace
    rw [perform_bind_ok (holds.perform_contains token.symbol), free]
    rfl

/-- A call that ends in a result puts its token into the book. -/
theorem holdsTokens_of_perform (holds : before.view.HoldsTokens book) (fits : call.token.Fits)
    (performed : (call.action : Action ε Unit).perform before = (.ok (), after)) :
    after.view.HoldsTokens (Function.update book call.token.symbol (some call.token)) := by
  by_cases allowed : call.Allowed book
  · have written := perform_of_allowed (ε := ε) holds allowed
    rw [written] at performed
    obtain rfl : call.write before = after := congrArg Prod.snd performed
    exact holds.setIn fits
  · have stopped := perform_of_not_allowed (ε := ε) holds allowed
    rw [stopped] at performed
    exact nomatch congrArg Prod.fst performed

/-- What is written first is last if nothing after it is. -/
theorem lastWritten_cons (call : TokenWrite) (calls : List TokenWrite) (symbol : String) :
    lastWritten (call :: calls) symbol = (lastWritten calls symbol).or
      (if symbol = call.token.symbol then some call.token else none) := by
  rw [lastWritten, List.map_cons, List.reverse_cons, List.find?_append, List.find?_singleton]
  refine congrArg _ (if_congr ?_ rfl rfl)
  rw [decide_eq_true_iff]
  exact eq_comm

/-- Calls that all end in a result put into the book what they write last. -/
theorem holdsTokens_of_performAll (holds : before.view.HoldsTokens book)
    (fits : ∀ call ∈ calls, call.token.Fits)
    (performed : (actionAll calls : Action ε Unit).perform before = (.ok (), after)) :
    after.view.HoldsTokens fun symbol => (lastWritten calls symbol).or (book symbol) := by
  induction calls generalizing before book with
  | nil =>
    obtain rfl : before = after := congrArg Prod.snd performed
    exact holds
  | cons call rest ih =>
    obtain ⟨_, between, first, later⟩ := exists_of_perform_bind performed
    have step := holdsTokens_of_perform holds (fits call List.mem_cons_self) first
    have run := ih step (fun other member => fits other (List.mem_cons_of_mem _ member)) later
    -- What this call has put into the book stays unless a later one writes the symbol again.
    have same : (fun symbol => (lastWritten (call :: rest) symbol).or (book symbol)) =
        fun symbol => (lastWritten rest symbol).or
          (Function.update book call.token.symbol (some call.token) symbol) := by
      funext symbol
      rw [lastWritten_cons, Function.update_apply, Option.or_assoc]
      split <;> rfl
    rw [same]
    exact run

end TokenWrite

namespace View.HoldsTokens

/-- An empty asset store holds no tokens. -/
theorem of_empty (nothing : ∀ key, view.getIn StoreName.asset.keyStart key = none) :
    view.HoldsTokens fun _ => none where
  getIn_keyOf _ := nothing _
  exists_symbol key _ present := absurd (nothing key) present
  symbol_eq _ _ found := nomatch found
  decode_encode _ _ found := nomatch found

end View.HoldsTokens

namespace TokenBook

open TokenWrite

/-- After calls without a fault on an empty asset store, whatever the symbols are: the tokens are
listed by ascending symbol, for each symbol that has been written the token that was written last; a
symbol is looked up and asked for as it is listed; and a token can be created exactly if its symbol
is not listed and replaced exactly if it is. -/
theorem list_eq_lastWritten {calls : List TokenWrite}
    (nothing : ∀ key, before.view.getIn StoreName.asset.keyStart key = none)
    (fits : ∀ call ∈ calls, call.token.Fits)
    (performed : (actionAll calls : Action ε Unit).perform before = (.ok (), after)) :
    ∃ tokens : List Token,
      (list : Action ε (List Token)).perform after = (.ok tokens, after) ∧
      (tokens.Pairwise fun left right => Bytes.utf8 left.symbol < Bytes.utf8 right.symbol) ∧
      (∀ token, token ∈ tokens ↔ lastWritten calls token.symbol = some token) ∧
      (∀ symbol, ∃ found?,
        (find? symbol : Action ε (Option Token)).perform after = (.ok found?, after) ∧
        (contains symbol : Action ε Bool).perform after = (.ok found?.isSome, after) ∧
        ∀ token, found? = some token ↔ token ∈ tokens ∧ token.symbol = symbol) ∧
      ∀ token,
        ((∃ other ∈ tokens, other.symbol = token.symbol) →
          (create token : Action ε Unit).perform after =
            (.error (.faulted (.duplicateToken token.symbol)), after) ∧
          (replace token : Action ε Unit).perform after =
            (.ok (), (TokenWrite.replace token).write after)) ∧
        ((¬ ∃ other ∈ tokens, other.symbol = token.symbol) →
          (create token : Action ε Unit).perform after =
            (.ok (), (TokenWrite.create token).write after) ∧
          (replace token : Action ε Unit).perform after =
            (.error (.faulted (.missingToken token.symbol)), after)) := by
  have holds : after.view.HoldsTokens (lastWritten calls) := by
    have run := holdsTokens_of_performAll (.of_empty nothing) fits performed
    simp only [Option.or_none] at run
    exact run
  obtain ⟨tokens, listed, ascend, members⟩ := holds.exists_perform_list (ε := ε)
  have found (symbol : String) (token : Token) :
      lastWritten calls symbol = some token ↔ token ∈ tokens ∧ token.symbol = symbol := by
    rw [members]
    constructor
    · intro written
      have same := holds.symbol_eq symbol token written
      exact ⟨by rw [same, written], same⟩
    · rintro ⟨written, rfl⟩
      exact written
  have taken (symbol : String) :
      (∃ other ∈ tokens, other.symbol = symbol) ↔ lastWritten calls symbol ≠ none := by
    rw [Option.ne_none_iff_exists']
    exact exists_congr fun other => (found symbol other).symm
  refine ⟨tokens, listed, ascend, members,
    fun symbol => ⟨_, holds.perform_find? symbol, holds.perform_contains symbol, found symbol⟩,
    fun token => ⟨fun present => ?_, fun absent => ?_⟩⟩
  · rw [taken] at present
    have creating : ¬ (TokenWrite.create token).Allowed (lastWritten calls) := present
    have replacing : (TokenWrite.replace token).Allowed (lastWritten calls) := present
    exact ⟨perform_of_not_allowed holds creating, perform_of_allowed holds replacing⟩
  · rw [taken] at absent
    have creating : (TokenWrite.create token).Allowed (lastWritten calls) := not_not.mp absent
    have replacing : ¬ (TokenWrite.replace token).Allowed (lastWritten calls) := absent
    exact ⟨perform_of_allowed holds creating, perform_of_not_allowed holds replacing⟩

namespace Sample

/-- A token of a symbol. -/
def token (symbol : String) (totalSupply : Int64) : Token where
  symbol := symbol
  name := "Sample"
  decimal := 2
  totalSupply := totalSupply
  mintable := true
  description := ""
  owner := ⟨List.replicate 20 5, rfl⟩

/-- Calls that write a token twice whose symbol starts with that of another one. -/
def calls : List TokenWrite :=
  [.create (token "barks" 5), .create (token "bark" 1), .replace (token "barks" 7)]

/-- A context with a layer in which another store has a key. -/
def layered : Context :=
  ⟨(View.base ∅).branch.setIn StoreName.supply.keyStart keyStart [3], 1, []⟩

end Sample

/-- A token that was replaced is listed as it was written last, beside the one whose symbol its own
starts with, and neither of them can be created again. -/
theorem list_eq_lastWritten_sample : ∃ after,
    (actionAll Sample.calls : Action BaseError Unit).perform Sample.layered = (.ok (), after) ∧
    ∃ tokens, (list : Action BaseError (List Token)).perform after = (.ok tokens, after) ∧
      Sample.token "bark" 1 ∈ tokens ∧ Sample.token "barks" 7 ∈ tokens ∧
      Sample.token "barks" 5 ∉ tokens ∧
      ((create (Sample.token "bark" 2) : Action BaseError Unit).perform after).1 =
        .error (.faulted (.duplicateToken "bark")) := by
  have nothing : ∀ key, Sample.layered.view.getIn StoreName.asset.keyStart key = none :=
    congrFun (View.getIn_writeIn_of_apart (View.base ∅).branch StoreName.supply.keyStart
      (StoreName.apart_keyStart (by decide)) (keyStart, some [3]))
  have fits : ∀ call ∈ Sample.calls, call.token.Fits := by
    intro call member
    have compact : call.token.Compact := by
      simp only [Sample.calls, List.mem_cons, List.not_mem_nil, or_false] at member
      rcases member with rfl | rfl | rfl <;> exact ⟨by decide, by decide, by decide⟩
    exact compact.fits
  obtain ⟨after, performed⟩ : ∃ after, (actionAll Sample.calls : Action BaseError Unit).perform
      Sample.layered = (.ok (), after) := ⟨_, rfl⟩
  obtain ⟨tokens, listed, _, members, _, writing⟩ := list_eq_lastWritten nothing fits performed
  have first : Sample.token "bark" 1 ∈ tokens := (members _).mpr (by decide)
  have second : Sample.token "barks" 7 ∈ tokens := (members _).mpr (by decide)
  have old : Sample.token "barks" 5 ∉ tokens := fun member =>
    absurd ((members _).mp member) (by decide)
  obtain ⟨taken, _⟩ := writing (Sample.token "bark" 2)
  exact ⟨after, performed, tokens, listed, first, second, old,
    congrArg Prod.fst (taken ⟨_, first, rfl⟩).1⟩

end TokenBook

end TokenLedger
