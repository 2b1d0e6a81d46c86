import TokenLedger.Proofs.Ledger.Listing
import TokenLedger.Query

/-!
# What queries are answered

Queries read a ledger and leave it as it is. Where tokens stand under their symbols and all
parameters are set, every query about tokens is answered with what the ledger says, or refused for a
cause that lies in the query; none runs into a fault. The window of a page lies inside the list that
it is taken from.
-/

namespace TokenLedger.Query

open TokenLedger.Action

variable {ledger : Ledger} {params : Params}

/-- The window of a page lies inside the list. -/
theorem window?_inside {length : Nat} {page limit defaultLimit : UInt64} {window : Window}
    (found : window? length page limit defaultLimit = some window) :
    window.start ≤ window.stop ∧ window.stop ≤ length := by
  unfold window? at found
  simp only at found
  generalize (if limit = 0 then defaultLimit else limit).toNat = size at found
  split at found
  · contradiction
  split at found
  · contradiction
  split at found
  · contradiction
  injection found with found
  subst found
  simp only
  omega

/-- What a query about tokens is answered, by its path behind the name of the module. -/
inductive Answered (ledger : Ledger) (params : Params) (body : Bytes) : List String → String → Prop
  /-- The parameters. -/
  | params {rest : List String} : Answered ledger params body ("params" :: rest) (answer params)
  /-- The token of a symbol. -/
  | token {symbol : String} {rest : List String} {token : Token}
    (found : ledger.token symbol = some token) :
    Answered ledger params body ("get" :: symbol :: rest) (answer token)
  /-- A page of all tokens. -/
  | page {rest : List String} {request : PageRequest} {listed : List Token}
    (asked : JsonForm.readBytes? body = some request) (tokens : ledger.Tokens listed) :
    Answered ledger params body ("list" :: rest)
      (answer (slice listed (window? listed.length request.page request.limit defaultLimit)))

/-- Why a query about tokens is refused. -/
inductive Unanswered (ledger : Ledger) (body : Bytes) : List String → BaseError → Prop
  /-- No symbol is named. -/
  | noSymbol : Unanswered ledger body ["get"] .missingSymbol
  /-- There is no such token. -/
  | noToken {symbol : String} {rest : List String} (absent : ledger.token symbol = none) :
    Unanswered ledger body ("get" :: symbol :: rest) (.noSuchToken symbol)
  /-- The body asks for no page. -/
  | noPage {rest : List String}
    (malformed : (JsonForm.readBytes? body : Option PageRequest) = none) :
    Unanswered ledger body ("list" :: rest) .malformedPageRequest
  /-- The endpoint is not known. -/
  | endpoint {path : List String} (noParams : ∀ rest, path ≠ "params" :: rest)
    (noGet : ∀ rest, path ≠ "get" :: rest) (noList : ∀ rest, path ≠ "list" :: rest) :
    Unanswered ledger body path .unknownEndpoint

/-- The parameters are answered. -/
theorem yields_params (configured : ledger.Configured params) :
    Query.params.Yields ledger (answer params) ledger :=
  (Params.yields_load configured.maxDecimal configured.issueFee configured.mintFee).then
    (yields_pure ledger _)

/-- The token that a path names is answered, if it is there. -/
theorem runs_token (registered : ledger.Registered) (params : Params) (body : Bytes)
    (path : List String) :
    (token path).Runs ledger
      (fun given after emitted => Answered ledger params body ("get" :: path) given ∧
        ledger = after ∧ emitted = [])
      (Unanswered ledger body ("get" :: path)) := by
  cases path with
  | nil => exact runs_refuse .noSymbol
  | cons symbol rest =>
    refine (TokenBook.yields_find? fun token found => (registered symbol token found).2).bind ?_
    cases found : ledger.token symbol with
    | none => exact runs_refuse (.noToken found)
    | some token => exact (yields_pure ledger (answer token)).runs ⟨.token found, rfl, rfl⟩

/-- The page that a body asks for is answered. -/
theorem runs_tokens (registered : ledger.Registered) (params : Params) (body : Bytes)
    (rest : List String) :
    (tokens body).Runs ledger
      (fun given after emitted => Answered ledger params body ("list" :: rest) given ∧
        ledger = after ∧ emitted = [])
      (Unanswered ledger body ("list" :: rest)) := by
  unfold tokens
  cases asked : (JsonForm.readBytes? body : Option PageRequest) with
  | none => exact runs_refuse (.noPage asked)
  | some request =>
    refine (TokenBook.runs_list registered).bind_refused (fun _ never => never.elim) ?_
    rintro listed _ _ ⟨tokens, rfl, rfl⟩
    exact (yields_pure ledger _).runs ⟨.page asked tokens, rfl, rfl⟩

/-- A query about tokens is answered or refused for its path or its body. -/
theorem runs_answerAsset (registered : ledger.Registered) (configured : ledger.Configured params)
    (path : List String) (body : Bytes) :
    (answerAsset true path body).Runs ledger
      (fun given after emitted => Answered ledger params body path given ∧
        ledger = after ∧ emitted = [])
      (Unanswered ledger body path) := by
  unfold answerAsset
  simp only [Bool.not_true, Bool.false_eq_true, if_false]
  split
  · exact (yields_params configured).runs ⟨.params, rfl, rfl⟩
  · next rest => exact runs_token registered params body rest
  · next rest => exact runs_tokens registered params body rest
  · next noParams noGet noList => exact runs_refuse (.endpoint noParams noGet noList)

/-- A query that is answered is one about tokens that is let through; none runs into a fault. -/
theorem runs_route (registered : ledger.Registered) (configured : ledger.Configured params)
    (supported : Bool) (path : String) (body : Bytes) :
    (route supported path body).Runs ledger
      (fun given after emitted => (supported = true ∧ ∃ rest,
        pathParts path = "custom" :: "asset" :: rest ∧ Answered ledger params body rest given) ∧
          ledger = after ∧ emitted = [])
      fun _ => True := by
  unfold route
  split
  · next rest parts =>
    cases supported with
    | false => exact runs_refuse trivial
    | true =>
      refine (runs_answerAsset registered configured rest body).mono ?_ fun _ _ => trivial
      rintro given after emitted ⟨answered, unchanged⟩
      exact ⟨⟨rfl, rest, parts, answered⟩, unchanged⟩
  · exact runs_refuse trivial

end TokenLedger.Query
