import TokenLedger.Params
import TokenLedger.TokenBook

/-!
# Queries

Reads of the token module, addressed by a path: the parameters, one token, or a page of all tokens.
Answers are pretty JSON. Pages are numbered from one; all page arithmetic is on 64-bit words, and a
window that cannot be reached is empty.
-/

namespace TokenLedger

/-- Which page of a list is asked for. -/
structure PageRequest where
  /-- The page, from one. -/
  page : UInt64
  /-- The items of a page; zero asks for the usual number. -/
  limit : UInt64
  deriving DecidableEq

instance : JsonForm PageRequest where
  toJson request :=
    .record [("page", JsonForm.toJson request.page), ("limit", JsonForm.toJson request.limit)]
  ofJson? json := do
    let [page, limit] ← json.fields? [["page", "Page"], ["limit", "Limit"]] | none
    some { page := ← Json.required? page, limit := ← Json.required? limit }

namespace Query

variable {ε : Type}

/-- A range of positions of a list. -/
structure Window where
  /-- The first position. -/
  start : Nat
  /-- The position after the last. -/
  stop : Nat
  deriving DecidableEq, Repr

/-- The window of a page over `length` items, if it is not empty. Positions that do not fit in a
word are beyond every list. -/
def window? (length : Nat) (page limit defaultLimit : UInt64) : Option Window :=
  if page = 0 then none
  else
    let size := (if limit = 0 then defaultLimit else limit).toNat
    let start := (page.toNat - 1) * size
    if 1 <<< 64 ≤ start then none
    else if length ≤ start then none
    else some ⟨start, min (min (start + size) (1 <<< 64 - 1)) length⟩

/-- The items of a window. -/
def slice {α : Type} (items : List α) : Option Window → List α
  | some window => (items.take window.stop).drop window.start
  | none => []

/-- The number of items of a page that asks for the usual number. -/
def defaultLimit : UInt64 := 100

/-- An answer: a value as pretty JSON. -/
def answer {α : Type} [JsonForm α] (value : α) : String := JsonForm.writePretty value

/-- The parameters. -/
def params : Action BaseError String := do
  return answer (← Params.load)

/-- The token that the rest of a path names. -/
def token : List String → Action BaseError String
  | [] => Action.refuse .missingSymbol
  | symbol :: _ => do
    match ← TokenBook.find? symbol with
    | some token => return answer token
    | none => Action.refuse (.noSuchToken symbol)

/-- The page of tokens that a body asks for. -/
def tokens (body : Bytes) : Action BaseError String := do
  match (JsonForm.readBytes? body : Option PageRequest) with
  | none => Action.refuse .malformedPageRequest
  | some request =>
    let all ← TokenBook.list
    return answer (slice all (window? all.length request.page request.limit defaultLimit))

/-- Answers a query about tokens. Before tokens are introduced there is no answer. -/
def answerAsset (supported : Bool) (path : List String) (body : Bytes) : Action BaseError String :=
  if !supported then Action.refuse .queryNotSupported
  else
    match path with
    | "params" :: _ => params
    | "get" :: rest => token rest
    | "list" :: _ => tokens body
    | _ => Action.refuse .unknownEndpoint

/-- The parts of a path between slashes, as characters. -/
def splitSlashes : List Char → List (List Char)
  | [] => [[]]
  | c :: rest =>
    if c = '/' then [] :: splitSlashes rest
    else
      match splitSlashes rest with
      | part :: parts => (c :: part) :: parts
      | [] => [[c]]

/-- The parts of a path, slashes at its ends left out. -/
def pathParts (path : String) : List String :=
  let isSlash (c : Char) : Bool := c = '/'
  let inner := ((path.toList.dropWhile isSlash).reverse.dropWhile isSlash).reverse
  (splitSlashes inner).map String.ofList

/-- Answers a query by its whole path. -/
def route (supported : Bool) (path : String) (body : Bytes) : Action BaseError String :=
  match pathParts path with
  | "custom" :: "asset" :: rest => answerAsset supported rest body
  | _ => Action.refuse (.unknownPath path)

end Query

end TokenLedger
