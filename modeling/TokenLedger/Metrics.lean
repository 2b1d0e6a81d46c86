import TokenLedger.AssetError

/-!
# Metrics

What a node counts while it works: transactions and their outcome, tokens issued and minted, hooks,
and the height of the block it works on. Each count is also a published series; `MetricFamily`
describes the families of series in the order in which they are published.
-/

namespace TokenLedger

/-- Something a node counts. -/
inductive Counter where
  /-- Tokens issued. -/
  | issued
  /-- Mint operations. -/
  | minted
  /-- Deliveries whose duration was taken. -/
  | timed
  /-- Messages rejected with a code. -/
  | rejected (code : Nat)
  /-- Messages delivered into a block, by outcome. -/
  | delivered (accepted : Bool)
  /-- Hooks run at a phase. -/
  | hooksRun (phase : BlockPhase)
  deriving DecidableEq

/-- The counts of a node. -/
structure Metrics where
  /-- The counters used so far, in the order of their first use. -/
  counts : List (Counter × Nat)
  /-- The height of the block worked on. -/
  chainHeight : Height

namespace Metrics

/-- Nothing counted. -/
def empty : Metrics := ⟨[], 0⟩

/-- A list of counts with one counter advanced. -/
def advanceIn (counter : Counter) (amount : Nat) : List (Counter × Nat) → List (Counter × Nat)
  | [] => [(counter, amount)]
  | entry :: rest =>
    if entry.1 = counter then (entry.1, entry.2 + amount) :: rest
    else entry :: advanceIn counter amount rest

/-- Advances a counter. -/
def add (metrics : Metrics) (counter : Counter) (amount : Nat) : Metrics :=
  { metrics with counts := advanceIn counter amount metrics.counts }

/-- Counts one more. -/
def tick (metrics : Metrics) (counter : Counter) : Metrics := metrics.add counter 1

end Metrics

/-- A family of published series, in the order of publication. -/
inductive MetricFamily where
  /-- Mint operations. -/
  | mints
  /-- Rejections by code. -/
  | rejections
  /-- Tokens issued. -/
  | issues
  /-- The height of the block worked on. -/
  | height
  /-- Durations of deliveries. -/
  | durations
  /-- Deliveries by outcome. -/
  | deliveries
  /-- Hooks run by phase. -/
  | hooks
  deriving DecidableEq, Repr

namespace MetricFamily

/-- Every family, by ascending name. -/
def all : List MetricFamily :=
  [.mints, .rejections, .issues, .height, .durations, .deliveries, .hooks]

/-- The name of a family. -/
def name : MetricFamily → String
  | .mints => "bk_asset_mint_operations_total"
  | .rejections => "bk_asset_rejections_total"
  | .issues => "bk_asset_tokens_issued_total"
  | .height => "bk_chain_height"
  | .durations => "bk_tx_deliver_duration_seconds"
  | .deliveries => "bk_txs_delivered_total"
  | .hooks => "bk_upgrade_hooks_fired_total"

/-- What a family is about. -/
def help : MetricFamily → String
  | .mints => "Total successful mint operations"
  | .rejections => "Rejected asset messages by result code"
  | .issues => "Total tokens issued"
  | .height => "Height of the block being executed"
  | .durations => "Time spent delivering one transaction"
  | .deliveries => "Delivered transactions by outcome"
  | .hooks => "Upgrade hooks fired by block phase"

/-- The kind of a family. -/
def kind : MetricFamily → String
  | .height => "gauge"
  | .durations => "histogram"
  | .mints | .rejections | .issues | .deliveries | .hooks => "counter"

/-- A series told apart from others by the value of a label. -/
def labelled (name label value : String) : String :=
  name ++ "\x7b" ++ label ++ "=\"" ++ value ++ "\"\x7d"

/-- The upper bounds of the duration buckets in seconds: a hundred thousandth, doubled again and
again. -/
def bucketBounds : List String :=
  (List.range 15).map fun place =>
    let digits := Decimal.ofNat (1 <<< place)
    "0." ++ String.ofList (List.replicate (5 - digits.length) '0' ++ digits)

/-- Every code a rejection can carry, as texts in ascending order. -/
def rejectionCodes : List String :=
  ((AssetError.codes ++ BaseError.codes).map Decimal.text).mergeSort fun first second =>
    !decide (second < first)

/-- The series of a family. -/
def series (family : MetricFamily) : List String :=
  match family with
  | .mints | .issues | .height => [family.name]
  | .rejections => rejectionCodes.map (labelled family.name "code")
  | .deliveries => ["ok", "rejected"].map (labelled family.name "outcome")
  | .hooks => BlockPhase.all.map fun phase => labelled family.name "phase" phase.wireName
  | .durations =>
    (bucketBounds ++ ["+Inf"]).map (labelled (family.name ++ "_bucket") "le") ++
      [family.name ++ "_sum", family.name ++ "_count"]

/-- A family as it is published, without the values of its series. -/
def lines (family : MetricFamily) : List String :=
  ["# HELP " ++ family.name ++ " " ++ family.help,
    "# TYPE " ++ family.name ++ " " ++ family.kind] ++
    family.series

end MetricFamily

end TokenLedger
