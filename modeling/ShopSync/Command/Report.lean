import ShopSync.Sync.Service

/-!
What a command prints: one document with its data, its errors by marketplace, and warnings.
-/

namespace ShopSync.Command

open Json (Value)

/-- One failed operation of a command. -/
structure ReportError where
  code : String
  message : String
  marketplace : Option MarketplaceId
  retryable : Option Bool
deriving DecidableEq

namespace ReportError

/-- What is reported of an error. -/
def ofSyncError (marketplace : Option MarketplaceId) (e : SyncError) : ReportError where
  code := e.code
  message := e.message
  marketplace
  retryable := e.market?.map MarketError.retryable

/-- The error as JSON. -/
def toJson (e : ReportError) : Value :=
  .object
    ([("code", .string e.code), ("message", .string e.message)]
      ++ Value.optionalMember "marketplace" MarketplaceId.toJson e.marketplace
      ++ Value.optionalMember "retryable" .bool e.retryable)

end ReportError

/-- What came of a command. -/
structure Report where
  data : Value
  warnings : List String := []
  errors : List ReportError := []

namespace Report

/-- The warning when there is nothing to do. -/
def nobodyActive : String := "no configured and enabled marketplace"

/-- The report of an operation on several marketplaces: what succeeded as data, by marketplace, and
what failed as errors. -/
def ofFanOut (f : α → Value) (outcomes : FanOut α) : Report :=
  let data := outcomes.filterMap fun (id, outcome) =>
    outcome.toOption.map fun a => (id.tag, f a)
  let errors := outcomes.filterMap fun (id, outcome) =>
    match outcome with
    | .ok _ => none
    | .error e => some (ReportError.ofSyncError (some id) e)
  { data := .object data
    errors
    warnings := if data.isEmpty && errors.isEmpty then [nobodyActive] else [] }

/-- The report with warnings added. -/
def withWarnings (report : Report) (warnings : List String) : Report :=
  { report with warnings := report.warnings ++ warnings }

end Report

/-- The version of the document. -/
def schemaVersion : String := "v1"

/-- The document that is printed. -/
structure Envelope where
  requestId : Uuid
  command : String
  generatedAt : Timestamp
  latencyMs : Nat
  report : Report

namespace Envelope

/-- The envelope as JSON; the members of its data are in the order of their keys. -/
def toJson (e : Envelope) : Value :=
  .object
    [("meta", .object
        [("request_id", e.requestId.toJson), ("schema_version", .string schemaVersion),
          ("command", .string e.command), ("generated_at", e.generatedAt.toJson),
          ("latency_ms", .ofNat e.latencyMs), ("warnings", .ofList .string e.report.warnings)]),
      ("data", e.report.data.sorted), ("errors", .ofList ReportError.toJson e.report.errors)]

/-- The text of the envelope, which ends with a line break. -/
def text (e : Envelope) (pretty : Bool) : String :=
  (if pretty then e.toJson.renderIndented else e.toJson.render) ++ "\n"

end Envelope

end ShopSync.Command
