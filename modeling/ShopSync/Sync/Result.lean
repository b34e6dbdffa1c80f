import ShopSync.Market.Error
import ShopSync.Signal
import ShopSync.Uuid

/-!
The report of one batch.

A result is pending, then running, then completed or failed, and never moves back.  Items count
only while it runs and only up to its total.  It fails when items failed and none succeeded, and
once it has ended nothing changes it.
-/

namespace ShopSync

/-- Where a batch moves data. -/
inductive Direction where
  /-- From the shop to a marketplace. -/
  | outbound
  /-- From a marketplace to the shop. -/
  | inbound
deriving DecidableEq, Repr

namespace Direction

/-- The name of a direction. -/
def name : Direction → String
  | outbound => "export"
  | inbound => "import"

/-- The direction with a name. -/
def ofName? (s : String) : Option Direction :=
  if s = "export" then some outbound
  else if s = "import" then some inbound
  else none

/-- The direction as JSON: its name. -/
def toJson (direction : Direction) : Json.Value := .string direction.name

/-- Reads a direction from JSON. -/
def decoder : Json.Decoder Direction := Json.Decoder.choice ofName?

end Direction

/-- How far a batch has come. -/
inductive SyncStatus where
  | pending
  | running
  | completed
  | failed
deriving DecidableEq, Repr

namespace SyncStatus

/-- Whether the batch has ended. -/
def isTerminal : SyncStatus → Bool
  | completed => true
  | failed => true
  | _ => false

/-- The name of a status. -/
def name : SyncStatus → String
  | pending => "pending"
  | running => "running"
  | completed => "completed"
  | failed => "failed"

/-- The status with a name. -/
def ofName? (s : String) : Option SyncStatus :=
  if s = "pending" then some pending
  else if s = "running" then some running
  else if s = "completed" then some completed
  else if s = "failed" then some failed
  else none

/-- The status as JSON: its name. -/
def toJson (status : SyncStatus) : Json.Value := .string status.name

/-- Reads a status from JSON. -/
def decoder : Json.Decoder SyncStatus := Json.Decoder.choice ofName?

end SyncStatus

/-- One failed item of a batch. -/
structure ItemError where
  sku : String
  message : String
  code : String
deriving DecidableEq, Repr

namespace ItemError

/-- The failed item as JSON. -/
def toJson (e : ItemError) : Json.Value :=
  .object [("sku", .string e.sku), ("message", .string e.message), ("code", .string e.code)]

/-- Reads a failed item from JSON. -/
def decoder : Json.Decoder ItemError :=
  .record ["sku", "message", "code"] fun fs => do
    let sku ← fs.required "sku" .text
    let message ← fs.required "message" .text
    let code ← fs.required "code" .text
    pure { sku, message, code }

end ItemError

/-- The report of a batch. -/
structure SyncResult where
  id : Uuid
  marketplace : MarketplaceId
  direction : Direction
  status : SyncStatus
  total : Nat
  processed : Nat
  success : Nat
  failed : Nat
  errors : List ItemError
  startedAt : Timestamp
  completedAt : Option Timestamp
  interruption : Option Interruption
deriving DecidableEq

namespace SyncResult

/-! ### Beginning -/

/-- A pending result for a number of items. -/
def new (id : Uuid) (marketplace : MarketplaceId) (direction : Direction) (total : Nat)
    (now : Timestamp) : SyncResult where
  id
  marketplace
  direction
  status := .pending
  total
  processed := 0
  success := 0
  failed := 0
  errors := []
  startedAt := now
  completedAt := none
  interruption := none

/-- Starts a pending result; any other stays as it is. -/
def begin (result : SyncResult) (now : Timestamp) : SyncResult :=
  if result.status = .pending then { result with status := .running, startedAt := now }
  else result

/-- A running result for a number of items. -/
def start (id : Uuid) (marketplace : MarketplaceId) (direction : Direction) (total : Nat)
    (now : Timestamp) : SyncResult :=
  (new id marketplace direction total now).begin now

/-! ### Items -/

/-- Whether another item counts. -/
def acceptsItems (result : SyncResult) : Bool :=
  result.status = .running && decide (result.processed < result.total)

/-- Counts a success. -/
def recordSuccess (result : SyncResult) : SyncResult :=
  if result.acceptsItems then
    { result with success := result.success + 1, processed := result.processed + 1 }
  else result

/-- Counts a failure and keeps what went wrong. -/
def recordFailure (result : SyncResult) (sku : String) (e : MarketError) : SyncResult :=
  if result.acceptsItems then
    { result with
      failed := result.failed + 1
      processed := result.processed + 1
      errors := result.errors ++ [{ sku, message := e.text, code := e.code }] }
  else result

/-! ### Ending -/

/-- Notes why the batch stopped before its end. -/
def interrupt (result : SyncResult) (interruption : Interruption) : SyncResult :=
  if result.status.isTerminal then result
  else { result with interruption := some interruption }

/-- Ends a result that has not ended yet. -/
def finish (result : SyncResult) (now : Timestamp) : SyncResult :=
  if result.status.isTerminal then result
  else
    { result with
      status := if 0 < result.failed ∧ result.success = 0 then .failed else .completed
      completedAt := some now }

/-! ### Views -/

/-- Items that were never tried. -/
def remaining (result : SyncResult) : Nat := result.total - result.processed

/-- Whether the batch completed with failed items. -/
def hasPartialFailure (result : SyncResult) : Bool :=
  result.status = .completed && decide (0 < result.failed)

/-- Whether the batch ended and nothing stopped it before. -/
def isUninterrupted (result : SyncResult) : Bool :=
  result.status.isTerminal && result.interruption.isNone

/-- The result as JSON. -/
def toJson (result : SyncResult) : Json.Value :=
  .object
    ([("id", result.id.toJson), ("marketplace", result.marketplace.toJson),
        ("direction", result.direction.toJson), ("status", result.status.toJson),
        ("total_items", .ofNat result.total), ("processed_items", .ofNat result.processed),
        ("success_items", .ofNat result.success), ("failed_items", .ofNat result.failed),
        ("errors", .ofList ItemError.toJson result.errors),
        ("started_at", result.startedAt.toJson)]
      ++ Json.Value.optionalMember "completed_at" Timestamp.toJson result.completedAt
      ++ Json.Value.optionalMember "interruption" Interruption.toJson result.interruption)

/-- Reads a result from JSON. -/
def decoder : Json.Decoder SyncResult :=
  .record ["id", "marketplace", "direction", "status", "total_items", "processed_items",
      "success_items", "failed_items", "errors", "started_at", "completed_at",
      "interruption"] fun fs => do
    let id ← fs.required "id" Uuid.decoder
    let marketplace ← fs.required "marketplace" MarketplaceId.decoder
    let direction ← fs.required "direction" Direction.decoder
    let status ← fs.required "status" SyncStatus.decoder
    let total ← fs.required "total_items" .count
    let processed ← fs.required "processed_items" .count
    let success ← fs.required "success_items" .count
    let failed ← fs.required "failed_items" .count
    let errors ← fs.required "errors" (.list ItemError.decoder)
    let startedAt ← fs.required "started_at" Timestamp.decoder
    let completedAt ← fs.optional "completed_at" Timestamp.decoder
    let interruption ← fs.optional "interruption" Interruption.decoder
    pure { id, marketplace, direction, status, total, processed, success, failed, errors,
           startedAt, completedAt, interruption }

end SyncResult

end ShopSync
