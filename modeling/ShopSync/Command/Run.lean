import ShopSync.Command.Invocation
import ShopSync.Command.Report

/-!
Carrying out an invocation.

The service is set up from the configurations and the state file, the task is carried out, and the
state file is written back; only then is anything reported.  What goes wrong before leaves the
state file as it was.
-/

namespace ShopSync.Command

open Json (Value Decoder)

/-- Why there is no report. -/
inductive RunError where
  | validation (cause : ValidationError)
  | config (cause : ConfigError)
  | sync (cause : SyncError)
  /-- A file cannot be read. -/
  | input (path : String) (cause : FileError)
  /-- A file does not hold what it should. -/
  | decode (path expected : String)
  /-- The state file cannot be written. -/
  | output (cause : FileError)
deriving DecidableEq

namespace RunError

/-- The wording of the error. -/
def message : RunError → String
  | validation cause => cause.message
  | config cause => cause.message
  | sync cause => cause.message
  | input path cause => s!"cannot read '{path}': {cause.message}"
  | decode path expected => s!"'{path}' is not valid JSON for {expected}"
  | output cause => cause.message

/-- The exit code of the program. -/
def exitCode : RunError → Nat
  | validation _ => 2
  | config _ => 2
  | decode _ _ => 2
  | sync _ => 3
  | input _ _ => 10
  | output _ => 10

end RunError

/-- The service that commands work with. -/
abbrev CommandService := Service Etsy.Adapter MemoryStore

/-- A step of a run: it talks to the outside and may fail. -/
abbrev Run (α : Type) := ExceptT RunError Dialogue α

/-- A step of a task: it may also change the service. -/
abbrev TaskM (α : Type) := ExceptT RunError (ServiceM Etsy.Adapter MemoryStore) α

/-! ### Setting up -/

/-- Reads a file of JSON. -/
def readJson (path expected : String) (d : Decoder α) : Run α := do
  match ← Dialogue.readFile path with
  | .error e => throw (.input path e)
  | .ok content =>
    match Decoder.decode? d content with
    | some a => pure a
    | none => throw (.decode path expected)

/-- The registry with another time limit for every adapter that has a configuration. -/
def withTimeout (timeoutMs : UInt64) (registry : Registry Etsy.Adapter) :
    Except ConfigError (Registry Etsy.Adapter) :=
  registry.adapters.foldlM (fun registry adapter =>
    match Marketplace.config? adapter with
    | some config =>
      if config.timeoutMs = timeoutMs then pure registry
      else do
        let adapter ← Marketplace.configure adapter { config with timeoutMs }
        pure (registry.register adapter)
    | none => pure registry) registry

/-- The registry for an invocation. -/
def setUpRegistry (inv : Invocation) (environment : String → Option String) :
    Run (Registry Etsy.Adapter) := do
  let configs ← match inv.configPath with
    | some path => readJson path "marketplace configs" (Decoder.list Config.decoder)
    | none => pure []
  let source := if inv.configPath.isSome then none else some environment
  let registry ← ExceptT.mk (pure ((Registry.build configs source).mapError .config))
  match inv.timeoutMs with
  | some timeoutMs => ExceptT.mk (pure ((withTimeout timeoutMs registry).mapError .config))
  | none => pure registry

/-- The store for an invocation: what the state file holds, if there is one. -/
def setUpStore (inv : Invocation) : Run MemoryStore := do
  match inv.statePath with
  | none => pure {}
  | some path =>
    if ← Dialogue.fileExists path then
      let snapshot ← readJson path "sync state" Snapshot.decoder
      pure (.ofSnapshot snapshot)
    else pure {}

/-- Writes the store to the state file, if one is in use. -/
def persist (inv : Invocation) (store : MemoryStore) : Run Unit := do
  match inv.statePath with
  | none => pure ()
  | some path =>
    match ← Dialogue.writeFile path store.snapshot.toJson.renderIndented with
    | .ok () => pure ()
    | .error e => throw (.output e)

/-! ### Tasks -/

/-- An operation on one marketplace, reported like one on several. -/
def alone (id : MarketplaceId) (operation : Operation Etsy.Adapter MemoryStore α) :
    TaskM (FanOut α) := do
  let outcome ← ExceptT.lift operation.run
  pure [(id, outcome)]

/-- An operation whose failure is that of the whole task. -/
def whole (operation : Operation Etsy.Adapter MemoryStore α) : TaskM α :=
  ExceptT.mk do
    let outcome ← operation.run
    pure (outcome.mapError .sync)

/-- An operation on the marketplace that is named, or else on every active one. -/
def onChosen (chosen : Option MarketplaceId)
    (one : MarketplaceId → Operation Etsy.Adapter MemoryStore α)
    (all : ServiceM Etsy.Adapter MemoryStore (FanOut α)) : TaskM (FanOut α) :=
  match chosen with
  | some id => alone id (one id)
  | none => ExceptT.lift all

/-- A value from the command line that has to be valid. -/
def valid (x : Except ValidationError α) : TaskM α :=
  ExceptT.mk (pure (x.mapError .validation))

/-- The products of a file, each with a valid price. -/
def loadProducts (path : String) : Run (List Product) := do
  let products ← readJson path "a product list" (Decoder.list Product.decoder)
  for product in products do
    ExceptT.mk (pure (product.validate.mapError .validation))
  pure products

/-- What to say about a batch that did not do everything. -/
def batchWarning? (result : SyncResult) : Option String :=
  match result.interruption with
  | some interruption =>
    some s!"stopped early ({interruption.describe}); {result.remaining} item(s) not processed"
  | none =>
    if result.hasPartialFailure then some s!"{result.failed} of {result.total} item(s) failed"
    else none

/-- What to say about an import that was stopped. -/
def importWarning? (i : OrderImport) : Option String :=
  i.result.interruption.map fun interruption =>
    s!"import stopped early ({interruption.describe}); run again to fetch the rest"

/-- The warnings about operations that succeeded, each with its marketplace. -/
def warningsAbout (warning? : α → Option String) (outcomes : FanOut α) : List String :=
  outcomes.filterMap fun (id, outcome) =>
    (outcome.toOption.bind warning?).map fun warning => s!"{id.tag}: {warning}"

/-- The warning when no marketplace is configured. -/
def nobodyConfigured : String :=
  "no marketplace has credentials; see --config or MARKETSYNC_* env vars"

/-- The data of a status report. -/
def statusReport (statuses : List MarketplaceStatus) : Report where
  data := .object [("marketplaces", .ofList MarketplaceStatus.toJson statuses)]
  warnings := if statuses.any MarketplaceStatus.configured then [] else [nobodyConfigured]

/-- Carries out a task. -/
def carryOut (signal : Signal) : Task → TaskM Report
  | .status => do
    let statuses ← whole Service.status
    pure (statusReport statuses)
  | .exportProducts path chosen => do
    let products ← ExceptT.mk (StateT.lift (loadProducts path).run)
    let outcomes ← onChosen chosen (fun id => Service.exportProducts id products signal)
      (Service.exportAll products signal)
    pure ((Report.ofFanOut SyncResult.toJson outcomes).withWarnings
      (warningsAbout batchWarning? outcomes))
  | .importOrders since chosen => do
    let since ← match since with
      | none => pure none
      | some text => do pure (some (← valid (Timestamp.parse text)))
    let outcomes ← onChosen chosen (fun id => Service.importOrders id since signal)
      (Service.forActive fun adapter =>
        Service.importOrders (Marketplace.id adapter) since signal)
    pure ((Report.ofFanOut OrderImport.toJson outcomes).withWarnings
      (warningsAbout importWarning? outcomes))
  | .stock sku quantity chosen => do
    let sku ← valid (Sku.parse sku)
    let outcomes ← onChosen chosen (fun id => Service.updateStock id sku quantity)
      (Service.updateStockAll sku quantity)
    pure (Report.ofFanOut (fun _ =>
      .object [("sku", sku.toJson), ("quantity", .ofNat quantity.toNat)]) outcomes)
  | .price sku price chosen => do
    let sku ← valid (Sku.parse sku)
    let outcomes ← onChosen chosen (fun id => Service.updatePrice id sku price)
      (Service.updatePriceAll sku price)
    let key := if chosen.isSome then "price" else "base_price"
    pure (Report.ofFanOut (fun _ => .object
      [("sku", sku.toJson), (key, .ofReal price), ("markup_applied", .bool chosen.isNone)])
      outcomes)
  | .delete sku id => do
    let sku ← valid (Sku.parse sku)
    let outcomes ← alone id (Service.deleteProduct id sku)
    pure (Report.ofFanOut (fun _ =>
      .object [("sku", sku.toJson), ("deleted", .bool true)]) outcomes)
  | .categories id => do
    let outcomes ← alone id (Service.categories id)
    pure (Report.ofFanOut (fun categories => .object
      [("count", .ofNat categories.length), ("categories", .ofList Category.toJson categories)])
      outcomes)
  | .ship orderId carrier trackingCode id => do
    let shipment : Shipment :=
      { carrier := Text.trim carrier, trackingCode := Text.trim trackingCode }
    let outcomes ← alone id (Service.markAsShipped id orderId shipment)
    pure (Report.ofFanOut (fun _ => .object
      [("order_id", .string orderId), ("status", .string Service.shippedStatus),
        ("shipment", shipment.toJson)]) outcomes)
  | .orderStatus orderId status id => do
    let outcomes ← alone id (Service.updateOrderStatus id orderId status)
    pure (Report.ofFanOut (fun _ => .object
      [("order_id", .string orderId), ("status", .string status)]) outcomes)
  | .history id limit => do
    let results ← whole (Service.history id limit)
    let data : Value :=
      .object [("marketplace", id.toJson), ("results", .ofList SyncResult.toJson results)]
    pure { data }

/-! ### Runs -/

/-- The signal for an invocation at its start, which the token cancels. -/
def Invocation.signal (inv : Invocation) (token : Nat) (start : Moment) : Signal :=
  let signal : Signal := { token }
  match inv.deadlineSecs with
  | some seconds => signal.withTimeout start (1000 * seconds.toNat)
  | none => signal

/-- Carries out an invocation. -/
def Invocation.run (inv : Invocation) (environment : String → Option String) (token : Nat) :
    Run Envelope := do
  let start ← Dialogue.moment
  let registry ← setUpRegistry inv environment
  let store ← setUpStore inv
  let service : CommandService := { registry, store }
  let (outcome, service) ← (carryOut (inv.signal token start) inv.task).run.run service
  let report ← ExceptT.mk (pure outcome)
  persist inv service.store
  let requestId ← Dialogue.freshId
  let now ← Dialogue.moment
  pure
    { requestId
      command := inv.task.name
      generatedAt := now.wall
      latencyMs := now.uptime - start.uptime
      report }

/-- How a run of the program ends. -/
inductive Outcome where
  | usage (cause : UsageError)
  | failed (cause : RunError)
  | reported (pretty : Bool) (envelope : Envelope)

namespace Outcome

/-- The exit code of the program. -/
def exitCode : Outcome → Nat
  | usage .help => 0
  | usage .version => 0
  | usage _ => 2
  | failed cause => cause.exitCode
  | reported _ envelope => if envelope.report.errors.isEmpty then 0 else 3

/-- What is printed to the standard output. -/
def output : Outcome → String
  | reported pretty envelope => envelope.text pretty
  | _ => ""

end Outcome

/-- Runs the program with its arguments. -/
def execute (args : List String) (environment : String → Option String) (token : Nat) :
    Dialogue Outcome := do
  match Invocation.ofArguments args with
  | .error cause => pure (.usage cause)
  | .ok inv =>
    match ← (inv.run environment token).run with
    | .error cause => pure (.failed cause)
    | .ok envelope => pure (.reported inv.pretty envelope)

end ShopSync.Command
