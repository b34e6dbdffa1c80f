import ShopSync.Market.Registry
import ShopSync.Sync.Error

/-!
The sync service: operations on marketplaces by their names.

The service checks that a marketplace is ready, maps categories, marks prices up, takes imported
orders into the store once each, and keeps the result of every batch.  An operation talks to the
outside, may fail, and gives the service that follows.
-/

namespace ShopSync

open Number (Binary64)

/-- A service with its adapters, its store and the feeds that were generated. -/
structure Service (α τ : Type) where
  registry : Registry α
  store : τ
  feeds : List (MarketplaceId × Option String) := []

/-- What the service does step by step. -/
abbrev ServiceM (α τ : Type) := StateT (Service α τ) Dialogue

/-- An operation of the service that may fail. -/
abbrev Operation (α τ β : Type) := ExceptT SyncError (ServiceM α τ) β

/-- The outcome of an operation for every marketplace that took part. -/
abbrev FanOut (β : Type) := List (MarketplaceId × Except SyncError β)

/-- Orders are looked back this many days when there is no earlier import to go by. -/
def lookbackDays : Int := 7

/-- What an import found. -/
structure OrderImport where
  since : Timestamp
  /-- The orders that were not known before. -/
  newOrders : List Order
  /-- How many orders were known already. -/
  duplicates : Nat
  result : SyncResult
deriving DecidableEq

/-- The import as JSON. -/
def OrderImport.toJson (i : OrderImport) : Json.Value :=
  .object
    [("since", i.since.toJson), ("new_orders", .ofList Order.toJson i.newOrders),
      ("duplicates", .ofNat i.duplicates), ("result", i.result.toJson)]

/-- How things stand with a marketplace. -/
structure MarketplaceStatus where
  marketplace : MarketplaceId
  configured : Bool
  enabled : Bool
  capabilities : List String
  /-- When the last export ended. -/
  lastSync : Option Timestamp
  lastSyncStatus : Option SyncStatus
  /-- How many products the last export had. -/
  productCount : Nat
deriving DecidableEq

/-- The status as JSON. -/
def MarketplaceStatus.toJson (s : MarketplaceStatus) : Json.Value :=
  .object
    ([("marketplace", s.marketplace.toJson), ("configured", .bool s.configured),
        ("enabled", .bool s.enabled), ("capabilities", .ofList .string s.capabilities)]
      ++ Json.Value.optionalMember "last_sync" Timestamp.toJson s.lastSync
      ++ Json.Value.optionalMember "last_sync_status" SyncStatus.toJson s.lastSyncStatus
      ++ [("product_count", .ofNat s.productCount)])

namespace Operation

/-- What an adapter does, as a step of the service. -/
def ofAttempt (attempt : Attempt β) : Operation α τ β :=
  ExceptT.mk (do
    let outcome ← (attempt.run : Dialogue _)
    pure (outcome.mapError .market))

/-- The answer of the registry or of an adapter. -/
def ofMarket (answer : Except MarketError β) : Operation α τ β :=
  ExceptT.mk (pure (answer.mapError .market))

/-- The answer of the store. -/
def ofStore (answer : Except StoreError β) : Operation α τ β :=
  ExceptT.mk (pure (answer.mapError .store))

end Operation

namespace Service

/-! ### Categories -/

/-- The category that the last mapping for a category of the shop leads to. -/
def targetOf? (mappings : List CategoryMapping) (categoryId : String) : Option String :=
  (mappings.reverse.find? fun m => m.shopCategoryId = categoryId).map
    CategoryMapping.marketplaceCategoryId

/-- The product under its category of the marketplace, or as it is without a mapping. -/
def mapCategory (mappings : List CategoryMapping) (product : Product) : Product :=
  { product with categoryId := (targetOf? mappings product.categoryId).getD product.categoryId }

variable {α τ : Type} [Marketplace α] [SyncStore τ]

/-- The mappings in force for an adapter; those of the store come last, and so count first. -/
def mappingsFor (adapter : α) : Operation α τ (List CategoryMapping) := do
  let service ← get
  let stored ← Operation.ofStore (SyncStore.mappings service.store (Marketplace.id adapter))
  let own := ((Marketplace.config? adapter).map Config.categoryMappings).getD []
  pure (own ++ stored)

/-! ### Adapters -/

/-- The adapter of a marketplace. -/
def adapter (id : MarketplaceId) : Operation α τ α := do
  let service ← get
  Operation.ofMarket (service.registry.find id)

/-- The adapter of a marketplace, which has to have all credentials. -/
def readyAdapter (id : MarketplaceId) : Operation α τ α := do
  let service ← get
  Operation.ofMarket (service.registry.findReady id)

/-- Does something with every active adapter, one after another. -/
def forActive (f : α → Operation α τ β) : ServiceM α τ (FanOut β) := do
  let service ← get
  service.registry.active.mapM fun adapter => do
    let outcome ← (f adapter).run
    pure (Marketplace.id adapter, outcome)

/-- Forgets the feed of a marketplace. -/
def invalidateFeed (id : MarketplaceId) : ServiceM α τ Unit :=
  modify fun service => { service with feeds := Keyed.erase id service.feeds }

/-- Replaces the configuration of a marketplace, as a whole. -/
def configure (config : Config) : Operation α τ Unit := do
  let old ← adapter config.marketplace
  let new ← ExceptT.mk (pure ((Marketplace.configure old config).mapError .config))
  modify fun service => { service with registry := service.registry.register new }
  ExceptT.lift (invalidateFeed (Marketplace.id new))

/-! ### Batches -/

/-- Keeps a result; a store that refuses it does not matter to the caller. -/
def record (result : SyncResult) : ServiceM α τ Unit :=
  modify fun service =>
    match SyncStore.saveResult service.store result with
    | .ok store => { service with store }
    | .error _ => service

/-- Exports products to one marketplace. -/
def exportProducts (id : MarketplaceId) (products : List Product) (signal : Signal) :
    Operation α τ SyncResult := do
  let adapter ← readyAdapter id
  let mappings ← mappingsFor adapter
  let result ← Operation.ofAttempt
    (Marketplace.exportProducts adapter (products.map (mapCategory mappings)) signal)
  ExceptT.lift (record result)
  pure result

/-- Exports products to every active marketplace. -/
def exportAll (products : List Product) (signal : Signal) : ServiceM α τ (FanOut SyncResult) :=
  forActive fun adapter => exportProducts (Marketplace.id adapter) products signal

/-- Where an import starts when the caller does not say: where the last import that nothing stopped
early was started, or some days back. -/
def defaultSince (id : MarketplaceId) : Operation α τ Timestamp := do
  let service ← get
  match ← Operation.ofStore (SyncStore.lastUninterrupted? service.store id .inbound) with
  | some result => pure result.startedAt
  | none =>
    let now ← (Dialogue.moment : Dialogue _)
    pure (now.wall.subDays lookbackDays)

/-- Takes an order into the store and says whether it was new. -/
def saveOrder (order : Order) : Operation α τ Bool := do
  let service ← get
  let (isNew, store) ← Operation.ofStore (SyncStore.saveOrder service.store order)
  set { service with store }
  pure isNew

/-- Takes orders into the store and gives those that were new. -/
def saveOrders : List Order → Operation α τ (List Order)
  | [] => pure []
  | order :: rest => do
    let isNew ← saveOrder order
    let newOrders ← saveOrders rest
    pure (if isNew then order :: newOrders else newOrders)

/-- Imports the orders of one marketplace.  The result starts before the first request, so that the
next import misses nothing, and a signal that has fired by the end is noted in it. -/
def importOrders (id : MarketplaceId) (since : Option Timestamp) (signal : Signal) :
    Operation α τ OrderImport := do
  let adapter ← readyAdapter id
  let since ← match since with
    | some since => pure since
    | none => defaultSince id
  let started ← (Dialogue.moment : Dialogue _)
  let orders ← Operation.ofAttempt (Marketplace.importOrders adapter since signal)
  let resultId ← (Dialogue.freshId : Dialogue _)
  let newOrders ← saveOrders orders
  let running := SyncResult.start resultId id .inbound orders.length started.wall
  let counted := orders.foldl (fun result _ => result.recordSuccess) running
  let now ← (Dialogue.moment : Dialogue _)
  let stopped := match signal.interruption? now with
    | some interruption => counted.interrupt interruption
    | none => counted
  let ended ← (Dialogue.moment : Dialogue _)
  let result := stopped.finish ended.wall
  ExceptT.lift (record result)
  pure { since, newOrders, duplicates := orders.length - newOrders.length, result }

/-- Imports the orders of every active marketplace. -/
def importAll (signal : Signal) : ServiceM α τ (FanOut OrderImport) :=
  forActive fun adapter => importOrders (Marketplace.id adapter) none signal

/-! ### Single items -/

/-- Writes the existing listing of a product. -/
def updateProduct (id : MarketplaceId) (product : Product) : Operation α τ Unit := do
  let adapter ← readyAdapter id
  let mappings ← mappingsFor adapter
  Operation.ofAttempt (Marketplace.updateProduct adapter (mapCategory mappings product))

/-- Sets the quantity of a listing. -/
def updateStock (id : MarketplaceId) (sku : Sku) (quantity : UInt32) : Operation α τ Unit := do
  let adapter ← readyAdapter id
  Operation.ofAttempt (Marketplace.updateStock adapter sku quantity)

/-- Sets a quantity on every active marketplace. -/
def updateStockAll (sku : Sku) (quantity : UInt32) : ServiceM α τ (FanOut Unit) :=
  forActive fun adapter => Operation.ofAttempt (Marketplace.updateStock adapter sku quantity)

/-- Sets the price of a listing, as it is given. -/
def updatePrice (id : MarketplaceId) (sku : Sku) (price : Binary64) : Operation α τ Unit := do
  let adapter ← readyAdapter id
  Operation.ofAttempt (Marketplace.updatePrice adapter sku price)

/-- The price on a marketplace, with its markup. -/
def markedUp (adapter : α) (price : Binary64) : Binary64 :=
  match Marketplace.config? adapter with
  | some config => config.applyMarkup price
  | none => price

/-- Sets a price on every active marketplace, with the markup of each. -/
def updatePriceAll (sku : Sku) (price : Binary64) : ServiceM α τ (FanOut Unit) :=
  forActive fun adapter =>
    Operation.ofAttempt (Marketplace.updatePrice adapter sku (markedUp adapter price))

/-- Deletes the listing of a SKU. -/
def deleteProduct (id : MarketplaceId) (sku : Sku) : Operation α τ Unit := do
  let adapter ← readyAdapter id
  Operation.ofAttempt (Marketplace.deleteProduct adapter sku)

/-! ### Orders -/

/-- Sets the status of a stored order; an order that was never imported is passed over. -/
def setStoredStatus (id : MarketplaceId) (orderId status : String) : Operation α τ Unit := do
  let service ← get
  let (_, store) ← Operation.ofStore
    (SyncStore.setOrderStatus service.store id orderId status)
  set { service with store }

/-- Sets the status of an order, first on the marketplace and then in the store. -/
def updateOrderStatus (id : MarketplaceId) (orderId status : String) : Operation α τ Unit := do
  let adapter ← readyAdapter id
  Operation.ofAttempt (Marketplace.updateOrderStatus adapter orderId status)
  setStoredStatus id orderId status

/-- The status of an order that was sent. -/
def shippedStatus : String := "shipped"

/-- Tells the marketplace how an order was sent. -/
def markAsShipped (id : MarketplaceId) (orderId : String) (shipment : Shipment) :
    Operation α τ Unit := do
  let adapter ← readyAdapter id
  Operation.ofAttempt (Marketplace.markAsShipped adapter orderId shipment)
  setStoredStatus id orderId shippedStatus

/-! ### Categories and feeds -/

/-- The categories of a marketplace. -/
def categories (id : MarketplaceId) : Operation α τ (List Category) := do
  let adapter ← adapter id
  Operation.ofAttempt (Marketplace.categories adapter)

/-- Keeps a category mapping for a marketplace. -/
def saveMapping (id : MarketplaceId) (mapping : CategoryMapping) : Operation α τ Unit := do
  let service ← get
  let store ← Operation.ofStore (SyncStore.saveMapping service.store id mapping)
  set { service with store }

/-- The category mappings that are kept for a marketplace. -/
def mappings (id : MarketplaceId) : Operation α τ (List CategoryMapping) := do
  let service ← get
  Operation.ofStore (SyncStore.mappings service.store id)

/-- Generates the feed of a marketplace anew and keeps it. -/
def generateFeed (id : MarketplaceId) (products : List Product) :
    Operation α τ (Option String) := do
  let adapter ← adapter id
  let mappings ← mappingsFor adapter
  let feed ← Operation.ofAttempt
    (Marketplace.generateFeed adapter (products.map (mapCategory mappings)))
  modify fun service => { service with feeds := Keyed.put id feed service.feeds }
  pure feed

/-- The feed of a marketplace: the one that was kept, unless there is none or a new one is asked
for. -/
def feed (id : MarketplaceId) (products : List Product) (regenerate : Bool) :
    Operation α τ (Option String) := do
  let service ← get
  match Keyed.get? id service.feeds, regenerate with
  | some feed, false => pure feed
  | _, _ => generateFeed id products

/-! ### Reports -/

/-- How things stand with the marketplace of an adapter. -/
def statusOf (adapter : α) : Operation α τ MarketplaceStatus := do
  let service ← get
  let id := Marketplace.id adapter
  let configured := Marketplace.isConfigured adapter
  let last ←
    if configured then Operation.ofStore (SyncStore.lastResult? service.store id .outbound)
    else pure none
  pure
    { marketplace := id
      configured
      enabled := Marketplace.isEnabled adapter
      capabilities := (Marketplace.capabilities adapter).supported
      lastSync := last.bind SyncResult.completedAt
      lastSyncStatus := last.map SyncResult.status
      productCount := (last.map SyncResult.total).getD 0 }

/-- How things stand with every marketplace. -/
def status : Operation α τ (List MarketplaceStatus) := do
  let service ← get
  service.registry.adapters.mapM statusOf

/-- The results of a marketplace, newest first, up to a limit. -/
def history (id : MarketplaceId) (limit : Nat) : Operation α τ (List SyncResult) := do
  let _ ← adapter id
  let service ← get
  Operation.ofStore (SyncStore.history service.store id limit)

end Service

end ShopSync
