import ShopSync.Catalog.Category
import ShopSync.Keyed
import ShopSync.Sync.OrderBook
import ShopSync.Sync.Result

/-!
What is kept between runs: results of batches, imported orders and category mappings.

`SyncStore` says what any store has to offer, and that each operation may fail; a failed one leaves
the store as it was.  `MemoryStore` is the store that never fails, and a `Snapshot` is its content
in the form of a document.
-/

namespace ShopSync

/-- Why a store did not do what it was asked. -/
inductive StoreError where
  /-- A writer failed half-way, and the content cannot be trusted any more. -/
  | poisoned
  | backend (message : String)
deriving DecidableEq, Repr

/-- The wording of the error. -/
def StoreError.message : StoreError → String
  | poisoned => "sync store lock was poisoned"
  | backend message => s!"sync store backend failure: {message}"

/-- Stores of results, orders and category mappings. -/
class SyncStore (τ : Type) where
  /-- Keeps a result; one with the same id is replaced. -/
  saveResult : τ → SyncResult → Except StoreError τ
  /-- The newest result of a marketplace in one direction. -/
  lastResult? : τ → MarketplaceId → Direction → Except StoreError (Option SyncResult)
  /-- The newest result of a marketplace in one direction that nothing stopped early. -/
  lastUninterrupted? : τ → MarketplaceId → Direction → Except StoreError (Option SyncResult)
  /-- Results of a marketplace, newest first, up to a limit. -/
  history : τ → MarketplaceId → (limit : Nat) → Except StoreError (List SyncResult)
  /-- Takes in an order and says whether it was new; an order that is there already stays. -/
  saveOrder : τ → Order → Except StoreError (Bool × τ)
  order? : τ → MarketplaceId → (orderId : String) → Except StoreError (Option Order)
  /-- Sets the status of an order and says whether there is one. -/
  setOrderStatus : τ → MarketplaceId → (orderId status : String) → Except StoreError (Bool × τ)
  mappings : τ → MarketplaceId → Except StoreError (List CategoryMapping)
  /-- Keeps a mapping; one for the same category of the shop is replaced. -/
  saveMapping : τ → MarketplaceId → CategoryMapping → Except StoreError τ

/-- A store in memory. -/
structure MemoryStore where
  /-- Results, oldest first. -/
  results : List SyncResult := []
  orders : OrderBook := .empty
  mappings : List (MarketplaceId × List CategoryMapping) := []
deriving DecidableEq

namespace MemoryStore

/-! ### Results -/

/-- Keeps a result, in the place of the one with the same id. -/
def saveResult (store : MemoryStore) (result : SyncResult) : MemoryStore :=
  { store with results := Keyed.upsertBy SyncResult.id result store.results }

/-- Whether the result belongs to a marketplace and a direction. -/
def concerns (id : MarketplaceId) (direction : Direction) (result : SyncResult) : Bool :=
  result.marketplace = id && result.direction = direction

/-- The newest result of a marketplace in one direction. -/
def lastResult? (store : MemoryStore) (id : MarketplaceId) (direction : Direction) :
    Option SyncResult :=
  store.results.reverse.find? (concerns id direction)

/-- The newest result of a marketplace in one direction that nothing stopped early. -/
def lastUninterrupted? (store : MemoryStore) (id : MarketplaceId) (direction : Direction) :
    Option SyncResult :=
  store.results.reverse.find? fun result =>
    concerns id direction result && result.isUninterrupted

/-- The results of a marketplace, newest first, up to a limit. -/
def history (store : MemoryStore) (id : MarketplaceId) (limit : Nat) : List SyncResult :=
  (store.results.reverse.filter fun result => result.marketplace = id).take limit

/-! ### Orders -/

/-- Takes in an order unless its key is there, and says whether it was new. -/
def saveOrder (store : MemoryStore) (order : Order) : Bool × MemoryStore :=
  (!store.orders.contains order.key, { store with orders := store.orders.insert order })

/-- The order with an id. -/
def order? (store : MemoryStore) (id : MarketplaceId) (orderId : String) : Option Order :=
  store.orders.get? (id, orderId)

/-- Sets the status of an order and says whether there is one. -/
def setOrderStatus (store : MemoryStore) (id : MarketplaceId) (orderId status : String) :
    Bool × MemoryStore :=
  (store.orders.contains (id, orderId),
    { store with orders := store.orders.setStatus (id, orderId) status })

/-! ### Category mappings -/

/-- The mappings of a marketplace, in the order in which their categories first came. -/
def mappingsOf (store : MemoryStore) (id : MarketplaceId) : List CategoryMapping :=
  (Keyed.get? id store.mappings).getD []

/-- Keeps a mapping, in the place of the one for the same category of the shop. -/
def saveMapping (store : MemoryStore) (id : MarketplaceId) (mapping : CategoryMapping) :
    MemoryStore :=
  { store with
    mappings := Keyed.put id
      (Keyed.upsertBy CategoryMapping.shopCategoryId mapping (store.mappingsOf id))
      store.mappings }

instance : SyncStore MemoryStore where
  saveResult store result := .ok (store.saveResult result)
  lastResult? store id direction := .ok (store.lastResult? id direction)
  lastUninterrupted? store id direction := .ok (store.lastUninterrupted? id direction)
  history store id limit := .ok (store.history id limit)
  saveOrder store order := .ok (store.saveOrder order)
  order? store id orderId := .ok (store.order? id orderId)
  setOrderStatus store id orderId status := .ok (store.setOrderStatus id orderId status)
  mappings store id := .ok (store.mappingsOf id)
  saveMapping store id mapping := .ok (store.saveMapping id mapping)

end MemoryStore

/-! ### Snapshots -/

/-- The content of a store as a document. -/
structure Snapshot where
  /-- Results, oldest first. -/
  results : List SyncResult := []
  orders : List Order := []
  mappings : List (MarketplaceId × List CategoryMapping) := []
deriving DecidableEq

namespace Snapshot

/-- The members for the mappings, by marketplace. -/
def mappingMembers (mappings : List (MarketplaceId × List CategoryMapping)) :
    List (String × Json.Value) :=
  MarketplaceId.all.filterMap fun id =>
    (Keyed.get? id mappings).map fun list => (id.tag, .ofList CategoryMapping.toJson list)

/-- The snapshot as JSON. -/
def toJson (snapshot : Snapshot) : Json.Value :=
  .object
    [("results", .ofList SyncResult.toJson snapshot.results),
      ("orders", .ofList Order.toJson snapshot.orders),
      ("mappings", .object (mappingMembers snapshot.mappings))]

/-- Reads mappings from an object with tags as keys; of a tag that is repeated the last counts. -/
def mappingsDecoder : Json.Decoder (List (MarketplaceId × List CategoryMapping))
  | room + 1, .object ms =>
    ms.foldlM (fun found (key, t) => do
      let id ← MarketplaceId.ofTag? (← key)
      let list ← Json.Decoder.list CategoryMapping.decoder room t
      pure (Keyed.put id list found)) []
  | _, _ => none

/-- Reads a snapshot from JSON; what is left out is empty. -/
def decoder : Json.Decoder Snapshot :=
  .record ["results", "orders", "mappings"] fun fs => do
    let results ← fs.withDefault "results" [] (.list SyncResult.decoder)
    let orders ← fs.withDefault "orders" [] (.list Order.decoder)
    let mappings ← fs.withDefault "mappings" [] mappingsDecoder
    pure { results, orders, mappings }

end Snapshot

namespace MemoryStore

/-- The store with the content of a snapshot; of orders with the same key the first counts. -/
def ofSnapshot (snapshot : Snapshot) : MemoryStore where
  results := snapshot.results
  orders := .ofList snapshot.orders
  mappings := snapshot.mappings

/-- The content of the store. -/
def snapshot (store : MemoryStore) : Snapshot where
  results := store.results
  orders := store.orders.toList
  mappings := store.mappings

end MemoryStore

end ShopSync
