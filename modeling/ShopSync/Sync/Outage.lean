import ShopSync.Sync.Store

/-!
A store some of whose operations are down.

It keeps its content in memory, and fails an operation as long as the name of the operation is
among those that are down; an operation that fails changes nothing.
-/

namespace ShopSync

/-- A store in memory with the names of the operations that are down. -/
structure FaultyStore where
  down : List String
  inner : MemoryStore := {}
deriving DecidableEq

namespace FaultyStore

/-- The answer of an operation, unless it is down. -/
def unlessDown (store : FaultyStore) (operation : String) (answer : α) : Except StoreError α :=
  if store.down.contains operation then .error (.backend s!"{operation} is down") else .ok answer

instance : SyncStore FaultyStore where
  saveResult store result :=
    store.unlessDown "save_sync_result" { store with inner := store.inner.saveResult result }
  lastResult? store id direction :=
    store.unlessDown "last_sync_result" (store.inner.lastResult? id direction)
  lastUninterrupted? store id direction :=
    store.unlessDown "last_uninterrupted_result" (store.inner.lastUninterrupted? id direction)
  history store id limit := store.unlessDown "sync_history" (store.inner.history id limit)
  saveOrder store order :=
    let (isNew, inner) := store.inner.saveOrder order
    store.unlessDown "save_order" (isNew, { store with inner })
  order? store id orderId := store.unlessDown "order" (store.inner.order? id orderId)
  setOrderStatus store id orderId status :=
    let (known, inner) := store.inner.setOrderStatus id orderId status
    store.unlessDown "update_order_status" (known, { store with inner })
  mappings store id := store.unlessDown "category_mappings" (store.inner.mappingsOf id)
  saveMapping store id mapping :=
    store.unlessDown "save_category_mapping"
      { store with inner := store.inner.saveMapping id mapping }

end FaultyStore

end ShopSync
