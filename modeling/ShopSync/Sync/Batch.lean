import ShopSync.Catalog.Product
import ShopSync.Dialogue
import ShopSync.Http.Client
import ShopSync.Sync.Result

/-!
Export batches.

Products go out one after another, and a product that fails does not keep the others back.  The
batch stops early when its signal fires, which is looked at before each product, or when an error
leaves no hope for the rest; products that were not tried stay uncounted.
-/

namespace ShopSync

namespace Batch

/-- The result after the remaining products. -/
def exportRest (signal : Signal) (upsert : Product → Attempt Unit) :
    List Product → SyncResult → Dialogue SyncResult
  | [], result => pure result
  | product :: rest, result => do
    let now ← Dialogue.moment
    match signal.interruption? now with
    | some interruption => pure (result.interrupt interruption)
    | none =>
      match ← (upsert product).run with
      | .ok () => exportRest signal upsert rest result.recordSuccess
      | .error e =>
        let result := result.recordFailure product.sku.text e
        if e.haltsBatch then pure (result.interrupt (.halted e.code))
        else exportRest signal upsert rest result

/-- Exports products to a marketplace.  When the signal has fired before the first product there is
no result, only an error. -/
def exportProducts (marketplace : MarketplaceId) (products : List Product) (signal : Signal)
    (upsert : Product → Attempt Unit) : Attempt SyncResult := do
  let entry ← Dialogue.moment
  if signal.isStopped entry then throw .cancelled
  let id ← Dialogue.freshId
  let now ← Dialogue.moment
  let running := SyncResult.start id marketplace .outbound products.length now.wall
  let result ← exportRest signal upsert products running
  let after ← Dialogue.moment
  pure (result.finish after.wall)

end Batch

end ShopSync
