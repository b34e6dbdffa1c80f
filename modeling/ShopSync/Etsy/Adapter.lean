import ShopSync.Etsy.Session
import ShopSync.Market.Marketplace

/-!
The adapter for Etsy.

Listings and tracking are written by requests and receipts are imported as orders; the status of an
order cannot be pushed, and there is no feed.  Without all credentials no operation sends anything.
-/

namespace ShopSync.Etsy

open Number (Binary64)

/-- The adapter, with the configuration in force. -/
structure Adapter where
  config : Option Config := none
deriving DecidableEq

namespace Adapter

/-- What the marketplace supports. -/
def capabilities : Capabilities where
  listings := true
  feed := false
  orderStatus := false
  shipmentTracking := true

/-- The adapter with another configuration, which has to be valid and for this marketplace. -/
def configure (_ : Adapter) (config : Config) : Except ConfigError Adapter := do
  if config.marketplace ≠ .etsy then
    throw (.marketplaceMismatch MarketplaceId.etsy.tag config.marketplace.tag)
  config.validate
  pure { config := some config }

/-- The session of the configuration in force, if it has all credentials. -/
def session (adapter : Adapter) : Except MarketError Session :=
  match adapter.config with
  | some config =>
    if config.hasCredentials then .ok (Session.ofConfig config) else .error (.notConfigured .etsy)
  | none => .error (.notConfigured .etsy)

/-- Goes on with the session. -/
def withSession (adapter : Adapter) (f : Session → Attempt α) : Attempt α := do
  let session ← ExceptT.mk (pure adapter.session)
  f session

/-- Creates or updates a listing per product. -/
def exportProducts (adapter : Adapter) (products : List Product) (signal : Signal) :
    Attempt SyncResult :=
  adapter.withSession fun session =>
    Batch.exportProducts .etsy products signal session.upsertListing

/-- Writes all fields of an existing listing. -/
def updateProduct (adapter : Adapter) (product : Product) : Attempt Unit :=
  adapter.withSession fun session => do
    let listingId ← session.requireListing product.sku
    let fields ← ExceptT.mk (pure (ListingFields.ofProduct product session.config.currencyCode))
    session.patchListing listingId fields

/-- Sets the quantity of an existing listing. -/
def updateStock (adapter : Adapter) (sku : Sku) (quantity : UInt32) : Attempt Unit :=
  adapter.withSession fun session => do
    let listingId ← session.requireListing sku
    session.patchListing listingId { quantity := some quantity }

/-- Sets the price of an existing listing. -/
def updatePrice (adapter : Adapter) (sku : Sku) (price : Binary64) : Attempt Unit :=
  adapter.withSession fun session => do
    let money ← ExceptT.mk (pure (sentPrice price session.config.currencyCode))
    let listingId ← session.requireListing sku
    session.patchListing listingId { price := some money }

/-- Deletes an existing listing. -/
def deleteProduct (adapter : Adapter) (sku : Sku) : Attempt Unit :=
  adapter.withSession fun session => do
    let listingId ← session.requireListing sku
    session.client.delete (session.listingUrl listingId)

/-- The orders created since a time. -/
def importOrders (adapter : Adapter) (since : Timestamp) (signal : Signal) :
    Attempt (List Order) :=
  adapter.withSession fun session => do
    let now ← Dialogue.moment
    if signal.isStopped now then throw .cancelled
    session.ordersFrom since signal 0 []

/-- Tells how an order was sent. -/
def markAsShipped (adapter : Adapter) (orderId : String) (shipment : Shipment) : Attempt Unit :=
  adapter.withSession fun session =>
    session.client.push .post (session.trackingUrl orderId) (trackingBody shipment)

/-- The taxonomy as a flat list. -/
def categories (adapter : Adapter) : Attempt (List Category) :=
  adapter.withSession fun session => do
    let page ← session.client.get session.taxonomyUrl (Page.decoder TaxonomyNode.ofMembers)
    pure (flattenAll none page.results)

end Adapter

instance : Marketplace Adapter where
  id _ := .etsy
  capabilities _ := Adapter.capabilities
  config? adapter := adapter.config
  configure := Adapter.configure
  exportProducts := Adapter.exportProducts
  updateProduct := Adapter.updateProduct
  updateStock := Adapter.updateStock
  updatePrice := Adapter.updatePrice
  deleteProduct := Adapter.deleteProduct
  importOrders := Adapter.importOrders
  updateOrderStatus _ _ _ := pure ()
  markAsShipped := Adapter.markAsShipped
  categories := Adapter.categories
  generateFeed _ _ := pure none

end ShopSync.Etsy
