import ShopSync.Catalog.Category
import ShopSync.Catalog.Product
import ShopSync.Config
import ShopSync.Http.Client
import ShopSync.Market.Capabilities
import ShopSync.Order
import ShopSync.Sync.Result

/-!
What an adapter for a marketplace has to offer.

An adapter is a value: configuring it gives another one, and every other operation reads it once
and leaves it as it is.
-/

namespace ShopSync

/-- Adapters for a marketplace. -/
class Marketplace (α : Type) where
  id : α → MarketplaceId
  capabilities : α → Capabilities
  /-- The configuration in force. -/
  config? : α → Option Config
  /-- The adapter with another configuration, as a whole. -/
  configure : α → Config → Except ConfigError α
  /-- Creates or updates a listing per product. -/
  exportProducts : α → List Product → Signal → Attempt SyncResult
  /-- Writes an existing listing. -/
  updateProduct : α → Product → Attempt Unit
  updateStock : α → Sku → UInt32 → Attempt Unit
  updatePrice : α → Sku → Number.Binary64 → Attempt Unit
  deleteProduct : α → Sku → Attempt Unit
  /-- The orders created since a time. -/
  importOrders : α → Timestamp → Signal → Attempt (List Order)
  updateOrderStatus : α → (orderId status : String) → Attempt Unit
  markAsShipped : α → (orderId : String) → Shipment → Attempt Unit
  categories : α → Attempt (List Category)
  /-- A feed of products; nothing for a marketplace that works by requests. -/
  generateFeed : α → List Product → Attempt (Option String)

namespace Marketplace

variable {α : Type} [Marketplace α]

/-- Whether every credential is there. -/
def isConfigured (adapter : α) : Bool :=
  (config? adapter).any Config.hasCredentials

/-- Whether the configuration in force, if there is one, is enabled. -/
def isEnabled (adapter : α) : Bool :=
  (config? adapter).any Config.enabled

/-- Whether the adapter takes part when all marketplaces are meant. -/
def isActive (adapter : α) : Bool :=
  isConfigured adapter && isEnabled adapter

end Marketplace

end ShopSync
