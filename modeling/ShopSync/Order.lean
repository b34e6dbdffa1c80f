import ShopSync.MarketplaceId
import ShopSync.Number.Binary64
import ShopSync.Timestamp

/-!
Orders that were placed on a marketplace.

An order is identified by its marketplace and the id it has there.  The total of a line is always
price times quantity: it is written for readers, and ignored when it is read back.
-/

namespace ShopSync

open Number (Binary64)

/-- One line of an order. -/
structure OrderItem where
  externalId : String
  name : String
  quantity : UInt32
  price : Binary64
deriving DecidableEq

namespace OrderItem

/-- Price times quantity. -/
def total (item : OrderItem) : Binary64 :=
  item.price * Binary64.ofNat item.quantity.toNat

/-- The line as JSON, with its total. -/
def toJson (item : OrderItem) : Json.Value :=
  .object
    [("external_id", .string item.externalId), ("name", .string item.name),
      ("quantity", .ofNat item.quantity.toNat), ("price", .ofReal item.price),
      ("total", .ofReal item.total)]

/-- Reads a line from JSON; a total that is there has to be a number. -/
def decoder : Json.Decoder OrderItem :=
  .record ["external_id", "name", "quantity", "price", "total"] fun fs => do
    let externalId ← fs.required "external_id" .text
    let name ← fs.required "name" .text
    let quantity ← fs.required "quantity" .uint32
    let price ← fs.required "price" .real
    let _ ← fs.withDefault "total" Binary64.zero .real
    pure { externalId, name, quantity, price }

end OrderItem

/-- An order. -/
structure Order where
  externalId : String
  marketplace : MarketplaceId
  status : String
  total : Binary64
  customerName : String
  deliveryAddress : String
  deliveryCity : String
  items : List OrderItem
  createdAt : Timestamp
deriving DecidableEq

namespace Order

/-- What identifies an order. -/
def key (order : Order) : MarketplaceId × String :=
  (order.marketplace, order.externalId)

/-- The order as JSON. -/
def toJson (order : Order) : Json.Value :=
  .object
    [("external_id", .string order.externalId), ("marketplace", order.marketplace.toJson),
      ("status", .string order.status), ("total", .ofReal order.total),
      ("customer_name", .string order.customerName),
      ("delivery_address", .string order.deliveryAddress),
      ("delivery_city", .string order.deliveryCity),
      ("items", .ofList OrderItem.toJson order.items), ("created_at", order.createdAt.toJson)]

/-- Reads an order from JSON. -/
def decoder : Json.Decoder Order :=
  .record ["external_id", "marketplace", "status", "total", "customer_name", "delivery_address",
      "delivery_city", "items", "created_at"] fun fs => do
    let externalId ← fs.required "external_id" .text
    let marketplace ← fs.required "marketplace" MarketplaceId.decoder
    let status ← fs.required "status" .text
    let total ← fs.required "total" .real
    let customerName ← fs.required "customer_name" .text
    let deliveryAddress ← fs.required "delivery_address" .text
    let deliveryCity ← fs.required "delivery_city" .text
    let items ← fs.required "items" (.list OrderItem.decoder)
    let createdAt ← fs.required "created_at" Timestamp.decoder
    pure { externalId, marketplace, status, total, customerName, deliveryAddress, deliveryCity,
           items, createdAt }

end Order

/-- How an order was sent. -/
structure Shipment where
  carrier : String
  trackingCode : String
deriving DecidableEq, Repr

namespace Shipment

/-- The shipment as JSON. -/
def toJson (shipment : Shipment) : Json.Value :=
  .object
    [("carrier", .string shipment.carrier), ("tracking_code", .string shipment.trackingCode)]

/-- Reads a shipment from JSON. -/
def decoder : Json.Decoder Shipment :=
  .record ["carrier", "tracking_code"] fun fs => do
    let carrier ← fs.required "carrier" .text
    let trackingCode ← fs.required "tracking_code" .text
    pure { carrier, trackingCode }

end Shipment

end ShopSync
