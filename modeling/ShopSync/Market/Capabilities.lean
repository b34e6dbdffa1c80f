import ShopSync.Json.Value

/-!
What a marketplace supports.
-/

namespace ShopSync

/-- The operations a marketplace supports. -/
structure Capabilities where
  /-- Listings are written by requests. -/
  listings : Bool
  /-- A feed of the catalog can be generated. -/
  feed : Bool
  /-- The status of an order can be pushed. -/
  orderStatus : Bool
  /-- The tracking of a shipment can be pushed. -/
  shipmentTracking : Bool
deriving DecidableEq, Repr

namespace Capabilities

/-- Every capability with its name. -/
def named (c : Capabilities) : List (String × Bool) :=
  [("listings", c.listings), ("feed", c.feed), ("order_status", c.orderStatus),
    ("shipment_tracking", c.shipmentTracking)]

/-- The names of what is supported. -/
def supported (c : Capabilities) : List String :=
  (c.named.filter Prod.snd).map Prod.fst

/-- The capabilities as JSON. -/
def toJson (c : Capabilities) : Json.Value :=
  .object (c.named.map fun (name, has) => (name, .bool has))

end Capabilities

end ShopSync
