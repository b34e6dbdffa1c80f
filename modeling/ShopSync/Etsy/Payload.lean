import ShopSync.Catalog.Category
import ShopSync.Json.Decoder
import ShopSync.Json.Loose
import ShopSync.Money
import ShopSync.Order
import ShopSync.Sku

/-!
The payloads of Etsy's answers.

Answers are pages of objects whose fields cannot be relied on, so every object of a page becomes an
entry, whatever it holds.  A receipt becomes an order, and the nested taxonomy a flat list in which
every node comes before its children.
-/

namespace ShopSync.Etsy

open Json (Value Decoder)
open Json.Loose (Members)
open Number (Binary64)

/-! ### Pages -/

/-- One page of an answer. -/
structure Page (α : Type) where
  /-- How many entries there are on all pages, if the answer says. -/
  count : Option Int
  results : List α

/-- Reads a page; entries are the objects of its results. -/
def Page.decoder (entry : Members → α) : Decoder (Page α) :=
  .record ["count", "results"] fun fs => do
    let ms ← fs.values
    pure
      { count := Json.Loose.integer ms "count"
        results := (Json.Loose.objects ms "results").map entry }

/-! ### Listings -/

/-- What is said of a listing. -/
structure Listing where
  id : Option String
  skus : List String
deriving DecidableEq, Repr

/-- The listing that an object describes. -/
def Listing.ofMembers (ms : Members) : Listing where
  id := Json.Loose.identifier ms "listing_id"
  skus := Json.Loose.texts ms "skus"

/-- Reads a listing that is the whole answer. -/
def Listing.decoder : Decoder Listing :=
  .record ["listing_id", "skus"] fun fs => fs.values.map Listing.ofMembers

/-- The first listing with an id that names the SKU. -/
def namedListing (listings : List Listing) (sku : Sku) : Option String :=
  listings.findSome? fun listing =>
    if listing.skus.contains sku.text then listing.id else none

/-- The first listing with an id that names no SKU at all. -/
def unnamedListing (listings : List Listing) : Option String :=
  listings.findSome? fun listing => if listing.skus.isEmpty then listing.id else none

/-- The listing of a SKU: one that names it, or else one that names none. -/
def selectListing (listings : List Listing) (sku : Sku) : Option String :=
  (namedListing listings sku).orElse fun _ => unnamedListing listings

/-! ### Receipts -/

/-- The value of an amount; one without a divisor is worth nothing. -/
def amountOf (ms : Members) : Binary64 :=
  Money.decimalOf ((Json.Loose.integer ms "amount").getD 0)
    ((Json.Loose.integer ms "divisor").getD 0)

/-- The value of the amount in a field. -/
def amountIn (ms : Members) (key : String) : Binary64 :=
  ((Json.Loose.object ms key).map amountOf).getD Binary64.zero

/-- The line of an order that a transaction stands for.  A quantity that is no unsigned number of
32 bits counts as zero. -/
def itemOf (ms : Members) : OrderItem where
  externalId := (Json.Loose.identifier ms "transaction_id").getD ""
  name := (Json.Loose.text ms "title").getD ""
  quantity :=
    match Json.Loose.integer ms "quantity" with
    | some n => if 0 ≤ n ∧ n < UInt32.size then UInt32.ofNat n.toNat else 0
    | none => 0
  price := amountIn ms "price"

/-- When a receipt was created, in seconds since 1970. -/
def createdSecond (ms : Members) : Option Int :=
  Json.Loose.integer ms "create_timestamp"

/-- When a receipt was created; the start of 1970 when it does not say or is out of range. -/
def createdAt (ms : Members) : Timestamp :=
  match createdSecond ms with
  | some seconds =>
    match Timestamp.ofUnixSeconds seconds with
    | .ok t => t
    | .error _ => Timestamp.epoch
  | none => Timestamp.epoch

/-- The order that a receipt stands for. -/
def orderOf (ms : Members) : Order where
  externalId := (Json.Loose.identifier ms "receipt_id").getD ""
  marketplace := .etsy
  status := (Json.Loose.text ms "status").getD ""
  total := amountIn ms "grandtotal"
  customerName := (Json.Loose.text ms "name").getD ""
  deliveryAddress := (Json.Loose.text ms "formatted_address").getD ""
  deliveryCity := (Json.Loose.text ms "city").getD ""
  items := (Json.Loose.objects ms "transactions").map itemOf
  createdAt := createdAt ms

/-- Whether a receipt is known to be older than a second. -/
def isOlderThan (second : Int) (ms : Members) : Bool :=
  match createdSecond ms with
  | some created => decide (created < second)
  | none => false

/-- The orders of the receipts that are not known to be older than a second. -/
def ordersSince (second : Int) (receipts : List Members) : List Order :=
  (receipts.filter fun ms => !isOlderThan second ms).map orderOf

/-! ### Taxonomy -/

/-- A node of the taxonomy. -/
inductive TaxonomyNode where
  | node (id name parentId : Option String) (children : List TaxonomyNode)

mutual
/-- The nodes that the objects of a list describe. -/
def nodesOf : List Value → List TaxonomyNode
  | [] => []
  | .object ms :: vs =>
    .node (Json.Loose.identifier ms "id") (Json.Loose.text ms "name")
      (Json.Loose.identifier ms "parent_id") (childrenOf ms) :: nodesOf vs
  | _ :: vs => nodesOf vs

/-- The nodes that the children of an object describe. -/
def childrenOf : Members → List TaxonomyNode
  | [] => []
  | (key, v) :: ms =>
    if key = "children" then
      match v with
      | .array vs => nodesOf vs
      | _ => []
    else childrenOf ms
end

/-- The node that an object describes. -/
def TaxonomyNode.ofMembers (ms : Members) : TaxonomyNode :=
  .node (Json.Loose.identifier ms "id") (Json.Loose.text ms "name")
    (Json.Loose.identifier ms "parent_id") (childrenOf ms)

mutual
/-- The categories of a node and of all nodes below it, parents first. -/
def TaxonomyNode.flatten (parent : Option String) : TaxonomyNode → List Category
  | .node id name parentId children =>
    { id := id.getD "", name := name.getD "", parentId := parentId.orElse fun _ => parent }
      :: flattenAll (some (id.getD "")) children

/-- The categories of nodes and of all nodes below them, in order.  A node that does not name its
parent belongs to the node it stands in. -/
def flattenAll (parent : Option String) : List TaxonomyNode → List Category
  | [] => []
  | node :: nodes => node.flatten parent ++ flattenAll parent nodes
end

end ShopSync.Etsy
