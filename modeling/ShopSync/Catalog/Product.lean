import ShopSync.Money
import ShopSync.Sku

/-!
Products of the shop, as they are handed over for export.
-/

namespace ShopSync

open Number (Binary64)

/-- A product of the shop. -/
structure Product where
  sku : Sku
  name : String
  description : String := ""
  price : Binary64
  quantity : UInt32
  categoryId : String := ""
  images : List String := []
deriving DecidableEq

namespace Product

/-- Whether the price is one: finite and not below zero. -/
def validate (product : Product) : Except ValidationError Unit :=
  requireNonNegative "price" product.price

/-- A product without description, category and images. -/
def create (sku : Sku) (name : String) (price : Binary64) (quantity : UInt32) :
    Except ValidationError Product := do
  let product : Product := { sku, name, price, quantity }
  product.validate
  pure product

/-- The product as JSON. -/
def toJson (product : Product) : Json.Value :=
  .object
    [("sku", product.sku.toJson), ("name", .string product.name),
      ("description", .string product.description), ("price", .ofReal product.price),
      ("quantity", .ofNat product.quantity.toNat), ("category_id", .string product.categoryId),
      ("images", .ofList .string product.images)]

/-- Reads a product from JSON.  The price is not checked here. -/
def decoder : Json.Decoder Product :=
  .record ["sku", "name", "description", "price", "quantity", "category_id", "images"] fun fs => do
    let sku ← fs.required "sku" Sku.decoder
    let name ← fs.required "name" .text
    let description ← fs.withDefault "description" "" .text
    let price ← fs.required "price" .real
    let quantity ← fs.withDefault "quantity" 0 .uint32
    let categoryId ← fs.withDefault "category_id" "" .text
    let images ← fs.withDefault "images" [] (.list .text)
    pure { sku, name, description, price, quantity, categoryId, images }

end Product

end ShopSync
