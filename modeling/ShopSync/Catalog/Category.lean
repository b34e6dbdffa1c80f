import ShopSync.Json.Decoder

/-!
Categories of a marketplace, and mappings from the categories of the shop to them.
-/

namespace ShopSync

/-- A category of a marketplace; one without a parent is a root. -/
structure Category where
  id : String
  name : String
  parentId : Option String := none
deriving DecidableEq, Repr

namespace Category

/-- Whether the category has no parent. -/
def isRoot (category : Category) : Bool := category.parentId.isNone

/-- The category as JSON. -/
def toJson (category : Category) : Json.Value :=
  .object ([("id", .string category.id), ("name", .string category.name)]
    ++ Json.Value.optionalMember "parent_id" .string category.parentId)

/-- Reads a category from JSON. -/
def decoder : Json.Decoder Category :=
  .record ["id", "name", "parent_id"] fun fs => do
    let id ← fs.required "id" .text
    let name ← fs.required "name" .text
    let parentId ← fs.optional "parent_id" .text
    pure { id, name, parentId }

end Category

/-- The category of a marketplace that a category of the shop is listed under. -/
structure CategoryMapping where
  shopCategoryId : String
  marketplaceCategoryId : String
deriving DecidableEq, Repr

namespace CategoryMapping

/-- The mapping as JSON. -/
def toJson (mapping : CategoryMapping) : Json.Value :=
  .object
    [("shop_category_id", .string mapping.shopCategoryId),
      ("marketplace_category_id", .string mapping.marketplaceCategoryId)]

/-- Reads a mapping from JSON. -/
def decoder : Json.Decoder CategoryMapping :=
  .record ["shop_category_id", "marketplace_category_id"] fun fs => do
    let shopCategoryId ← fs.required "shop_category_id" .text
    let marketplaceCategoryId ← fs.required "marketplace_category_id" .text
    pure { shopCategoryId, marketplaceCategoryId }

end CategoryMapping

end ShopSync
