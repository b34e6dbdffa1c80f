import Mathlib.Tactic
import ShopSync.Proofs.Etsy.Offer
import ShopSync.Proofs.Etsy.Page

/-!
The server of a shop.

It looks listings up by their SKU, creates them, overwrites their fields and takes their images.
The ids of listings, and those that are still to be given out, are distinct whole numbers of 64
bits; every answer keeps this, since only a new listing changes the ids, and it takes the next one.
-/

namespace ShopSync.Etsy

open Json (Value)
open Json.Loose (Members)
open Number (int64Limit integerText)

/-! ### Shops -/

/-- A stock whose ids are distinct and whole numbers of 64 bits. -/
structure Shop extends Stock where
  nodup : (listings.map ShopListing.id ++ unused).Nodup
  inRange : ∀ id ∈ listings.map ShopListing.id ++ unused, -int64Limit ≤ id ∧ id < int64Limit

theorem Shop.ext {shop shop' : Shop} (h : shop.toStock = shop'.toStock) : shop = shop' := by
  cases shop
  cases shop'
  cases h
  rfl

/-- What an answer says of a listing. -/
def ShopListing.toJson (l : ShopListing) : Value :=
  .object [("listing_id", .ofInt l.id), ("skus", .array [.string l.sku])]

/-- The listing with fields overwritten, its SKU among them. -/
def ShopListing.patch (sent : Members) (l : ShopListing) : ShopListing :=
  { l with sku := (skuIn sent).getD l.sku, fields := overwrite l.fields sent }

/-- The listing with one image more. -/
def ShopListing.addImage (image : String) (l : ShopListing) : ShopListing :=
  { l with images := l.images ++ [image] }

/-- The listings with a change of the one that has an id. -/
def changeAt (id : Int) (f : ShopListing → ShopListing) (ls : List ShopListing) :
    List ShopListing :=
  ls.map fun l => if l.id = id then f l else l

theorem map_id_changeAt (id : Int) {f : ShopListing → ShopListing} (hf : ∀ l, (f l).id = l.id)
    (ls : List ShopListing) :
    (changeAt id f ls).map ShopListing.id = ls.map ShopListing.id := by
  rw [changeAt, List.map_map]
  apply List.map_congr_left
  intro l _
  rw [Function.comp_apply]
  split
  · exact hf l
  · rfl

namespace Shop

/-- The shop with a change of a listing that keeps its id. -/
def change (shop : Shop) (id : Int) (f : ShopListing → ShopListing) (hf : ∀ l, (f l).id = l.id) :
    Shop where
  listings := changeAt id f shop.listings
  unused := shop.unused
  nodup := by
    rw [map_id_changeAt id hf]
    exact shop.nodup
  inRange := by
    rw [map_id_changeAt id hf]
    exact shop.inRange

/-- A new listing, and the shop with it; none when all ids are used. -/
def create? (sku : String) (sent : Members) : Shop → Option (ShopListing × Shop)
  | { listings, unused := id :: rest, nodup, inRange } =>
    let l : ShopListing := { id, sku, fields := overwrite (fun _ => none) sent, images := [] }
    some
      (l,
        { listings := listings ++ [l]
          unused := rest
          nodup := by simpa using nodup
          inRange := by simpa using inRange })
  | _ => none

/-! ### Answers -/

/-- A refusal. -/
def refusal (status : Nat) : Except Http.Failure Http.Response :=
  .ok { status, body := "refused" }

/-- A success with something made. -/
def made (v : Value) : Except Http.Failure Http.Response :=
  .ok { status := 201, body := v.render }

/-- The listings of a SKU, as an answer. -/
def found (shop : Shop) (sku : String) : Value :=
  Page.written none ((shop.listings.filter fun l => l.sku = sku).map ShopListing.toJson)

/-- Answers the requests about listings below a root. -/
def server (root : String) : Server Shop := fun request shop =>
  match request.method, Http.Target.below? root request.url with
  | .get, some { path := ["", "listings"], parameters := [("sku", sku)] } =>
    (.ok (.ok (shop.found sku).render), shop)
  | .post, some { path := ["", "listings"], parameters := [] } =>
    match request.body.bind Value.parse? with
    | some (.object sent) =>
      match (skuIn sent).bind fun sku => shop.create? sku sent with
      | some (l, shop) => (made l.toJson, shop)
      | none => (refusal 400, shop)
    | _ => (refusal 400, shop)
  | .patch, some { path := ["", "listings", id], parameters := [] } =>
    match Number.integer? id.toList, request.body.bind Value.parse? with
    | some id, some (.object sent) =>
      match shop.listings.find? fun l => l.id = id with
      | some l =>
        (.ok (.ok (l.patch sent).toJson.render), shop.change id (.patch sent) fun _ => rfl)
      | none => (refusal 404, shop)
    | _, _ => (refusal 400, shop)
  | .post, some { path := ["", "listings", id, "images"], parameters := [] } =>
    match Number.integer? id.toList, request.body with
    | some id, some image => (made (.object []), shop.change id (.addImage image) fun _ => rfl)
    | _, _ => (refusal 400, shop)
  | _, _ => (refusal 404, shop)

end Shop

/-! ### Writing by id -/

theorem changeAt_of_notMem {id : Int} {ls : List ShopListing} (f : ShopListing → ShopListing)
    (h : id ∉ ls.map ShopListing.id) : changeAt id f ls = ls := by
  induction ls with
  | nil => rfl
  | cons l ls ih =>
    rw [List.map_cons, List.mem_cons, not_or] at h
    have hrest := ih h.2
    rw [changeAt] at hrest ⊢
    rw [List.map_cons, if_neg (Ne.symm h.1), hrest]

theorem mem_of_firstId {sku : String} {id : Int} {ls : List ShopListing}
    (h : firstId sku ls = some id) : id ∈ ls.map ShopListing.id := by
  obtain ⟨l, hl, rfl⟩ := Option.map_eq_some_iff.1 h
  exact List.mem_map_of_mem (List.mem_of_find?_eq_some hl)

theorem firstId_eq_none_iff {sku : String} {ls : List ShopListing} :
    firstId sku ls = none ↔ sku ∉ ls.map ShopListing.sku := by
  simp [firstId]

/-- The first listing of a SKU may as well be found by its id. -/
theorem changeAt_patch_eq_patchFirst {sku : String} {sent : Members} {id : Int}
    {ls : List ShopListing} (hnodup : (ls.map ShopListing.id).Nodup)
    (hfirst : firstId sku ls = some id) (hsku : skuIn sent = some sku) :
    changeAt id (.patch sent) ls = patchFirst sku sent ls := by
  induction ls with
  | nil => rfl
  | cons l ls ih =>
    rw [List.map_cons, List.nodup_cons] at hnodup
    by_cases h : l.sku = sku
    · have hid : l.id = id := by simpa [firstId, h] using hfirst
      have hrest := changeAt_of_notMem (ShopListing.patch sent) hnodup.1
      rw [changeAt, hid] at hrest
      rw [changeAt, List.map_cons, if_pos hid, hrest, patchFirst, if_pos h, ShopListing.patch, hsku,
        Option.getD_some, ← h]
    · have hfirst : firstId sku ls = some id := by simpa [firstId, h] using hfirst
      have hid : l.id ≠ id := by
        rintro rfl
        exact hnodup.1 (mem_of_firstId hfirst)
      have hrest := ih hnodup.2 hfirst
      rw [changeAt] at hrest ⊢
      rw [List.map_cons, if_neg hid, patchFirst, if_neg h, hrest]

end ShopSync.Etsy
