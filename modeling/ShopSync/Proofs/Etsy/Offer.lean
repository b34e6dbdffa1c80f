import Mathlib.Tactic
import ShopSync.Proofs.Etsy.Session
import ShopSync.Proofs.Etsy.Shop
import ShopSync.Proofs.Json.Record
import ShopSync.Proofs.Money
import ShopSync.Proofs.Outcome

/-!
What is sent for a product.

The body of a request that writes a listing is an object with distinct keys, whose numbers are whole
ones of 64 bits, so a server reads from it the fields that were meant.  A product with a valid price
always has such a body, and the body names its SKU.
-/

namespace ShopSync

open Number (Binary64 int64Limit)

/-! ### Whole numbers -/

namespace Number

theorem int64_clampInt64 (negative : Bool) (size : Nat) :
    -int64Limit ≤ Binary64.clampInt64 negative size ∧
      Binary64.clampInt64 negative size < int64Limit := by
  unfold Binary64.clampInt64
  simp only [int64Limit]
  split <;> omega

theorem int64_roundInt64 (x : Binary64) :
    -int64Limit ≤ x.roundInt64 ∧ x.roundInt64 < int64Limit := by
  cases x with
  | nan => decide
  | infinite s => exact int64_clampInt64 s _
  | finite s i => exact int64_clampInt64 s _

theorem int64_truncInt64 (x : Binary64) :
    -int64Limit ≤ x.truncInt64 ∧ x.truncInt64 < int64Limit := by
  cases x with
  | nan => decide
  | infinite s => exact int64_clampInt64 s _
  | finite s i => exact int64_clampInt64 s _

theorem int64_of_int64? {s : String} {n : Int} (h : int64? s = some n) :
    -int64Limit ≤ n ∧ n < int64Limit := by
  simp only [int64?, Option.bind_eq_bind, Option.bind_eq_some_iff] at h
  obtain ⟨m, -, hm⟩ := h
  split at hm
  case isTrue hrange =>
    cases hm
    exact hrange
  case isFalse => cases hm

end Number

theorem Json.isWord_of_int64 {n : Int} (h : -int64Limit ≤ n ∧ n < int64Limit) : Json.IsWord n := by
  simp only [int64Limit] at h
  simp only [Json.IsWord, int64Limit, UInt64.size]
  omega

namespace Etsy

open Json (Value)
open Json.Loose (Members)
open Json.Value (forall_mem_optionalMember map_fst_optionalMember_sublist)

/-! ### Fields of listings -/

namespace ListingFields

variable (fields : ListingFields)

/-- The numbers among the fields are whole ones of 64 bits. -/
structure IsSendable : Prop where
  price : ∀ money ∈ fields.price, Json.IsWord money.amount ∧ Json.IsWord money.divisor
  taxonomyId : ∀ n ∈ fields.taxonomyId, Json.IsWord n

theorem nodup_keys : (fields.toJson.members.map Prod.fst).Nodup := by
  have hsublist : (fields.toJson.members.map Prod.fst).Sublist
      (["quantity"] ++ ["title"] ++ ["description"] ++ ["price"] ++ ["who_made"] ++ ["when_made"]
        ++ ["taxonomy_id"] ++ ["is_supply"] ++ ["sku"] ++ ["should_auto_renew"]) := by
    simp only [toJson, Value.members, List.map_append]
    repeat' apply List.Sublist.append
    all_goals exact map_fst_optionalMember_sublist
  exact hsublist.nodup (by decide)

variable {fields}

theorem readable_toJson (h : fields.IsSendable) : fields.toJson.Readable := by
  apply (Json.readableMembers_iff _).2
  simp only [List.forall_mem_append, forall_mem_optionalMember]
  refine ⟨⟨⟨⟨⟨⟨⟨⟨⟨?quantity, ?title⟩, ?description⟩, ?price⟩, ?whoMade⟩, ?whenMade⟩, ?taxonomyId⟩,
    ?isSupply⟩, ?sku⟩, ?shouldAutoRenew⟩
  case quantity =>
    intro n _
    have hlt := n.toNat_lt
    exact Json.Number.readsBack_ofNat (by simp only [UInt64.size]; omega)
  case price =>
    intro money hmoney
    obtain ⟨hamount, hdivisor⟩ := h.price money hmoney
    exact ⟨Json.Number.readsBack_integer hamount, Json.Number.readsBack_integer hdivisor, trivial,
      trivial⟩
  case taxonomyId => exact fun n hn => Json.Number.readsBack_integer (h.taxonomyId n hn)
  case sku =>
    intro skus _
    apply (Json.readableElements_iff _).2
    intro v hv
    obtain ⟨sku, -, rfl⟩ := List.mem_map.1 hv
    trivial
  case title | description | whoMade | whenMade | isSupply | shouldAutoRenew =>
    exact fun _ _ => trivial

theorem fits_toJson : fields.toJson.Fits Json.depthLimit := by
  refine ⟨nodup_keys fields, (Json.membersFit_iff 126 _).2 ?_⟩
  simp only [List.forall_mem_append, forall_mem_optionalMember]
  refine ⟨⟨⟨⟨⟨⟨⟨⟨⟨?quantity, ?title⟩, ?description⟩, ?price⟩, ?whoMade⟩, ?whenMade⟩, ?taxonomyId⟩,
    ?isSupply⟩, ?sku⟩, ?shouldAutoRenew⟩
  case price =>
    intro money _
    have hkeys : ["amount", "divisor", "currency_code"].Nodup := by decide
    exact ⟨hkeys, trivial, trivial, trivial, trivial⟩
  case sku =>
    intro skus _
    apply (Json.elementsFit_iff 125 _).2
    intro v hv
    obtain ⟨sku, -, rfl⟩ := List.mem_map.1 hv
    trivial
  case quantity | title | description | whoMade | whenMade | taxonomyId | isSupply |
      shouldAutoRenew =>
    exact fun _ _ => trivial

theorem parse?_render_toJson (h : fields.IsSendable) :
    Value.parse? fields.toJson.render = some (.object fields.toJson.members) :=
  Value.parse?_render (readable_toJson h) fits_toJson

theorem get?_title (fields : ListingFields) :
    Keyed.get? "title" fields.toJson.members = fields.title.map Value.string := by
  simp [toJson, Value.members, List.append_assoc, Json.Value.get?_optionalMember_append,
    Json.Value.get?_optionalMember]

theorem get?_sku (fields : ListingFields) :
    Keyed.get? "sku" fields.toJson.members = fields.sku.map (.ofList .string) := by
  simp [toJson, Value.members, List.append_assoc, Json.Value.get?_optionalMember_append,
    Json.Value.get?_optionalMember]

theorem skuIn_toJson {sku : String} (h : fields.sku = some [sku]) :
    skuIn fields.toJson.members = some sku := by
  rw [skuIn, get?_sku, h]
  rfl

/-! ### Products -/

/-- Only the price can keep a product from being sent; everything else is sent as it is, apart from
the title, which is shortened, and the category, which is left out when it is no number. -/
theorem exists_of_ofProduct {product : Product} {currency : String} {fields : ListingFields}
    (h : ofProduct product currency = .ok fields) :
    ∃ money, sentPrice product.price currency = .ok money ∧
      fields =
        { quantity := some product.quantity
          title := some (Text.truncate product.name titleLimit)
          description := some product.description
          price := some money
          whoMade := some "i_did"
          whenMade := some "made_to_order"
          taxonomyId := Number.int64? (Text.trim product.categoryId)
          isSupply := some false
          sku := some [product.sku.text]
          shouldAutoRenew := some true } := by
  rw [ofProduct] at h
  obtain ⟨money, hmoney, hfields⟩ := bind_eq_ok_iff.1 h
  exact ⟨money, hmoney, (Except.ok.inj hfields).symm⟩

theorem sku_of_ofProduct {product : Product} {currency : String} {fields : ListingFields}
    (h : ofProduct product currency = .ok fields) : fields.sku = some [product.sku.text] := by
  obtain ⟨money, -, rfl⟩ := exists_of_ofProduct h
  rfl

theorem isWord_of_sentPrice {price : Binary64} {currency : String} {money : Money}
    (h : sentPrice price currency = .ok money) :
    Json.IsWord money.amount ∧ Json.IsWord money.divisor := by
  have hdivisor : Json.IsWord (Money.minorUnits : Int) := ⟨by decide, by decide⟩
  rw [sentPrice, mapError_eq_ok_iff, Money.ofDecimal] at h
  obtain ⟨-, -, hcoded⟩ := bind_eq_ok_iff.1 h
  obtain ⟨code, -, hmoney⟩ := bind_eq_ok_iff.1 hcoded
  cases hmoney
  exact ⟨Json.isWord_of_int64 (Number.int64_roundInt64 _), hdivisor⟩

theorem isSendable_of_ofProduct {product : Product} {currency : String} {fields : ListingFields}
    (h : ofProduct product currency = .ok fields) : fields.IsSendable := by
  obtain ⟨money, hmoney, rfl⟩ := exists_of_ofProduct h
  refine ⟨?_, fun n hn => Json.isWord_of_int64 (Number.int64_of_int64? hn)⟩
  rintro money ⟨⟩
  exact isWord_of_sentPrice hmoney

/-- A price that is finite and not below zero can be sent in every currency. -/
theorem sentPrice_eq {price : Binary64} {currency code : String} (hfinite : price.isFinite = true)
    (hsign : price.lt Binary64.zero = false) (hcode : parseCurrency currency = .ok code) :
    sentPrice price currency =
      .ok { amount := (price * Binary64.ofNat Money.minorUnits).roundInt64
            divisor := Money.minorUnits
            currencyCode := code } := by
  rw [sentPrice, Money.ofDecimal_eq hfinite hsign hcode]
  rfl

theorem exists_ofProduct {product : Product} {currency code : String}
    (hfinite : product.price.isFinite = true) (hsign : product.price.lt Binary64.zero = false)
    (hcode : parseCurrency currency = .ok code) :
    ∃ fields, ofProduct product currency = .ok fields ∧ fields.IsSendable := by
  obtain ⟨fields, hfields⟩ : ∃ fields, ofProduct product currency = .ok fields :=
    ⟨_, by rw [ofProduct, sentPrice_eq hfinite hsign hcode]; rfl⟩
  exact ⟨fields, hfields, isSendable_of_ofProduct hfields⟩

/-- The fields that are sent for a product. -/
def sent (currency : String) (product : Product) : ListingFields :=
  (ofProduct product currency).toOption.getD { sku := some [product.sku.text] }

theorem sku_sent (currency : String) (product : Product) :
    (sent currency product).sku = some [product.sku.text] := by
  unfold sent
  cases h : ofProduct product currency with
  | error e => rfl
  | ok fields => exact sku_of_ofProduct h

end ListingFields

/-- The bodies that attach images, in the order of their ranks. -/
def imageBodies : (rank : Nat) → List String → List String
  | _, [] => []
  | rank, imageUrl :: rest => (imageBody imageUrl rank).render :: imageBodies (rank + 1) rest

/-- What an export offers to a shop for a product. -/
def offerOf (currency : String) (product : Product) : Offer where
  sku := product.sku.text
  fields := (ListingFields.sent currency product).toJson.members
  images := imageBodies 1 product.images
  skuIn_fields := ListingFields.skuIn_toJson (ListingFields.sku_sent currency product)

end Etsy

end ShopSync
