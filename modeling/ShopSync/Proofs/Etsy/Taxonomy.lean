import ShopSync.Proofs.Etsy.Identity
import ShopSync.Proofs.Etsy.Refusal
import ShopSync.Proofs.Number.Grammar
import ShopSync.Proofs.Sync.Mapping

/-!
Under which category a product is listed.

The service hands products over under what their categories become, and the adapter sends such a
category with the listing when it is a whole number of 64 bits, once the blanks around it are taken
away; any other category is left out.  So what is listed depends on all mappings of the
configuration and on all that were ever saved, and on nothing else (`exports_are_listed_under`).
-/

namespace ShopSync.Etsy

open Http (Exchange Failure Request)
open Json (Value)
open Number (SpellsInteger int64?)
open Service (ownMappings)

/-! ### Listings that say their category -/

/-- The body of the request is an object that says the category of the product as a number exactly
when it is one. -/
def SaysCategory (product : Product) (request : Request) : Prop :=
  ∃ body ms, request.body = some body ∧ Value.parse? body = some (.object ms) ∧
    ∀ v, Keyed.get? "taxonomy_id" ms = some v ↔
      ∃ n, v = .ofInt n ∧ SpellsInteger (Text.trim product.categoryId).toList n ∧ IsInt64 n

/-- What is sent for a product: a lookup of its SKU, its listing, which says its category, and
images. -/
inductive Session.SendsFor (session : Session) (product : Product) : Request → Prop
  | lookup : SendsFor session product (session.lookupRequest product.sku)
  | patch {listingId : String} {fields : ListingFields}
      (hcategory : SaysCategory product (session.patchRequest listingId fields)) :
      SendsFor session product (session.patchRequest listingId fields)
  | create {fields : ListingFields}
      (hcategory : SaysCategory product (session.createRequest fields)) :
      SendsFor session product (session.createRequest fields)
  | image {listingId : String} {request : Request} {rank : Nat}
      (hmem : request ∈ session.imageRequests listingId rank product.images) :
      SendsFor session product request

namespace ListingFields

variable {product : Product} {currency code : String}

theorem get?_taxonomyId (fields : ListingFields) :
    Keyed.get? "taxonomy_id" fields.toJson.members = fields.taxonomyId.map Value.ofInt := by
  simp [toJson, Value.members, List.append_assoc, Json.Value.get?_optionalMember_append,
    Json.Value.get?_optionalMember]

theorem taxonomyId_of_ofProduct {fields : ListingFields}
    (h : ofProduct product currency = .ok fields) :
    fields.taxonomyId = int64? (Text.trim product.categoryId) := by
  obtain ⟨money, -, rfl⟩ := exists_of_ofProduct h
  rfl

theorem saysCategory (hprice : IsPrice product.price)
    (hcode : parseCurrency currency = .ok code) {request : Request}
    (hbody : request.body = some (sent currency product).toJson.render) :
    SaysCategory product request := by
  obtain ⟨fields, hfields, hsendable⟩ := exists_ofProduct hprice.1 hprice.2 hcode
  have hsent : sent currency product = fields := by
    rw [sent, hfields]
    rfl
  rw [hsent] at hbody
  refine ⟨_, _, hbody, parse?_render_toJson hsendable, fun v => ?_⟩
  rw [get?_taxonomyId, taxonomyId_of_ofProduct hfields, Option.map_eq_some_iff]
  simp only [Number.int64?_eq_some_iff]
  constructor
  · rintro ⟨n, hn, rfl⟩
    exact ⟨n, rfl, hn⟩
  · rintro ⟨n, rfl, hn⟩
    exact ⟨n, hn, rfl⟩

end ListingFields

/-! ### Runs -/

section Runs

variable {adapter : Adapter} {session : Session} {product : Product} {code : String}
variable {es : List Exchange}

/-- What is written behind a lookup is the listing, and images. -/
theorem WriteCourse.sendsFor {found : Option String} {outcome : Except MarketError Unit}
    (h : WriteCourse session product found es outcome) (hprice : IsPrice product.price)
    (hcode : parseCurrency session.config.currencyCode = .ok code) :
    ∀ x ∈ es, session.SendsFor product x.request := by
  have hpatch (id : String) : session.SendsFor product
      (session.patchRequest id (.sent session.config.currencyCode product)) :=
    .patch (ListingFields.saysCategory hprice hcode rfl)
  have hcreate : session.SendsFor product
      (session.createRequest (.sent session.config.currencyCode product)) :=
    .create (ListingFields.saysCategory hprice hcode rfl)
  cases h with
  | patched => exact List.forall_mem_singleton.2 (hpatch _)
  | patchFails => exact List.forall_mem_singleton.2 (hpatch _)
  | createFails => exact List.forall_mem_singleton.2 hcreate
  | unnamed => exact List.forall_mem_singleton.2 hcreate
  | named hreply himages =>
    refine List.forall_mem_cons.2 ⟨hcreate, fun x hx => ?_⟩
    have hmem : x.request ∈ session.imageRequests _ 1 product.images :=
      himages ▸ List.mem_map_of_mem hx
    exact .image hmem

theorem sendsFor_of_upsertListing (hcode : parseCurrency session.config.currencyCode = .ok code)
    {outcome : Except MarketError Unit} (h : (session.upsertListing product).HasRun es outcome) :
    ∀ x ∈ es, session.SendsFor product x.request := by
  by_cases hprice : IsPrice product.price
  · rw [hasRun_upsertListing_of_isPrice hprice hcode] at h
    obtain ⟨reply, ⟨e, -, rfl, -⟩ | ⟨found, es', -, rfl, hwrite⟩⟩ := h
    · exact List.forall_mem_singleton.2 .lookup
    · exact List.forall_mem_cons.2 ⟨.lookup, hwrite.sendsFor hprice hcode⟩
  · rw [hasRun_upsertListing_of_error (ListingFields.ofProduct_of_not_isPrice hprice _)] at h
    obtain ⟨rfl, -⟩ := h
    exact List.forall_mem_nil _

theorem sendsFor_of_updateProduct (hsession : adapter.session = .ok session)
    (hcode : parseCurrency session.config.currencyCode = .ok code)
    {outcome : Except MarketError Unit} (h : (adapter.updateProduct product).HasRun es outcome) :
    ∀ x ∈ es, session.SendsFor product x.request := by
  by_cases hprice : IsPrice product.price
  · obtain ⟨reply, ⟨e, -, rfl, -⟩ | ⟨-, rfl, -⟩ | ⟨id, es', -, rfl, hwrite⟩⟩ :=
      (Adapter.hasRun_updateProduct_of_isPrice hsession hprice hcode).1 h
    · exact List.forall_mem_singleton.2 .lookup
    · exact List.forall_mem_singleton.2 .lookup
    · exact List.forall_mem_cons.2 ⟨.lookup, hwrite.sendsFor hprice hcode⟩
  · cases (PriceWrite.hasRun_iff_refusalCourse (.update product) hsession hprice).1 h with
    | unsent => exact List.forall_mem_nil _
    | lookupFails => exact List.forall_mem_singleton.2 .lookup
    | notFound => exact List.forall_mem_singleton.2 .lookup
    | lookedUp => exact List.forall_mem_singleton.2 .lookup

end Runs

/-- **Under which category a product is listed.**  A service whose store had no mappings hands over
the products of an export in their order, each as it was given but for its category, which is the
target that was saved last for it, else the last own target, else what it was; an update does the
same.  What is sent for a product that was handed over says its category exactly when that is a
whole number of 64 bits.  The store has one mapping for each category, in the order in which the
categories first came, with the target that came last. -/
theorem exports_are_listed_under {α : Type} [Marketplace α] {service : Service α MemoryStore}
    {start : MemoryStore} {calls : List StoreCall} (hstart : ∀ id, start.mappingsOf id = [])
    (hstore : service.store = start.after calls) :
    (∀ id adapter, service.registry.findReady id = .ok adapter →
      let saved := savedMappings (Marketplace.id adapter) calls
      (∀ products signal, ∃ handed,
        List.Forall₂ (HandedAs (ownMappings adapter) saved) products handed ∧
        (Service.exportProducts id products signal).on service =
          (Marketplace.exportProducts adapter handed signal).run >>= fun outcome =>
            pure (outcome.mapError .market, service.afterBatch outcome)) ∧
      ∀ product, ∃ handed, HandedAs (ownMappings adapter) saved product handed ∧
        (Service.updateProduct id product).on service =
          (Marketplace.updateProduct adapter handed).run >>= fun outcome =>
            pure (outcome.mapError .market, service)) ∧
    (∀ (adapter adapter' : Adapter) config session, adapter.configure config = .ok adapter' →
      adapter'.session = .ok session →
      (∀ handed signal es outcome,
        (adapter'.exportProducts handed signal).HasRun es outcome →
          ∃ items, Batch.AreRuns session.upsertListing handed es items ∧
            ∀ item ∈ items, ∀ x ∈ item.exchanges, session.SendsFor item.product x.request) ∧
      ∀ handed es outcome, (adapter'.updateProduct handed).HasRun es outcome →
        ∀ x ∈ es, session.SendsFor handed x.request) ∧
    ∀ id,
      (service.store.mappingsOf id).map CategoryMapping.shopCategoryId =
        ((savedMappings id calls).map CategoryMapping.shopCategoryId).eraseDups ∧
      ((service.store.mappingsOf id).map CategoryMapping.shopCategoryId).Nodup ∧
      ∀ m, m ∈ service.store.mappingsOf id ↔
        LastLeads (savedMappings id calls) m.shopCategoryId m.marketplaceCategoryId := by
  refine ⟨fun id adapter hready => ⟨Service.on_exportProducts_handed hstart hstore hready,
    Service.on_updateProduct_handed hstart hstore hready⟩,
    fun adapter adapter' config session hconfigure hsession => ?_, fun id => ?_⟩
  · obtain ⟨code, hcode⟩ := Adapter.code_of_session hconfigure hsession
    refine ⟨fun handed signal es outcome hrun => ?_, fun handed es outcome hrun =>
      sendsFor_of_updateProduct hsession hcode hrun⟩
    obtain ⟨items, hitems, -⟩ := Adapter.exists_areRuns_of_hasRun hsession hrun
    exact ⟨items, hitems, fun item hmem =>
      sendsFor_of_upsertListing hcode (hitems.hasRun item hmem)⟩
  · have hkept : service.store.mappingsOf id = keepMappings [] (savedMappings id calls) := by
      rw [hstore, MemoryStore.mappingsOf_after, hstart]
    rw [hkept]
    exact ⟨map_keepMappings _, nodup_keepMappings _, fun m => mem_keepMappings_iff⟩

/-- A configuration with two mappings for one category. -/
def mappedConfig : Config :=
  { sampleConfig with
    categoryMappings :=
      [{ shopCategoryId := "cups", marketplaceCategoryId := "8" },
        { shopCategoryId := "mugs", marketplaceCategoryId := "7" },
        { shopCategoryId := "cups", marketplaceCategoryId := " +9 " }] }

/-- Mappings that are saved one after another: one for a category that has its own, one for a
category that is a target, and a new one for the first category. -/
def mappingCalls : List StoreCall :=
  [.saveMapping .etsy { shopCategoryId := "mugs", marketplaceCategoryId := "12" },
    .saveMapping .etsy { shopCategoryId := "12", marketplaceCategoryId := "99" },
    .saveMapping .etsy { shopCategoryId := "mugs", marketplaceCategoryId := "12 a" }]

/-- A service with the configuration, after the calls. -/
def mappedService : Service Adapter MemoryStore where
  registry := Registry.empty.register { config := some mappedConfig }
  store := ({} : MemoryStore).after mappingCalls

/-- One product under each of these categories. -/
def productsUnder (categoryIds : List String) : List Product :=
  categoryIds.map fun categoryId => { sampleProduct with categoryId }

/-- The last mapping for a category counts, a target is not looked up again, and of what an update
sends the listing says that its category is 9. -/
theorem exports_are_listed_under_mappedService :
    let adapter : Adapter := { config := some mappedConfig }
    let session := Session.ofConfig mappedConfig
    let cup : Product := { sampleProduct with categoryId := " +9 " }
    (∀ id, ({} : MemoryStore).mappingsOf id = []) ∧
      mappedService.registry.findReady .etsy = .ok adapter ∧
      (Service.exportProducts .etsy (productsUnder ["mugs", "cups", "12", "Cups"])
          { token := 0 }).on mappedService =
        ((adapter.exportProducts (productsUnder ["12 a", " +9 ", "99", "Cups"])
            { token := 0 }).run >>= fun outcome =>
          pure (outcome.mapError .market, mappedService.afterBatch outcome)) ∧
      (adapter.updateProduct cup).HasRun
        [{ request := session.lookupRequest sampleSku, outcome := .ok (.ok namedSecond) },
          { request := session.patchRequest "7" (.sent session.config.currencyCode cup),
            outcome := .ok .noContent }] (.ok ()) ∧
      session.SendsFor cup (session.patchRequest "7" (.sent session.config.currencyCode cup)) ∧
      (mappedService.store.mappingsOf .etsy).map CategoryMapping.shopCategoryId =
        ["mugs", "12"] := by
  intro adapter session cup
  have hstart (id : MarketplaceId) : ({} : MemoryStore).mappingsOf id = [] := rfl
  have hready : mappedService.registry.findReady .etsy = .ok adapter := rfl
  have hconfigure : Adapter.configure {} mappedConfig = .ok adapter := by decide +kernel
  have hsession : adapter.session = .ok session := rfl
  have hstore : mappedService.store = ({} : MemoryStore).after mappingCalls := rfl
  obtain ⟨hservice, hsent, hkept⟩ := exports_are_listed_under hstart hstore
  obtain ⟨handed, hall, hexport⟩ := (hservice .etsy adapter hready).1
    (productsUnder ["mugs", "cups", "12", "Cups"]) { token := 0 }
  have hhanded : handed = productsUnder ["12 a", " +9 ", "99", "Cups"] := by
    have hmap : (productsUnder ["mugs", "cups", "12", "Cups"]).map
        (Service.mapCategory (ownMappings adapter ++ savedMappings .etsy mappingCalls)) = handed :=
      List.forall₂_eq_eq_eq ▸ List.forall₂_map_left_iff.2
        (hall.imp fun _ _ h => Service.handedAs_iff.1 h)
    rw [← hmap]
    decide +kernel
  rw [hhanded] at hexport
  have hprice : IsPrice cup.price := by
    unfold IsPrice
    decide +kernel
  have hrun : (adapter.updateProduct cup).HasRun
      [{ request := session.lookupRequest sampleSku, outcome := .ok (.ok namedSecond) },
        { request := session.patchRequest "7" (.sent session.config.currencyCode cup),
          outcome := .ok .noContent }] (.ok ()) := by
    have hlookup : session.Lookup sampleSku (.ok (.ok namedSecond)) (.ok (some "7")) := by
      rw [Session.lookup_iff]
      decide +kernel
    have hcode : parseCurrency session.config.currencyCode = .ok "USD" := by decide +kernel
    rw [Adapter.hasRun_updateProduct_of_isPrice hsession hprice hcode]
    exact ⟨_, .inr (.inr ⟨"7", _, hlookup, rfl, .patched ⟨.noContent, rfl, by decide, .inl rfl⟩⟩)⟩
  refine ⟨hstart, hready, hexport, hrun, ?_, ?_⟩
  · exact (hsent {} adapter mappedConfig session hconfigure hsession).2 cup _ _ hrun _
      (List.mem_cons_of_mem _ List.mem_cons_self)
  · rw [(hkept .etsy).1]
    decide +kernel

end ShopSync.Etsy
