import Mathlib.Tactic
import ShopSync.Proofs.Etsy.ShopServer

/-!
Writing the listing of a product.

Against the server of a shop a call does to the stock what the offer of its product does.  Where the
SKU is listed there are two requests, the lookup and the overwriting of the first listing that was
found.
-/

namespace ShopSync.Etsy

open Json (Tree Value Decoder)
open Json.Loose (Members objectOf)
open Number (integerText)

/-- The id of a listing as it is written in an address. -/
def idText (id : Int) : String := String.ofList (integerText id)

theorem integer?_idText (id : Int) : Number.integer? (idText id).toList = some id := by
  rw [idText, String.toList_ofList, Number.integer?_integerText]

/-! ### Answers about listings -/

theorem Shop.isWord_id {shop : Shop} {id : Int} (h : id ∈ shop.listings.map ShopListing.id) :
    Json.IsWord id :=
  Json.isWord_of_int64 (shop.inRange id (List.mem_append_left _ h))

theorem readable_shopListing {l : ShopListing} (h : Json.IsWord l.id) : l.toJson.Readable :=
  ⟨Json.Number.readsBack_integer h, ⟨trivial, trivial⟩, trivial⟩

theorem fits_shopListing (l : ShopListing) : l.toJson.Fits (Json.depthLimit - 2) := by
  have hkeys : ["listing_id", "skus"].Nodup := by decide
  exact ⟨hkeys, trivial, ⟨trivial, trivial⟩, trivial⟩

/-- What a lookup answers is a page of the listings of the SKU. -/
theorem spells_found (shop : Shop) (sku : String) :
    Page.Spells (shop.found sku).render none
      ((shop.listings.filter fun l => l.sku = sku).map ShopListing.toJson) := by
  refine Page.spells_render (by simp) ?_ ?_
  · intro v hv
    obtain ⟨l, hl, rfl⟩ := List.mem_map.1 hv
    exact readable_shopListing
      (Shop.isWord_id (List.mem_map_of_mem (List.mem_of_mem_filter hl)))
  · intro v hv
    obtain ⟨l, -, rfl⟩ := List.mem_map.1 hv
    exact fits_shopListing l

theorem identifierOf_ofInt {id : Int} (h : id < Number.int64Limit) :
    Json.Loose.identifierOf (.ofInt id) = some (idText id) := by
  rw [Value.ofInt, Json.Loose.identifierOf, Json.Loose.integerOf, if_pos h]
  rfl

theorem ofMembers_eq {ms : Members} {id : Int} {sku : String} (hrange : id < Number.int64Limit)
    (hid : Keyed.get? "listing_id" ms = some (.ofInt id))
    (hsku : Keyed.get? "skus" ms = some (.array [.string sku])) :
    Listing.ofMembers ms = { id := some (idText id), skus := [sku] } := by
  rw [Listing.ofMembers, Json.Loose.identifier, Json.Loose.texts, hid, hsku, Option.bind_some,
    identifierOf_ofInt hrange]
  rfl

theorem decode?_found (shop : Shop) (sku : Sku) :
    Decoder.decode? (Page.decoder Listing.ofMembers) (shop.found sku.text).render =
      some
        { count := none
          results := (shop.listings.filter fun l => l.sku = sku.text).map fun l =>
            { id := some (idText l.id), skus := [l.sku] } } := by
  have hobjects (ls : List ShopListing) :
      (ls.map ShopListing.toJson).filterMap objectOf =
        ls.map fun l => [("listing_id", .ofInt l.id), ("skus", .array [.string l.sku])] := by
    rw [List.filterMap_map]
    exact congrFun (List.filterMap_eq_map (f := fun l : ShopListing =>
      [("listing_id", Value.ofInt l.id), ("skus", .array [.string l.sku])])) ls
  have hlistings : ((shop.listings.filter fun l => l.sku = sku.text).map fun l =>
        Listing.ofMembers [("listing_id", .ofInt l.id), ("skus", .array [.string l.sku])]) =
      (shop.listings.filter fun l => l.sku = sku.text).map fun l =>
        { id := some (idText l.id), skus := [l.sku] } := by
    refine List.map_congr_left fun l hl => ofMembers_eq ?_ rfl rfl
    have hmem := List.mem_map_of_mem (f := ShopListing.id) (List.mem_of_mem_filter hl)
    exact (shop.inRange l.id (List.mem_append_left _ hmem)).2
  rw [Page.decode?_of_spells Listing.ofMembers (spells_found shop sku.text), Option.bind_none,
    hobjects, List.map_map]
  exact congrArg (fun results => some (Page.mk none results)) hlistings

theorem decode?_shopListing {l : ShopListing} (hword : Json.IsWord l.id)
    (hrange : l.id < Number.int64Limit) :
    Decoder.decode? Listing.decoder l.toJson.render =
      some { id := some (idText l.id), skus := [l.sku] } := by
  have hparse : Tree.parse? l.toJson.render = some (.object (Decoder.spelled
      [("listing_id", (Value.ofInt l.id).toTree),
        ("skus", (Value.array [.string l.sku]).toTree)])) := by
    rw [Tree.parse?_render (readable_shopListing hword)]
    rfl
  have hkeys : (["listing_id", "skus"] : List String).Nodup := by decide
  rw [Listing.decoder, Decoder.decode?_record hparse hkeys]
  exact congrArg some (ofMembers_eq hrange rfl rfl)

/-- Of listings that all have the SKU the first one is selected. -/
theorem selectListing_eq (sku : Sku) (ls : List ShopListing) (h : ∀ l ∈ ls, l.sku = sku.text) :
    selectListing (ls.map fun l => { id := some (idText l.id), skus := [l.sku] }) sku =
      ls.head?.map fun l => idText l.id := by
  cases ls with
  | nil => rfl
  | cons l ls =>
    have hl := h l List.mem_cons_self
    simp [selectListing, namedListing, hl]

/-! ### Single calls -/

section Calls

variable (session : Session) (elsewhere : Elsewhere) {shop : Shop}

theorem server_lookup (sku : Sku) (shop : Shop) :
    Shop.server session.shopRoot
        (session.client.request .get (session.lookupUrl sku) none) shop =
      (.ok (.ok (shop.found sku.text).render), shop) := by
  unfold Shop.server
  simp only [Http.Client.method_request, Http.Client.url_request, session.target_lookupUrl]

theorem runIn_findListing (sku : Sku) (v : Visit Shop) :
    Attempt.runIn ((Shop.server session.shopRoot).world elsewhere) (session.findListing sku) v =
      (.ok ((firstId sku.text v.state.listings).map idText),
        { v with
          past := v.past ++ session.client.asked
            (session.client.request .get (session.lookupUrl sku) none) }) := by
  obtain ⟨ms, hparse, -⟩ := id (spells_found v.state sku.text)
  have hcall := Http.Client.runIn_get elsewhere (server_lookup session sku v.state)
    (classify_ok hparse) (decode?_found v.state sku)
  have hselected : selectListing ((v.state.listings.filter fun l => l.sku = sku.text).map fun l =>
      { id := some (idText l.id), skus := [l.sku] }) sku =
        (firstId sku.text v.state.listings).map idText := by
    rw [selectListing_eq sku _ fun l hl => by simpa using List.of_mem_filter hl, List.head?_filter,
      firstId, Option.map_map]
    rfl
  rw [Session.findListing, Attempt.runIn_bind_ok _ hcall]
  simp only [hselected]
  rfl

theorem server_patch {fields : ListingFields} (hfields : fields.IsSendable)
    {l : ShopListing} {shop : Shop} (hl : (shop.listings.find? fun l' => l'.id = l.id) = some l) :
    Shop.server session.shopRoot (session.client.request .patch (session.listingUrl (idText l.id))
        (some fields.toJson)) shop =
      (.ok (.ok (l.patch fields.toJson.members).toJson.render),
        shop.change l.id (.patch fields.toJson.members) fun _ => rfl) := by
  unfold Shop.server
  simp only [Http.Client.method_request, Http.Client.url_request, Http.Client.body_request,
    session.target_listingUrl, integer?_idText, Option.map_some, Option.bind_some,
    ListingFields.parse?_render_toJson hfields, hl]

theorem find?_id_of_firstId {sku : String} {id : Int} {ls : List ShopListing}
    (h : firstId sku ls = some id) : ∃ l, l.id = id ∧ (ls.find? fun l' => l'.id = id) = some l := by
  obtain ⟨l, hl⟩ := Option.isSome_iff_exists.1
    (List.find?_isSome.2 (by simpa using mem_of_firstId h) :
      (ls.find? fun l' => l'.id = id).isSome)
  exact ⟨l, by simpa using List.find?_some hl, hl⟩

theorem runIn_patchListing {fields : ListingFields} (hfields : fields.IsSendable) {sku : String}
    (hsku : fields.sku = some [sku]) {id : Int} {v : Visit Shop}
    (hfirst : firstId sku v.state.listings = some id) :
    ∃ shop : Shop,
      Attempt.runIn ((Shop.server session.shopRoot).world elsewhere)
          (session.patchListing (idText id) fields) v =
        (.ok (),
          { state := shop
            past := v.past ++ session.client.asked
              (session.client.request .patch (session.listingUrl (idText id))
                (some fields.toJson)) }) ∧
      shop.toStock = { v.state.toStock with
        listings := patchFirst sku fields.toJson.members v.state.listings } := by
  obtain ⟨l, rfl, hl⟩ := find?_id_of_firstId hfirst
  have hnodup := (List.nodup_append.1 v.state.nodup).1
  have hword : Json.IsWord (l.patch fields.toJson.members).id :=
    Shop.isWord_id (mem_of_firstId hfirst)
  have hparse := Tree.parse?_render (readable_shopListing hword)
  refine ⟨v.state.change l.id (.patch fields.toJson.members) fun _ => rfl, ?_, ?_⟩
  · exact Http.Client.runIn_push elsewhere (server_patch session hfields hl) (classify_ok hparse)
      (by rw [hparse, Option.isSome_some])
  · exact congrArg (Stock.mk · v.state.unused)
      (changeAt_patch_eq_patchFirst hnodup hfirst (ListingFields.skuIn_toJson hsku))

theorem server_image (id : Int) (body : Value) (shop : Shop) :
    Shop.server session.shopRoot (session.client.request .post (session.imagesUrl (idText id))
        (some body)) shop =
      (Shop.made (.object []), shop.change id (.addImage body.render) fun _ => rfl) := by
  unfold Shop.server
  simp only [Http.Client.method_request, Http.Client.url_request, Http.Client.body_request,
    session.target_imagesUrl, integer?_idText, Option.map_some]

theorem changeAt_changeAt {id : Int} {f g : ShopListing → ShopListing} (hg : ∀ l, (g l).id = l.id)
    (ls : List ShopListing) :
    changeAt id f (changeAt id g ls) = changeAt id (fun l => f (g l)) ls := by
  rw [changeAt, changeAt, changeAt, List.map_map]
  apply List.map_congr_left
  intro l _
  rw [Function.comp_apply]
  by_cases h : l.id = id
  · rw [if_pos h, if_pos ((hg l).trans h), if_pos h]
  · rw [if_neg h, if_neg h, if_neg h]

/-- Attaching images: the listing has them behind those before. -/
theorem runIn_attachImages (id : Int) (rank : Nat) (images : List String) (v : Visit Shop) :
    ∃ (shop : Shop) (past : List Query),
      Attempt.runIn ((Shop.server session.shopRoot).world elsewhere)
          (session.attachImages (idText id) rank images) v =
        (.ok (), { state := shop, past }) ∧
      shop.toStock = { v.state.toStock with
        listings := changeAt id (fun l => { l with images := l.images ++ imageBodies rank images })
          v.state.listings } := by
  induction images generalizing rank v with
  | nil =>
    have hsame : changeAt id (fun l => { l with images := l.images ++ [] }) v.state.listings =
        v.state.listings := by
      simp [changeAt]
    exact ⟨v.state, v.past, rfl, congrArg (Stock.mk · v.state.unused) hsame.symm⟩
  | cons imageUrl images ih =>
    have hparse : Tree.parse? (Value.object []).render = some (.object []) :=
      Tree.parse?_render (v := .object []) trivial
    have hpush := Http.Client.runIn_push elsewhere
      (server_image session id (imageBody imageUrl rank) v.state)
      (classify_of_parse? (Or.inr rfl) hparse) (by rw [hparse, Option.isSome_some])
    obtain ⟨shop, past, hrun, hstock⟩ := ih (rank + 1)
      { state := v.state.change id (.addImage (imageBody imageUrl rank).render) fun _ => rfl
        past := v.past ++ session.client.asked
          (session.client.request .post (session.imagesUrl (idText id))
            (some (imageBody imageUrl rank))) }
    refine ⟨shop, past, ?_, ?_⟩
    · rw [Session.attachImages]
      refine (Attempt.runIn_lift_bind _ _).trans ?_
      change Attempt.runIn _ _ (Attempt.runIn _
        (session.client.push .post (session.imagesUrl (idText id)) (imageBody imageUrl rank)) v).2
          = _
      rw [hpush]
      exact hrun
    · rw [hstock]
      refine congrArg (Stock.mk · v.state.unused) ((changeAt_changeAt
        (g := .addImage (imageBody imageUrl rank).render) (fun _ => rfl) v.state.listings).trans ?_)
      simp only [ShopListing.addImage, imageBodies, List.append_assoc, List.singleton_append]

theorem create?_eq {shop : Shop} {id : Int} {rest : List Int} (h : shop.unused = id :: rest)
    (sku : String) (sent : Members) :
    ∃ shop' : Shop,
      shop.create? sku sent =
        some ({ id, sku, fields := overwrite (fun _ => none) sent, images := [] }, shop') ∧
      shop'.toStock =
        { listings := shop.listings ++
            [{ id, sku, fields := overwrite (fun _ => none) sent, images := [] }]
          unused := rest } := by
  obtain ⟨⟨listings, unused⟩, nodup, inRange⟩ := shop
  obtain rfl : unused = id :: rest := h
  exact ⟨_, rfl, rfl⟩

theorem server_create {fields : ListingFields} (hfields : fields.IsSendable)
    {sku : String} (hsku : fields.sku = some [sku]) {shop shop' : Shop} {l : ShopListing}
    (h : shop.create? sku fields.toJson.members = some (l, shop')) :
    Shop.server session.shopRoot (session.client.request .post session.listingsUrl
        (some fields.toJson)) shop = (Shop.made l.toJson, shop') := by
  unfold Shop.server
  simp only [Http.Client.method_request, Http.Client.url_request, Http.Client.body_request,
    session.target_listingsUrl, Option.map_some, Option.bind_some,
    ListingFields.parse?_render_toJson hfields, ListingFields.skuIn_toJson hsku, h]

/-- Creating a listing: it has the next id, and the images of the product. -/
theorem runIn_createListing {product : Product} {fields : ListingFields}
    (hfields : fields.IsSendable) (hsku : fields.sku = some [product.sku.text]) {id : Int}
    {rest : List Int} {v : Visit Shop} (hunused : v.state.unused = id :: rest) :
    ∃ (shop : Shop) (past : List Query),
      Attempt.runIn ((Shop.server session.shopRoot).world elsewhere)
          (session.createListing product fields) v = (.ok (), { state := shop, past }) ∧
      shop.toStock =
        { listings := v.state.listings ++
            [{ id, sku := product.sku.text
               fields := overwrite (fun _ => none) fields.toJson.members
               images := imageBodies 1 product.images }]
          unused := rest } := by
  obtain ⟨created, hcreate, hstock⟩ :=
    create?_eq hunused product.sku.text fields.toJson.members
  have hid : id ∈ v.state.listings.map ShopListing.id ++ v.state.unused := by
    rw [hunused]
    exact List.mem_append_right _ List.mem_cons_self
  have hrange := v.state.inRange id hid
  have hparse := Tree.parse?_render (readable_shopListing (l :=
    { id, sku := product.sku.text, fields := overwrite (fun _ => none) fields.toJson.members
      images := [] }) (Json.isWord_of_int64 hrange))
  have hcall := Http.Client.runIn_send elsewhere
    (server_create session hfields hsku hcreate) (classify_of_parse? (Or.inr rfl) hparse)
    (decode?_shopListing (Json.isWord_of_int64 hrange) hrange.2)
  obtain ⟨shop, past, hrun, hshop⟩ := runIn_attachImages session elsewhere id 1 product.images
    { state := created
      past := v.past ++ session.client.asked
        (session.client.request .post session.listingsUrl (some fields.toJson)) }
  refine ⟨shop, past, ?_, ?_⟩
  · rw [Session.createListing, Attempt.runIn_bind_ok _ hcall]
    exact hrun
  · have hfresh : id ∉ v.state.listings.map ShopListing.id := by
      intro hmem
      have hnodup := v.state.nodup
      rw [hunused] at hnodup
      exact (List.nodup_append.1 hnodup).2.2 id hmem id List.mem_cons_self rfl
    have hchanged (f : ShopListing → ShopListing) (l : ShopListing) (hl : l.id = id) :
        changeAt id f (v.state.listings ++ [l]) = v.state.listings ++ [f l] := by
      have hothers := changeAt_of_notMem f hfresh
      rw [changeAt] at hothers ⊢
      rw [List.map_append, hothers, List.map_singleton, if_pos hl]
    rw [hshop]
    simp only [hstock, hchanged, List.nil_append]

/-! ### The whole upsert -/

/-- What an export asks for a product whose SKU is listed. -/
def listedRequests (stock : Stock) (product : Product) : List Http.Request :=
  match firstId product.sku.text stock.listings with
  | some id =>
    [session.client.request .get (session.lookupUrl product.sku) none,
      session.client.request .patch (session.listingUrl (idText id))
        (some (ListingFields.sent session.config.currencyCode product).toJson)]
  | none => []

/-- Writing a product with a valid price does to the stock what its offer does. -/
theorem runIn_upsertListing {product : Product} {code : String}
    (hcode : parseCurrency session.config.currencyCode = .ok code)
    (hfinite : product.price.isFinite = true)
    (hsign : product.price.lt Number.Binary64.zero = false) {v : Visit Shop}
    (hunused : product.sku.text ∈ v.state.skus ∨ v.state.unused ≠ []) :
    ∃ (shop : Shop) (past : List Query),
      Attempt.runIn ((Shop.server session.shopRoot).world elsewhere)
          (session.upsertListing product) v = (.ok (), { state := shop, past }) ∧
      shop.toStock = v.state.toStock.upsert (offerOf session.config.currencyCode product) ∧
      (product.sku.text ∈ v.state.skus →
        requestsOf past = requestsOf v.past ++ listedRequests session v.state.toStock product) := by
  obtain ⟨fields, hfields, hsendable⟩ := ListingFields.exists_ofProduct hfinite hsign hcode
  have hsku := ListingFields.sku_of_ofProduct hfields
  have hsent : ListingFields.sent session.config.currencyCode product = fields := by
    rw [ListingFields.sent, hfields]
    rfl
  have hoffer : (offerOf session.config.currencyCode product).fields = fields.toJson.members := by
    rw [← hsent]
    rfl
  rw [Session.upsertListing, hfields, Attempt.runIn_bind_ok _ (Attempt.runIn_mk_pure _),
    Attempt.runIn_bind_ok _ (runIn_findListing session elsewhere product.sku v)]
  cases hfirst : firstId product.sku.text v.state.listings with
  | some id =>
    have hmem : product.sku.text ∈ v.state.skus := by
      by_contra hnone
      rw [firstId_eq_none_iff.2 hnone] at hfirst
      cases hfirst
    obtain ⟨shop, hrun, hstock⟩ := runIn_patchListing session elsewhere hsendable hsku
      (v := { v with
        past := v.past ++ session.client.asked
          (session.client.request .get (session.lookupUrl product.sku) none) }) hfirst
    refine ⟨shop, _, hrun, ?_, ?_⟩
    · rw [hstock, Stock.upsert_of_mem hmem, hoffer]
      rfl
    · intro _
      rw [listedRequests, hfirst, hsent]
      simp
  | none =>
    have hnew : product.sku.text ∉ v.state.skus := firstId_eq_none_iff.1 hfirst
    obtain ⟨id, rest, hids⟩ := List.exists_cons_of_ne_nil (hunused.resolve_left hnew)
    obtain ⟨shop, past, hrun, hstock⟩ := runIn_createListing session elsewhere hsendable hsku
      (v := { v with
        past := v.past ++ session.client.asked
          (session.client.request .get (session.lookupUrl product.sku) none) }) hids
    refine ⟨shop, past, hrun, ?_, fun hmem => absurd hmem hnew⟩
    rw [hstock, Stock.upsert_of_notMem hnew hids, hoffer]
    rfl

end Calls

end ShopSync.Etsy
