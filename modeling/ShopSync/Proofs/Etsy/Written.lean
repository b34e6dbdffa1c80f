import ShopSync.Proofs.Etsy.Offer
import ShopSync.Proofs.Etsy.Requests
import ShopSync.Proofs.Text.Truncate

/-!
What requests write to listings.

Every request that is sent for a call is one that the call makes, in the shop of the configuration
(`made_of_mem_requestsOf`).  A body that goes to a listing, or to where listings are created, has
the fields of a product of the call, or a stock or a price alone (`exists_writes`).  So each
title that is sent is the shortened name of a product, of at most 140 characters whatever the name
(`attempt_titles`).
-/

namespace ShopSync

open Json (Value)

/-! ### Fields that are written -/

namespace MarketCall.Writes

variable {call : MarketCall} {currency : String} {fields : Etsy.ListingFields}

theorem isSendable (h : call.Writes currency fields) : fields.IsSendable := by
  cases h with
  | product _ hfields => exact Etsy.ListingFields.isSendable_of_ofProduct hfields
  | stock _ _ => exact ⟨nofun, nofun⟩
  | price _ hmoney =>
    refine ⟨?_, nofun⟩
    rintro money ⟨⟩
    exact Etsy.ListingFields.isWord_of_sentPrice hmoney

/-- A title or a SKU is written for a product only, and for a product both are. -/
theorem product_or_neither (h : call.Writes currency fields) :
    (∃ product ∈ call.products,
      fields.title = some (Text.truncate product.name Etsy.titleLimit) ∧
        fields.sku = some [product.sku.text]) ∨
    (call.products = [] ∧ fields.title = none ∧ fields.sku = none) := by
  cases h with
  | product hproduct hfields =>
    obtain ⟨money, -, rfl⟩ := Etsy.ListingFields.exists_of_ofProduct hfields
    exact .inl ⟨_, hproduct, rfl, rfl⟩
  | stock _ _ => exact .inr ⟨rfl, rfl, rfl⟩
  | price _ _ => exact .inr ⟨rfl, rfl, rfl⟩

end MarketCall.Writes

namespace Etsy

open Session

/-- Whether what is written there becomes a listing. -/
def Resource.IsListing : Resource → Prop
  | listings => True
  | listing _ => True
  | _ => False

/-- The request writes a listing of the shop, one that is there or a new one. -/
structure WritesListing (config : Config) (request : Http.Request) : Prop where
  body : request.body.isSome
  url : ∃ resource : Resource, resource.IsListing ∧
    request.url = resource.url (baseUrlOf config) config.shopId

/-- A request that a call makes for a resource of the shop, or the one that reads the taxonomy. -/
inductive Made (config : Config) (call : MarketCall) : Http.Request → Prop
  | shop {resource : Resource} {method : Http.Method} {body : Option Value}
      (hmade : call.Makes config.currencyCode resource method body) :
      Made config call
        ((ofConfig config).client.request method ((ofConfig config).urlOf resource) body)
  | taxonomy (hcall : call = .categories) :
      Made config call ((ofConfig config).client.request .get (ofConfig config).taxonomyUrl none)

namespace Adapter

variable {σ : Type} {adapter : Adapter} {config : Config} {call : MarketCall}
variable {request : Http.Request}

/-- Every request that is sent for a call is one that the call makes. -/
theorem made_of_mem_requestsOf (world : World σ) (hconfig : adapter.config = some config) (s : σ)
    (h : request ∈ requestsOf ((call.attempt adapter).run.queries world s)) :
    Made config call request := by
  have hasks : (call.attempt adapter).Asks fun q =>
      ∀ request, q.request? = some request → Made config call request := by
    refine attempt_of_serves call (Dialogue.isClosed_always _) (fun session hsession => ?_)
      fun session hsession hcall => ?_
    · obtain rfl := ofConfig_eq_of_session hconfig hsession
      refine serves_always nofun nofun (fun _ => nofun) ?_
      rintro resource method body hmade request ⟨⟩
      exact .shop hmade
    · obtain rfl := ofConfig_eq_of_session hconfig hsession
      refine Http.Client.asks_execute (fun _ => nofun) ?_
      rintro request ⟨⟩
      exact .taxonomy hcall
  exact hasks.forall_mem_requestsOf world s request h

/-- What a request writes to a listing are fields that the call writes. -/
theorem exists_writes (world : World σ) (hconfig : adapter.config = some config) (s : σ)
    (h : request ∈ requestsOf ((call.attempt adapter).run.queries world s))
    (hwrites : WritesListing config request) :
    ∃ fields, call.Writes config.currencyCode fields ∧ request.body = some fields.toJson.render ∧
      Value.parse? fields.toJson.render = some (.object fields.toJson.members) := by
  obtain ⟨hbody, resource, hlisting, hurl⟩ := hwrites
  cases made_of_mem_requestsOf world hconfig s h with
  | shop hmade =>
    rw [Http.Client.body_request, Option.isSome_map] at hbody
    rw [Http.Client.url_request] at hurl
    obtain rfl := (ofConfig config).urlOf_injective hurl
    -- images and shipments are no listings, and everything else has no body
    cases hmade with
    | create hfields =>
      exact ⟨_, hfields, Http.Client.body_request ..,
        ListingFields.parse?_render_toJson hfields.isSendable⟩
    | write hfields listingId =>
      exact ⟨_, hfields, Http.Client.body_request ..,
        ListingFields.parse?_render_toJson hfields.isSendable⟩
    | attach _ _ _ _ => exact hlisting.elim
    | track _ _ => exact hlisting.elim
    | lookup _ => cases hbody
    | delete _ _ => cases hbody
    | receipts _ _ _ => cases hbody
  | taxonomy _ =>
    rw [Http.Client.body_request] at hbody
    cases hbody

/-! ### Titles -/

/-- **Titles are shortened names.**  A text is shortened to any number of characters as
`Text.IsTruncation` says, and doing it again with as much room or more changes nothing.  Whoever
answers: a request that writes a listing gives it a title exactly when the call writes a product,
and the title is the name of such a product, shortened to at most 140 characters. -/
theorem attempt_titles :
    (∀ text limit, (∀ t, Text.truncate text limit = t ↔ Text.IsTruncation text limit t) ∧
      ∀ limit', limit ≤ limit' →
        Text.truncate (Text.truncate text limit) limit' = Text.truncate text limit) ∧
    ∀ {σ : Type} (world : World σ) {adapter : Adapter} {config : Config},
      adapter.config = some config → ∀ (call : MarketCall) (s : σ),
        ∀ request ∈ requestsOf ((call.attempt adapter).run.queries world s),
          WritesListing config request → ∃ body ms, request.body = some body ∧
            Value.parse? body = some (.object ms) ∧
            (Keyed.get? "title" ms = none ↔ call.products = []) ∧
            ∀ v, Keyed.get? "title" ms = some v → ∃ product ∈ call.products,
              v = .string (Text.truncate product.name 140) ∧
                (Text.truncate product.name 140).length ≤ 140 := by
  refine ⟨fun text limit => ⟨fun t => Text.truncate_eq_iff, fun limit' =>
    Text.truncate_truncate⟩, ?_⟩
  intro σ world adapter config hconfig call s request hrequest hwrites
  obtain ⟨fields, hfields, hbody, hparse⟩ := exists_writes world hconfig s hrequest hwrites
  refine ⟨_, _, hbody, hparse, ?_⟩
  rw [ListingFields.get?_title]
  rcases hfields.product_or_neither with
    ⟨product, hproduct, htitle, -⟩ | ⟨hproducts, htitle, -⟩
  · rw [htitle]
    refine ⟨iff_of_false nofun (List.ne_nil_of_mem hproduct), ?_⟩
    rintro v ⟨⟩
    exact ⟨product, hproduct, rfl, Text.length_truncate_le _ _⟩
  · rw [htitle]
    exact ⟨iff_of_true rfl hproducts, nofun⟩

/-- A product whose name has to be cut in the middle of three blanks. -/
def wordyProduct : Product where
  sku := { text := "MUG-01", normal := by decide }
  name := String.ofList (List.replicate 136 'a') ++ "   mug"
  price := Number.Binary64.ofNat 20
  quantity := 1

/-- The title that is written ends where the first word ends, and with the ellipsis. -/
theorem attempt_titles_wordyProduct :
    ∃ request ∈ requestsOf (((MarketCall.updateProduct wordyProduct).attempt
        ({ config := some sampleConfig } : Adapter)).run.queries oneListing ⟨(), []⟩),
      WritesListing sampleConfig request ∧ ∃ body ms, request.body = some body ∧
        Value.parse? body = some (.object ms) ∧
        Keyed.get? "title" ms =
          some (.string (String.ofList (List.replicate 136 'a') ++ "...")) := by
  generalize hrequests : requestsOf _ = requests
  have hwritten : requests.map (fun request => (request.url, request.body.isSome)) =
      [((Resource.lookup "MUG-01").url defaultBaseUrl "shop 1", false),
        ((Resource.listing "7").url defaultBaseUrl "shop 1", true)] := by
    subst hrequests
    decide +kernel
  have hbase : baseUrlOf sampleConfig = defaultBaseUrl := by decide +kernel
  obtain ⟨request, hrequest, hpatch⟩ :=
    List.mem_map.1 (hwritten ▸ List.mem_cons_of_mem _ (List.mem_singleton_self _))
  obtain ⟨hurl, hbody⟩ := Prod.mk.inj hpatch
  have hwrites : WritesListing sampleConfig request :=
    ⟨hbody, .listing "7", trivial, by rw [hbase]; exact hurl⟩
  obtain ⟨body, ms, hbody, hparse, hset, htitle⟩ := attempt_titles.2 oneListing rfl
    (.updateProduct wordyProduct) ⟨(), []⟩ request (hrequests ▸ hrequest) hwrites
  refine ⟨request, hrequest, hwrites, body, ms, hbody, hparse, ?_⟩
  obtain ⟨v, hv⟩ := Option.ne_none_iff_exists'.1 fun hnone => List.cons_ne_nil _ _ (hset.1 hnone)
  obtain ⟨product, hproduct, rfl, -⟩ := htitle v hv
  obtain rfl := List.mem_singleton.1 hproduct
  have hcut : Text.truncate wordyProduct.name 140 =
      String.ofList (List.replicate 136 'a') ++ "..." := by
    decide +kernel
  rw [hv, hcut]

end Adapter

end Etsy

end ShopSync
