import Mathlib.Tactic
import ShopSync.Proofs.Etsy.Orders
import ShopSync.Proofs.Etsy.Session
import ShopSync.Proofs.Http.Exchange
import ShopSync.Proofs.Sync.Batch

/-!
Which listing is written.

Whatever a lookup answers, a listing is changed or deleted only right behind a lookup of its SKU,
and only the one that the answer leads to: the first that names the SKU or, when none does, the
first that names none.  Its SKUs may still be there and be no texts, and another listing may have
the same identifier; in no other case is a listing of another SKU written (`writes_other_iff`).
-/

namespace ShopSync.Etsy

open Json (Value Decoder)
open Json.Loose (Members identifier texts textsOf)
open Http (Exchange)

/-! ### Listings of an answer -/

/-- The objects among the results of an answer. -/
def listingsIn (body : String) : Option (List Members) :=
  (Decoder.decode? (Page.decoder fun ms => ms) body).map Page.results

/-- What stands in the array of the SKUs of a listing; nothing when there is no array. -/
def skuValues (ms : Members) : List Value :=
  match Keyed.get? "skus" ms with
  | some (.array vs) => vs
  | _ => []

/-- The listing names the SKU. -/
def NamesSku (sku : Sku) (ms : Members) : Prop := .string sku.text ∈ skuValues ms

/-- No SKU of the listing is a text. -/
def NamesNothing (ms : Members) : Prop := ∀ s, .string s ∉ skuValues ms

/-- The listing has SKUs, and none of them is this one. -/
def IsOther (sku : Sku) (ms : Members) : Prop := skuValues ms ≠ [] ∧ ¬NamesSku sku ms

/-- The first listing with an identifier that has a property, with its identifier. -/
def IsFirst (p : Members → Prop) (listings : List Members) (ms : Members) (id : String) : Prop :=
  ∃ before behind, listings = before ++ ms :: behind ∧ p ms ∧
    identifier ms "listing_id" = some id ∧
    ∀ other ∈ before, p other → identifier other "listing_id" = none

/-- The listing that an answer leads to, with its identifier: the first that names the SKU or, when
none does, the first that names nothing.  Listings without an identifier do not count. -/
inductive Chosen (sku : Sku) (listings : List Members) : Members → String → Prop
  | named {ms : Members} {id : String} (hfirst : IsFirst (NamesSku sku) listings ms id) :
      Chosen sku listings ms id
  | unnamed {ms : Members} {id : String}
      (hnone : ∀ other ∈ listings, NamesSku sku other → identifier other "listing_id" = none)
      (hfirst : IsFirst NamesNothing listings ms id) : Chosen sku listings ms id

section Choice

variable {sku : Sku} {listings : List Members} {ms : Members} {id : String}

theorem mem_texts_iff {s : String} : s ∈ texts ms "skus" ↔ .string s ∈ skuValues ms := by
  unfold texts skuValues
  cases Keyed.get? "skus" ms with
  | none => simp
  | some v =>
    rw [Option.map_some, Option.getD_some]
    cases v with
    | array vs =>
      rw [textsOf, List.mem_filterMap]
      constructor
      · rintro ⟨v, hv, hs⟩
        cases v with
        | string s' =>
          cases hs
          exact hv
        | _ => cases hs
      · intro hs
        exact ⟨_, hs, rfl⟩
    | _ => simp [textsOf]

theorem contains_skus_iff :
    (Listing.ofMembers ms).skus.contains sku.text = true ↔ NamesSku sku ms := by
  rw [List.contains_iff_mem]
  exact mem_texts_iff

theorem isEmpty_skus_iff : (Listing.ofMembers ms).skus.isEmpty = true ↔ NamesNothing ms := by
  rw [List.isEmpty_iff, List.eq_nil_iff_forall_not_mem]
  exact forall_congr' fun s => mem_texts_iff.not

instance : Decidable (NamesSku sku ms) := decidable_of_iff _ contains_skus_iff

instance : Decidable (IsOther sku ms) :=
  decidable_of_iff ((skuValues ms).isEmpty = false ∧ ¬NamesSku sku ms) <| by
    rw [List.isEmpty_eq_false_iff]
    exact Iff.rfl

theorem isFirst_of_findSome? {p : Members → Prop} {told : Listing → Bool}
    (htold : ∀ ms, told (Listing.ofMembers ms) = true ↔ p ms)
    (h : (listings.map Listing.ofMembers).findSome? (fun l => if told l then l.id else none) =
      some id) : ∃ ms, IsFirst p listings ms id := by
  rw [List.findSome?_map, List.findSome?_eq_some_iff] at h
  obtain ⟨before, ms, behind, hsplit, hfound, hbefore⟩ := h
  rw [Function.comp_apply, ite_eq_iff] at hfound
  rcases hfound with ⟨hms, hid⟩ | ⟨-, habsurd⟩
  · refine ⟨ms, before, behind, hsplit, (htold ms).1 hms, hid, fun other hmem hother => ?_⟩
    have hnone := hbefore other hmem
    rwa [Function.comp_apply, if_pos ((htold other).2 hother)] at hnone
  · cases habsurd

theorem forall_of_findSome?_eq_none {p : Members → Prop} {told : Listing → Bool}
    (htold : ∀ ms, told (Listing.ofMembers ms) = true ↔ p ms)
    (h : (listings.map Listing.ofMembers).findSome? (fun l => if told l then l.id else none) =
      none) : ∀ other ∈ listings, p other → identifier other "listing_id" = none := by
  rw [List.findSome?_map, List.findSome?_eq_none_iff] at h
  intro other hmem hother
  have hnone := h other hmem
  rwa [Function.comp_apply, if_pos ((htold other).2 hother)] at hnone

theorem chosen_of_selectListing
    (h : selectListing (listings.map Listing.ofMembers) sku = some id) :
    ∃ ms, Chosen sku listings ms id := by
  unfold selectListing at h
  cases hnamed : namedListing (listings.map Listing.ofMembers) sku with
  | some found =>
    rw [hnamed] at h
    cases h
    obtain ⟨ms, hfirst⟩ := isFirst_of_findSome? (fun ms => contains_skus_iff) hnamed
    exact ⟨ms, .named hfirst⟩
  | none =>
    rw [hnamed] at h
    obtain ⟨ms, hfirst⟩ := isFirst_of_findSome? (fun ms => isEmpty_skus_iff) h
    exact ⟨ms, .unnamed (forall_of_findSome?_eq_none (fun ms => contains_skus_iff) hnamed) hfirst⟩

/-- What a decoder of entries reads is what it makes of the listings of the answer. -/
theorem exists_listingsIn {entry : Members → α} {body : String} {page : Page α}
    (h : Decoder.decode? (Page.decoder entry) body = some page) :
    ∃ listings, listingsIn body = some listings ∧ page.results = listings.map entry := by
  obtain ⟨t, ht, h⟩ := Option.bind_eq_some_iff.1 h
  obtain ⟨fs, hfs, h⟩ := Option.bind_eq_some_iff.1 h
  obtain ⟨ms, hms, h⟩ := Option.bind_eq_some_iff.1 h
  cases h
  refine ⟨Json.Loose.objects ms "results", ?_, rfl⟩
  rw [listingsIn, Decoder.decode?, ht, Option.bind_some, Page.decoder, Decoder.record, hfs,
    Option.bind_some, hms]
  exact congrArg some (List.map_id' _)

end Choice

/-! ### Sessions -/

theorem overwrites_request (client : Http.Client) (method : Http.Method) (url : String)
    (body : Option Value) :
    (client.request method url body).overwrites =
      (decide (method = .patch) || decide (method = .delete)) := by
  rw [Http.Request.overwrites, Http.Client.method_request]

namespace Session

variable (session : Session)

/-- The request that looks a SKU up. -/
def lookupRequest (sku : Sku) : Http.Request :=
  session.client.request .get (session.lookupUrl sku) none

/-- The last exchange is a lookup of the SKU, and the address is that of the listing that its answer
leads to. -/
def LeadsTo (sku : Sku) (es : List Exchange) (url : String) : Prop :=
  ∃ response listings ms id,
    es.getLast? = some { request := session.lookupRequest sku, outcome := .ok response } ∧
    listingsIn response.body = some listings ∧ Chosen sku listings ms id ∧
    url = session.listingUrl id

/-- Whatever is changed or deleted is the listing that the exchanges before led to, for one of the
SKUs. -/
def WritesChosen (skus : List Sku) (es : List Exchange) : Prop :=
  ∀ before write behind, es = before ++ write :: behind → write.request.overwrites = true →
    ∃ sku ∈ skus, session.LeadsTo sku before write.request.url

variable {session} {sku : Sku} {skus : List Sku} {es es' : List Exchange} {url : String}

theorem not_leadsTo_nil : ¬session.LeadsTo sku [] url := by
  rintro ⟨response, listings, ms, id, habsurd, -⟩
  cases habsurd

theorem LeadsTo.append (h : session.LeadsTo sku es' url) : session.LeadsTo sku (es ++ es') url := by
  obtain ⟨response, listings, ms, id, hlast, hchosen⟩ := h
  refine ⟨response, listings, ms, id, ?_, hchosen⟩
  rw [List.getLast?_append, hlast, Option.some_or]

theorem writesChosen_of_forall (h : ∀ e ∈ es, e.request.overwrites = false) :
    session.WritesChosen skus es := by
  rintro before write behind rfl hwrite
  rw [h write (List.mem_append_right _ List.mem_cons_self)] at hwrite
  cases hwrite

theorem WritesChosen.mono {skus' : List Sku} (h : session.WritesChosen skus es)
    (hsub : skus ⊆ skus') : session.WritesChosen skus' es := by
  intro before write behind hsplit hwrite
  obtain ⟨sku, hsku, hleads⟩ := h before write behind hsplit hwrite
  exact ⟨sku, hsub hsku, hleads⟩

theorem WritesChosen.append (h : session.WritesChosen skus es)
    (h' : session.WritesChosen skus es') : session.WritesChosen skus (es ++ es') := by
  intro before write behind hsplit hwrite
  rcases List.append_eq_append_iff.1 hsplit with ⟨before', rfl, rfl⟩ | ⟨cut, rfl, hcut⟩
  · obtain ⟨sku, hsku, hleads⟩ := h' before' write behind rfl hwrite
    exact ⟨sku, hsku, hleads.append⟩
  · rcases List.cons_eq_append_iff.1 hcut with ⟨rfl, rfl⟩ | ⟨behind', rfl, rfl⟩
    · -- nothing comes before the write, so no lookup does
      obtain ⟨sku, -, hleads⟩ := h' [] write behind rfl hwrite
      exact absurd hleads not_leadsTo_nil
    · exact h before write behind' rfl hwrite

theorem WritesChosen.concat (h : session.WritesChosen skus es) {write : Exchange}
    (hsku : sku ∈ skus) (hleads : session.LeadsTo sku es write.request.url) :
    session.WritesChosen skus (es ++ [write]) := by
  intro before write' behind hsplit hwrite
  rcases List.eq_nil_or_concat behind with rfl | ⟨behind', last, rfl⟩
  · obtain ⟨rfl, hlast⟩ := List.append_inj' hsplit rfl
    cases hlast
    exact ⟨sku, hsku, hleads⟩
  · have hfront : es ++ [write] = before ++ write' :: behind' ++ [last] := by
      rw [hsplit, List.concat_eq_append, List.append_assoc, List.cons_append]
    obtain ⟨rfl, -⟩ := List.append_inj' hfront rfl
    exact h before write' behind' rfl hwrite

/-! ### Calls of a session -/

open Attempt Http.Client

variable (session)

theorem sends_findListing (sku : Sku) :
    (session.findListing sku).Sends fun outcome es =>
      (∃ answer, es = [{ request := session.lookupRequest sku, outcome := answer }]) ∧
        ∀ id, outcome = .ok (some id) → session.LeadsTo sku es (session.listingUrl id) := by
  refine (sends_get session.client _ _).bind ?_ ?_
  · rintro e es ⟨answer, rfl, -⟩
    exact ⟨⟨answer, rfl⟩, nofun⟩
  · rintro page es ⟨answer, rfl, hanswer⟩
    obtain ⟨response, payload, rfl, hclassify, hdecode⟩ := hanswer page rfl
    rw [← Http.Response.body_of_classify hclassify] at hdecode
    obtain ⟨listings, hlistings, hresults⟩ := exists_listingsIn hdecode
    refine sends_pure ⟨⟨_, rfl⟩, fun id hid => ?_⟩
    have hselected : selectListing (listings.map Listing.ofMembers) sku = some id := by
      rw [← hresults]
      exact Except.ok.inj hid
    obtain ⟨ms, hchosen⟩ := chosen_of_selectListing hselected
    exact ⟨response, listings, ms, id, rfl, hlistings, hchosen, rfl⟩

theorem writesChosen_lookup (answer : Except Http.Failure Http.Response) :
    session.WritesChosen skus [{ request := session.lookupRequest sku, outcome := answer }] :=
  writesChosen_of_forall fun e he => by
    rw [List.mem_singleton.1 he, lookupRequest, overwrites_request]
    rfl

theorem sends_requireListing (sku : Sku) :
    (session.requireListing sku).Sends fun outcome es =>
      session.WritesChosen [sku] es ∧
        ∀ id, outcome = .ok id → session.LeadsTo sku es (session.listingUrl id) := by
  refine (sends_findListing session sku).bind ?_ ?_
  · rintro e es ⟨⟨answer, rfl⟩, -⟩
    exact ⟨writesChosen_lookup session answer, nofun⟩
  · rintro found es ⟨⟨answer, rfl⟩, hleads⟩
    cases found with
    | none => exact sends_throw ⟨writesChosen_lookup session answer, nofun⟩
    | some listingId =>
      refine sends_pure ⟨writesChosen_lookup session answer, fun id hid => ?_⟩
      cases hid
      exact hleads listingId rfl

/-- Nothing was sent, or one request to the address. -/
def OnlyTo (url : String) (es : List Exchange) : Prop :=
  es = [] ∨ ∃ write, es = [write] ∧ write.request.url = url

theorem sends_patchListing (listingId : String) (fields : ListingFields) :
    (session.patchListing listingId fields).Sends fun _ es =>
      OnlyTo (session.listingUrl listingId) es := by
  refine (sends_push session.client .patch _ _).mono ?_
  rintro outcome es ⟨answer, rfl⟩
  exact .inr ⟨_, rfl, Http.Client.url_request ..⟩

theorem sends_deleteListing (listingId : String) :
    (session.client.delete (session.listingUrl listingId)).Sends fun _ es =>
      OnlyTo (session.listingUrl listingId) es := by
  refine (sends_delete session.client _).mono ?_
  rintro outcome es ⟨answer, rfl⟩
  exact .inr ⟨_, rfl, Http.Client.url_request ..⟩

/-- Behind exchanges that lead to an address it may be written. -/
theorem WritesChosen.onlyTo {sku : Sku} (h : session.WritesChosen [sku] es)
    (hleads : session.LeadsTo sku es url) (honly : OnlyTo url es') :
    session.WritesChosen [sku] (es ++ es') := by
  rcases honly with rfl | ⟨write, rfl, rfl⟩
  · rwa [List.append_nil]
  · exact h.concat List.mem_cons_self hleads

/-- A listing is looked up and then written. -/
theorem sends_requireListing_bind {sku : Sku} {write : String → Attempt Unit}
    (hwrite : ∀ listingId,
      (write listingId).Sends fun _ es => OnlyTo (session.listingUrl listingId) es) :
    (session.requireListing sku >>= write).Sends fun _ es => session.WritesChosen [sku] es := by
  refine (sends_requireListing session sku).bind (fun e es h => h.1) ?_
  rintro listingId es ⟨hes, hleads⟩
  exact (hwrite listingId).mono fun _ es' honly =>
    hes.onlyTo session (hleads listingId rfl) honly

theorem sends_attachImages (listingId : String) (rank : Nat) (images : List String) :
    (session.attachImages listingId rank images).Sends fun _ es =>
      ∀ e ∈ es, e.request.overwrites = false := by
  induction images generalizing rank with
  | nil => exact sends_pure (List.forall_mem_nil _)
  | cons image rest ih =>
    refine sends_lift_run_bind (sends_push session.client .post _ _) ?_
    rintro outcome es ⟨answer, rfl⟩
    refine (ih (rank + 1)).mono fun _ es' hes' => List.forall_mem_cons.2 ⟨?_, hes'⟩
    rw [overwrites_request]
    rfl

theorem sends_createListing (product : Product) (fields : ListingFields) :
    (session.createListing product fields).Sends fun _ es =>
      ∀ e ∈ es, e.request.overwrites = false := by
  have hpost (answer : Except Http.Failure Http.Response) (es : List Exchange)
      (hes : ∀ e ∈ es, e.request.overwrites = false) :
      ∀ e ∈ ({ request := session.client.request .post session.listingsUrl (some fields.toJson),
               outcome := answer } : Exchange) :: es, e.request.overwrites = false := by
    refine List.forall_mem_cons.2 ⟨?_, hes⟩
    rw [overwrites_request]
    rfl
  refine (sends_send session.client .post _ _ _).bind ?_ ?_
  · rintro e es ⟨answer, rfl⟩
    exact hpost answer [] (List.forall_mem_nil _)
  · rintro created es ⟨answer, rfl⟩
    cases created.bind Listing.id with
    | none => exact sends_pure (hpost answer [] (List.forall_mem_nil _))
    | some listingId =>
      exact (sends_attachImages session listingId 1 product.images).mono fun _ es hes =>
        hpost answer es hes

theorem sends_upsertListing (product : Product) :
    (session.upsertListing product).Sends fun _ es => session.WritesChosen [product.sku] es := by
  refine sends_mk_pure_bind (fun _ _ => writesChosen_of_forall (List.forall_mem_nil _))
    fun fields _ => ?_
  refine (sends_findListing session product.sku).bind ?_ ?_
  · rintro e es ⟨⟨answer, rfl⟩, -⟩
    exact writesChosen_lookup session answer
  · rintro found es ⟨⟨answer, rfl⟩, hleads⟩
    have hlookup : session.WritesChosen [product.sku]
        [{ request := session.lookupRequest product.sku, outcome := answer }] :=
      writesChosen_lookup session answer
    cases found with
    | none =>
      exact (sends_createListing session product fields).mono fun _ es hes =>
        hlookup.append (writesChosen_of_forall hes)
    | some listingId =>
      exact (sends_patchListing session listingId fields).mono fun _ es honly =>
        hlookup.onlyTo session (hleads listingId rfl) honly

end Session

/-! ### Batches -/

variable {session : Session}

theorem writesChosen_exportRest {signal : Signal} {products : List Product}
    {running result : SyncResult} {t : List Answered}
    (h : (Batch.exportRest signal session.upsertListing products running).Gives t result) :
    session.WritesChosen (products.map Product.sku) (exchangesIn t) := by
  induction products generalizing running t with
  | nil =>
    obtain ⟨rfl, -⟩ := Dialogue.gives_pure_iff.1 h
    exact Session.writesChosen_of_forall (List.forall_mem_nil _)
  | cons product rest ih =>
    rw [Batch.exportRest] at h
    obtain ⟨look, t', rfl, hlook⟩ := Dialogue.gives_moment_bind_iff.1 h
    rw [exchangesIn_moment]
    cases hreason : signal.interruption? look with
    | some reason =>
      rw [hreason] at hlook
      obtain ⟨rfl, -⟩ := Dialogue.gives_pure_iff.1 hlook
      exact Session.writesChosen_of_forall (List.forall_mem_nil _)
    | none =>
      rw [hreason] at hlook
      obtain ⟨outcome, t₁, t₂, rfl, hproduct, htried⟩ := Dialogue.gives_bind_iff.1 hlook
      have hfirst : session.WritesChosen ((product :: rest).map Product.sku) (exchangesIn t₁) :=
        (Session.sends_upsertListing session product hproduct).mono
          (List.cons_subset_cons _ (List.nil_subset _))
      have hrest {result : SyncResult} (h : (Batch.exportRest signal session.upsertListing rest
          result).Gives t₂ _) : session.WritesChosen ((product :: rest).map Product.sku)
            (exchangesIn t₂) := (ih h).mono (List.subset_cons_self _ _)
      rw [exchangesIn_append]
      refine hfirst.append ?_
      cases outcome with
      | ok u => exact hrest htried
      | error e =>
        dsimp only at htried
        split at htried
        · obtain ⟨rfl, -⟩ := Dialogue.gives_pure_iff.1 htried
          exact Session.writesChosen_of_forall (List.forall_mem_nil _)
        · exact hrest htried

theorem sends_exportProducts (signal : Signal) (products : List Product) :
    (Batch.exportProducts .etsy products signal session.upsertListing).Sends fun _ es =>
      session.WritesChosen (products.map Product.sku) es := by
  intro t outcome h
  rw [Batch.run_exportProducts] at h
  obtain ⟨entry, t', rfl, hentry⟩ := Dialogue.gives_moment_bind_iff.1 h
  rw [exchangesIn_moment]
  split at hentry
  · obtain ⟨rfl, -⟩ := Dialogue.gives_pure_iff.1 hentry
    exact Session.writesChosen_of_forall (List.forall_mem_nil _)
  · obtain ⟨id, t'', rfl, hid⟩ := Dialogue.gives_freshId_bind_iff.1 hentry
    obtain ⟨start, during, rfl, hstart⟩ := Dialogue.gives_moment_bind_iff.1 hid
    obtain ⟨result, t₁, t₂, rfl, hloop, hend⟩ := Dialogue.gives_bind_iff.1 hstart
    obtain ⟨ended, rest, rfl, hrest⟩ := Dialogue.gives_moment_bind_iff.1 hend
    obtain ⟨rfl, -⟩ := Dialogue.gives_pure_iff.1 hrest
    rw [exchangesIn_freshId, exchangesIn_moment, exchangesIn_append, exchangesIn_moment,
      exchangesIn_nil, List.append_nil]
    exact writesChosen_exportRest hloop

/-! ### Operations -/

/-- What the adapter does with listings that it finds by their SKUs. -/
inductive ListingCall where
  | exportProducts (products : List Product) (signal : Signal)
  | updateProduct (product : Product)
  | updateStock (sku : Sku) (quantity : UInt32)
  | updatePrice (sku : Sku) (price : Number.Binary64)
  | deleteProduct (sku : Sku)

namespace ListingCall

/-- The SKUs that a call is about. -/
def skus : ListingCall → List Sku
  | .exportProducts products _ => products.map Product.sku
  | .updateProduct product => [product.sku]
  | .updateStock sku _ => [sku]
  | .updatePrice sku _ => [sku]
  | .deleteProduct sku => [sku]

/-- The attempt of a call. -/
def attempt (adapter : Adapter) : ListingCall → Attempt Unit
  | .exportProducts products signal => do
    let _ ← adapter.exportProducts products signal
  | .updateProduct product => adapter.updateProduct product
  | .updateStock sku quantity => adapter.updateStock sku quantity
  | .updatePrice sku price => adapter.updatePrice sku price
  | .deleteProduct sku => adapter.deleteProduct sku

end ListingCall

open Attempt Http.Client Session

variable {adapter : Adapter}

theorem sends_withSession {skus : List Sku} {f : Session → Attempt α}
    (h : ∀ session, (f session).Sends fun _ es => session.WritesChosen skus es) :
    (adapter.withSession f).Sends fun _ es =>
      es = [] ∨ ∃ session, adapter.session = .ok session ∧ session.WritesChosen skus es := by
  exact sends_mk_pure_bind (fun _ _ => .inl rfl) fun session hsession =>
    (h session).mono fun _ es hes => .inr ⟨session, hsession, hes⟩

/-- Every call changes and deletes only what it was led to. -/
theorem sends_attempt (call : ListingCall) :
    (call.attempt adapter).Sends fun _ es =>
      es = [] ∨ ∃ session, adapter.session = .ok session ∧ session.WritesChosen call.skus es := by
  cases call with
  | exportProducts products signal =>
    refine (sends_withSession fun session => sends_exportProducts signal products).bind
      (fun _ _ h => h) fun _ es h => sends_pure ?_
    rwa [List.append_nil]
  | updateProduct product =>
    refine sends_withSession fun session => sends_requireListing_bind session fun listingId => ?_
    refine sends_mk_pure_bind (fun _ _ => .inl rfl) fun fields _ => ?_
    exact sends_patchListing session listingId fields
  | updateStock sku quantity =>
    exact sends_withSession fun session => sends_requireListing_bind session fun listingId =>
      sends_patchListing session listingId _
  | updatePrice sku price =>
    refine sends_withSession fun session => ?_
    refine sends_mk_pure_bind (fun _ _ => writesChosen_of_forall (List.forall_mem_nil _))
      fun money _ => ?_
    exact sends_requireListing_bind session fun listingId => sends_patchListing session listingId _
  | deleteProduct sku =>
    exact sends_withSession fun session => sends_requireListing_bind session fun listingId =>
      sends_deleteListing session listingId

/-! ### Listings of other SKUs -/

theorem Session.listingUrl_injective (session : Session) :
    Function.Injective session.listingUrl := by
  intro a b h
  have htarget := session.target_listingUrl a
  rw [h, session.target_listingUrl b] at htarget
  simpa using htarget.symm

/-- The chosen listing is one of the answer, and of another SKU when it has SKUs that are no
texts. -/
theorem Chosen.isOther_iff {sku : Sku} {listings : List Members} {ms : Members} {id : String}
    (h : Chosen sku listings ms id) :
    IsOther sku ms ↔ NamesNothing ms ∧ skuValues ms ≠ [] := by
  constructor
  · rintro ⟨hne, hnot⟩
    cases h with
    | named hfirst =>
      obtain ⟨_, _, -, hnames, -⟩ := hfirst
      exact absurd hnames hnot
    | unnamed hnone hfirst =>
      obtain ⟨_, _, -, hnothing, -⟩ := hfirst
      exact ⟨hnothing, hne⟩
  · rintro ⟨hnothing, hne⟩
    exact ⟨hne, hnothing sku.text⟩

theorem Chosen.mem_and_id {sku : Sku} {listings : List Members} {ms : Members} {id : String}
    (h : Chosen sku listings ms id) : ms ∈ listings ∧ identifier ms "listing_id" = some id := by
  have hmem {p : Members → Prop} (hfirst : IsFirst p listings ms id) :
      ms ∈ listings ∧ identifier ms "listing_id" = some id := by
    obtain ⟨before, behind, rfl, -, hid, -⟩ := hfirst
    exact ⟨List.mem_append_right _ List.mem_cons_self, hid⟩
  cases h with
  | named hfirst => exact hmem hfirst
  | unnamed _ hfirst => exact hmem hfirst

/-- **Which listing is written.**  Whatever the outside answers to an operation on listings, a
request that changes or deletes something comes right behind an answered lookup of one of its SKUs,
and goes to the listing that the answer leads to.  So it goes to a listing of another SKU exactly
when the SKUs of the chosen listing are no texts at all, or a listing of another SKU has the
identifier of the chosen one. -/
theorem writes_other_iff {σ : Type} (world : World σ) (adapter : Adapter) (call : ListingCall)
    (s : σ) (before behind : List Exchange) (write : Exchange)
    (hsplit : exchangesIn ((call.attempt adapter).run.transcript world s) =
      before ++ write :: behind)
    (hwrite : write.request.overwrites = true) :
    ∃ session sku response listings ms id,
      adapter.session = .ok session ∧ sku ∈ call.skus ∧
      before.getLast? = some { request := session.lookupRequest sku, outcome := .ok response } ∧
      listingsIn response.body = some listings ∧ Chosen sku listings ms id ∧
      write.request.url = session.listingUrl id ∧
      ((∃ other ∈ listings, IsOther sku other ∧
          (identifier other "listing_id").map session.listingUrl = some write.request.url) ↔
        (NamesNothing ms ∧ skuValues ms ≠ []) ∨
          ∃ other ∈ listings, other ≠ ms ∧ IsOther sku other ∧
            identifier other "listing_id" = some id) := by
  have hgives := Dialogue.gives_transcript world (call.attempt adapter).run s
  rcases sends_attempt call hgives with hnil | ⟨session, hsession, hwrites⟩
  · rw [hnil] at hsplit
    simp at hsplit
  obtain ⟨sku, hsku, response, listings, ms, id, hlast, hlistings, hchosen, hurl⟩ :=
    hwrites before write behind hsplit hwrite
  refine ⟨session, sku, response, listings, ms, id, hsession, hsku, hlast, hlistings, hchosen, hurl,
    ?_⟩
  obtain ⟨hmem, hid⟩ := hchosen.mem_and_id
  have haddress (other : Members) :
      (identifier other "listing_id").map session.listingUrl = some write.request.url ↔
        identifier other "listing_id" = some id := by
    rw [hurl, ← Option.map_some, (Option.map_injective session.listingUrl_injective).eq_iff]
  simp only [haddress]
  constructor
  · rintro ⟨other, hmem, hother, hsame⟩
    by_cases hms : other = ms
    · subst hms
      exact .inl (hchosen.isOther_iff.1 hother)
    · exact .inr ⟨other, hmem, hms, hother, hsame⟩
  · rintro (hkinds | ⟨other, hmem, -, hother, hsame⟩)
    · exact ⟨ms, hmem, hchosen.isOther_iff.2 hkinds, hid⟩
    · exact ⟨other, hmem, hother, hsame⟩

/-- A SKU. -/
def sampleSku : Sku := { text := "ABC", normal := by decide }

/-- A shop that answers every request with the same text. -/
def lookupWorld (body : String) : World (Visit Unit) :=
  Server.world (fun _ s => (.ok (.ok body), s)) (still fun _ => [])

/-- The exchanges when the listing of the SKU is deleted. -/
def deletion (body : String) : List Exchange :=
  exchangesIn (((ListingCall.deleteProduct sampleSku).attempt
    { config := some sampleConfig }).run.transcript (lookupWorld body) { state := (), past := [] })

/-- Listing 7 is looked up and deleted. -/
def deletesSeven (body : String) : Prop :=
  (deletion body).map (fun e =>
      (e.request.method, e.request.url, e.outcome.toOption.map Http.Response.body)) =
    [(.get, (Session.ofConfig sampleConfig).lookupUrl sampleSku, some body),
      (.delete, (Session.ofConfig sampleConfig).listingUrl "7", some body)]

instance (body : String) : Decidable (deletesSeven body) := by unfold deletesSeven; infer_instance

/-- A listing of another SKU and one of the SKU. -/
def sampleAnswer : String :=
  let listing (id sku : String) :=
    "\x7b\"listing_id\":" ++ id ++ ",\"skus\":[\"" ++ sku ++ "\"]\x7d"
  "\x7b\"results\":[" ++ listing "8" "XYZ" ++ "," ++ listing "7" "ABC" ++ "]\x7d"

/-- A listing whose SKU is a number. -/
def numericAnswer : String := "\x7b\"results\":[\x7b\"listing_id\":7,\"skus\":[1234]\x7d]\x7d"

theorem exists_of_deletesSeven {body : String} (h : deletesSeven body) :
    ∃ lookup write, deletion body = [lookup, write] ∧
      lookup.outcome.toOption.map Http.Response.body = some body ∧
      write.request.method = .delete ∧
      write.request.url = (Session.ofConfig sampleConfig).listingUrl "7" := by
  obtain ⟨lookup, rest, hdeletion, hlookup, hrest⟩ := List.map_eq_cons_iff.1 h
  obtain ⟨write, nothing, rfl, hwrite, hnothing⟩ := List.map_eq_cons_iff.1 hrest
  rw [List.map_eq_nil_iff.1 hnothing] at hdeletion
  simp only [Prod.mk.injEq] at hlookup hwrite
  exact ⟨lookup, write, hdeletion, hlookup.2.2, hwrite.1, hwrite.2.1⟩

/-- Of these two listings the one of the SKU is deleted, and not the other. -/
theorem writes_other_iff_sampleAnswer :
    ∃ lookup write, deletion sampleAnswer = [lookup] ++ write :: [] ∧
      write.request.overwrites = true ∧
      ∃ listings, listingsIn sampleAnswer = some listings ∧
        ¬∃ other ∈ listings, IsOther sampleSku other ∧
          (identifier other "listing_id").map (Session.ofConfig sampleConfig).listingUrl =
            some write.request.url := by
  obtain ⟨lookup, write, hdeletion, hbody, hmethod, hseven⟩ :=
    exists_of_deletesSeven (show deletesSeven sampleAnswer by decide +kernel)
  have hwrite : write.request.overwrites = true := by
    rw [Http.Request.overwrites, hmethod]
    rfl
  have hids : ∀ listings ∈ listingsIn sampleAnswer, ∀ other ∈ listings, IsOther sampleSku other →
      identifier other "listing_id" ≠ some "7" := by
    decide +kernel
  obtain ⟨session, sku, response, listings, ms, id, hsession, hsku, hlast, hlistings, hchosen, hurl,
    hother⟩ := writes_other_iff (lookupWorld sampleAnswer) { config := some sampleConfig }
      (.deleteProduct sampleSku) { state := (), past := [] } [lookup] [] write hdeletion hwrite
  cases hsession
  obtain rfl := List.mem_singleton.1 hsku
  obtain rfl : lookup = _ := Option.some.inj hlast
  have hanswer : response.body = sampleAnswer := Option.some.inj hbody
  rw [hanswer] at hlistings
  obtain rfl : id = "7" := Session.listingUrl_injective _ (hurl.symm.trans hseven)
  refine ⟨_, write, hdeletion, hwrite, listings, hlistings, hother.not.2 ?_⟩
  rintro (hkinds | ⟨other, hmem, -, hisOther, hsame⟩)
  · obtain ⟨hmem, hid⟩ := hchosen.mem_and_id
    exact hids listings hlistings ms hmem (hchosen.isOther_iff.2 hkinds) hid
  · exact hids listings hlistings other hmem hisOther hsame

/-- A listing whose SKU is a number is deleted for another SKU. -/
theorem deletes_other :
    ∃ write ∈ deletion numericAnswer, write.request.method = .delete ∧
      ∃ listings, listingsIn numericAnswer = some listings ∧
        ∃ other ∈ listings, IsOther sampleSku other ∧
          (identifier other "listing_id").map (Session.ofConfig sampleConfig).listingUrl =
            some write.request.url := by
  obtain ⟨lookup, write, hdeletion, -, hmethod, hseven⟩ :=
    exists_of_deletesSeven (show deletesSeven numericAnswer by decide +kernel)
  have hlistings : ∃ listings ∈ listingsIn numericAnswer, ∃ other ∈ listings,
      IsOther sampleSku other ∧ identifier other "listing_id" = some "7" := by
    decide +kernel
  obtain ⟨listings, hlistings, other, hmem, hother, hid⟩ := hlistings
  refine ⟨write, ?_, hmethod, listings, hlistings, other, hmem, hother, ?_⟩
  · rw [hdeletion]
    exact List.mem_cons_of_mem _ List.mem_cons_self
  · rw [hid, hseven]
    rfl

end ShopSync.Etsy
