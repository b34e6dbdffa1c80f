import ShopSync.Proofs.Etsy.Choice
import ShopSync.Proofs.Etsy.Offer
import ShopSync.Proofs.Http.Course

/-!
What a lookup comes to.

A lookup of a SKU is one request.  Its reply either is a failure, or lists what the shop has; in
that case a listing is selected exactly when there is one that the reply leads to, and it is that
one.  So the reply alone says how an operation goes on that looks a SKU up (`Lookup`).
-/

namespace ShopSync.Etsy

open Json (Decoder)
open Json.Loose (Members identifier)
open Http (Exchange Failure Response)
open Http.Client (GetFails settleGet)

/-! ### Which listing is selected -/

section Select

variable {sku : Sku} {listings : List Members} {ms : Members} {id : String}
variable {p : Members → Prop} {told : Listing → Bool}

theorem findSome?_of_isFirst (htold : ∀ ms, told (Listing.ofMembers ms) = true ↔ p ms)
    (h : IsFirst p listings ms id) :
    (listings.map Listing.ofMembers).findSome? (fun l => if told l then l.id else none) =
      some id := by
  obtain ⟨before, behind, hsplit, hms, hid, hbefore⟩ := h
  rw [List.findSome?_map, List.findSome?_eq_some_iff]
  refine ⟨before, ms, behind, hsplit, ?_, fun other hmem => ?_⟩
  · rw [Function.comp_apply, if_pos ((htold ms).2 hms)]
    exact hid
  · rw [Function.comp_apply]
    by_cases hother : told (Listing.ofMembers other) = true
    · rw [if_pos hother]
      exact hbefore other hmem ((htold other).1 hother)
    · rw [if_neg hother]

theorem findSome?_eq_none_of_forall (htold : ∀ ms, told (Listing.ofMembers ms) = true ↔ p ms)
    (h : ∀ other ∈ listings, p other → identifier other "listing_id" = none) :
    (listings.map Listing.ofMembers).findSome? (fun l => if told l then l.id else none) =
      none := by
  rw [List.findSome?_map, List.findSome?_eq_none_iff]
  intro other hmem
  rw [Function.comp_apply]
  by_cases hother : told (Listing.ofMembers other) = true
  · rw [if_pos hother]
    exact h other hmem ((htold other).1 hother)
  · rw [if_neg hother]

theorem selectListing_eq_some_iff :
    selectListing (listings.map Listing.ofMembers) sku = some id ↔
      ∃ ms, Chosen sku listings ms id := by
  constructor
  · exact chosen_of_selectListing
  · rintro ⟨ms, hfirst | ⟨hnone, hfirst⟩⟩
    · have hnamed : namedListing (listings.map Listing.ofMembers) sku = some id :=
        findSome?_of_isFirst (fun ms => contains_skus_iff) hfirst
      rw [selectListing, hnamed]
      rfl
    · have hnamed : namedListing (listings.map Listing.ofMembers) sku = none :=
        findSome?_eq_none_of_forall (fun ms => contains_skus_iff) hnone
      have hunnamed : unnamedListing (listings.map Listing.ofMembers) = some id :=
        findSome?_of_isFirst (fun ms => isEmpty_skus_iff) hfirst
      rw [selectListing, hnamed]
      exact hunnamed

theorem selectListing_eq_none_iff :
    selectListing (listings.map Listing.ofMembers) sku = none ↔
      ∀ ms id, ¬Chosen sku listings ms id := by
  rw [Option.eq_none_iff_forall_ne_some, forall_comm]
  refine forall_congr' fun id => ?_
  rw [← not_exists, ← selectListing_eq_some_iff]

end Select

/-! ### Lookups -/

/-- The reply is a success that lists these objects. -/
def Finds (reply : Except Failure Response) (listings : List Members) : Prop :=
  ∃ response payload, reply = .ok response ∧ response.Carries payload ∧
    listingsIn payload = some listings

theorem exists_page_of_listingsIn {entry : Members → α} {body : String} {listings : List Members}
    (h : listingsIn body = some listings) :
    ∃ page, Decoder.decode? (Page.decoder entry) body = some page ∧
      page.results = listings.map entry := by
  obtain ⟨plain, hplain, rfl⟩ := Option.map_eq_some_iff.1 h
  obtain ⟨t, ht, hplain⟩ := Option.bind_eq_some_iff.1 hplain
  obtain ⟨fs, hfs, hplain⟩ := Option.bind_eq_some_iff.1 hplain
  obtain ⟨ms, hms, hplain⟩ := Option.bind_eq_some_iff.1 hplain
  cases hplain
  refine ⟨{ count := Json.Loose.integer ms "count",
            results := (Json.Loose.objects ms "results").map entry }, ?_, ?_⟩
  · rw [Decoder.decode?, ht, Option.bind_some, Page.decoder, Decoder.record, hfs,
      Option.bind_some, hms]
    rfl
  · exact congrArg (List.map entry) (List.map_id' _).symm

namespace Session

variable (session : Session) (sku : Sku)

/-- What a lookup of a SKU comes to, by the reply: it fails, it leads to a listing, or it leads to
none. -/
inductive Lookup : Except Failure Response → Except MarketError (Option String) → Prop
  | fails {reply : Except Failure Response} {e : MarketError}
      (hfails : GetFails (session.lookupUrl sku) (Page.decoder Listing.ofMembers) reply e) :
      Lookup reply (.error e)
  | selects {reply : Except Failure Response} {listings : List Members} {ms : Members} {id : String}
      (hfinds : Finds reply listings) (hchosen : Chosen sku listings ms id) :
      Lookup reply (.ok (some id))
  | misses {reply : Except Failure Response} {listings : List Members}
      (hfinds : Finds reply listings) (hnone : ∀ ms id, ¬Chosen sku listings ms id) :
      Lookup reply (.ok none)

/-- What is made of the reply to a lookup. -/
def settleLookup (reply : Except Failure Response) : Except MarketError (Option String) :=
  settleGet (session.lookupUrl sku) (Page.decoder Listing.ofMembers) reply >>= fun page =>
    .ok (selectListing page.results sku)

theorem sendsOne_findListing :
    (session.findListing sku).SendsOne (session.lookupRequest sku) (session.settleLookup sku) :=
  (Http.Client.sendsOne_get session.client _ _).bind_pure fun _ => rfl

variable {session sku} {reply : Except Failure Response}

theorem settleLookup_eq_ok_iff {found : Option String} :
    session.settleLookup sku reply = .ok found ↔
      ∃ listings, Finds reply listings ∧
        selectListing (listings.map Listing.ofMembers) sku = found := by
  rw [settleLookup, bind_eq_ok_iff]
  simp only [Http.Client.settleGet_eq_ok_iff]
  constructor
  · rintro ⟨page, ⟨response, payload, rfl, hcarries, hpage⟩, hfound⟩
    obtain ⟨listings, hlistings, hresults⟩ := exists_listingsIn hpage
    refine ⟨listings, ⟨response, payload, rfl, hcarries, hlistings⟩, ?_⟩
    rw [← hresults]
    exact Except.ok.inj hfound
  · rintro ⟨listings, ⟨response, payload, rfl, hcarries, hlistings⟩, hfound⟩
    obtain ⟨page, hpage, hresults⟩ :=
      @exists_page_of_listingsIn _ Listing.ofMembers _ _ hlistings
    refine ⟨page, ⟨response, payload, rfl, hcarries, hpage⟩, ?_⟩
    rw [hresults, hfound]

/-- The reply alone says what a lookup comes to. -/
theorem lookup_iff {outcome : Except MarketError (Option String)} :
    session.Lookup sku reply outcome ↔ session.settleLookup sku reply = outcome := by
  constructor
  · rintro (hfails | ⟨hfinds, hchosen⟩ | ⟨hfinds, hnone⟩)
    · rw [settleLookup, Http.Client.settleGet_eq_error_iff.2 hfails]
      rfl
    · exact settleLookup_eq_ok_iff.2 ⟨_, hfinds, selectListing_eq_some_iff.2 ⟨_, hchosen⟩⟩
    · exact settleLookup_eq_ok_iff.2 ⟨_, hfinds, selectListing_eq_none_iff.2 hnone⟩
  · intro h
    cases outcome with
    | error e =>
      rw [settleLookup, bind_eq_error_iff] at h
      rcases h with h | ⟨page, -, ⟨⟩⟩
      exact .fails (Http.Client.settleGet_eq_error_iff.1 h)
    | ok found =>
      obtain ⟨listings, hfinds, hselect⟩ := settleLookup_eq_ok_iff.1 h
      cases found with
      | some id =>
        obtain ⟨ms, hchosen⟩ := selectListing_eq_some_iff.1 hselect
        exact .selects hfinds hchosen
      | none => exact .misses hfinds (selectListing_eq_none_iff.1 hselect)

/-! ### What goes on from a lookup -/

variable {es : List Exchange}

/-- An operation that looks a SKU up ends with the failure of the lookup, or goes on with what it
comes to. -/
theorem hasRun_findListing_bind_iff {α : Type} {f : Option String → Attempt α}
    {outcome : Except MarketError α} :
    (session.findListing sku >>= f).HasRun es outcome ↔
      ∃ reply, (∃ e, session.Lookup sku reply (.error e) ∧
          es = [{ request := session.lookupRequest sku, outcome := reply }] ∧
          outcome = .error e) ∨
        ∃ found es', session.Lookup sku reply (.ok found) ∧
          es = { request := session.lookupRequest sku, outcome := reply } :: es' ∧
          (f found).HasRun es' outcome := by
  simp only [(sendsOne_findListing session sku).hasRun_bind_iff, lookup_iff]

/-- One that needs a listing ends with the failure of the lookup or, when it leads to none, with
that; otherwise it goes on with the listing. -/
theorem hasRun_requireListing_bind_iff {α : Type} {f : String → Attempt α}
    {outcome : Except MarketError α} :
    (session.requireListing sku >>= f).HasRun es outcome ↔
      ∃ reply, (∃ e, session.Lookup sku reply (.error e) ∧
          es = [{ request := session.lookupRequest sku, outcome := reply }] ∧
          outcome = .error e) ∨
        (session.Lookup sku reply (.ok none) ∧
          es = [{ request := session.lookupRequest sku, outcome := reply }] ∧
          outcome = .error (.notFound sku)) ∨
        ∃ id es', session.Lookup sku reply (.ok (some id)) ∧
          es = { request := session.lookupRequest sku, outcome := reply } :: es' ∧
          (f id).HasRun es' outcome := by
  rw [requireListing, bind_assoc, hasRun_findListing_bind_iff]
  refine exists_congr fun reply => or_congr_right ?_
  rw [Option.exists]
  refine or_congr ?_ Iff.rfl
  have hthrow (es' : List Exchange) :
      Attempt.HasRun ((throw (.notFound sku) : Attempt String) >>= f) es' outcome ↔
        es' = [] ∧ outcome = .error (.notFound sku) :=
    Attempt.hasRun_error_bind_iff
  constructor
  · rintro ⟨es', hlookup, rfl, hrun⟩
    obtain ⟨rfl, houtcome⟩ := (hthrow es').1 hrun
    exact ⟨hlookup, rfl, houtcome⟩
  · rintro ⟨hlookup, rfl, houtcome⟩
    exact ⟨[], hlookup, rfl, (hthrow []).2 ⟨rfl, houtcome⟩⟩

end Session

end ShopSync.Etsy
