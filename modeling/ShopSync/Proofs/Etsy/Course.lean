import ShopSync.Proofs.Etsy.Export
import ShopSync.Proofs.Etsy.Lookup

/-!
The course of an upsert.

A product without a price is refused before anything is sent.  Any other is looked up, and the reply
decides between one patch of the listing that it leads to and one request that creates a listing.
Images follow only a creation whose reply names the new listing; they are all attached, in their
order, and nothing that comes back for them matters.  `UpsertCourse` lists these courses, and an
upsert has no others (`upsertListing_course`).
-/

namespace ShopSync.Etsy

open Http (Exchange Failure Request Response)
open Http.Client (IsTaken SendFails anything settlePush settleSend)
open Number (Binary64)

namespace Session

variable (session : Session)

/-! ### The requests of an upsert -/

/-- The request that writes fields of a listing. -/
def patchRequest (listingId : String) (fields : ListingFields) : Request :=
  session.client.request .patch (session.listingUrl listingId) (some fields.toJson)

/-- The request that creates a listing with these fields. -/
def createRequest (fields : ListingFields) : Request :=
  session.client.request .post session.listingsUrl (some fields.toJson)

/-- The requests that attach images to a listing, in their order, the first with this rank.  Each
gives the address of its image and the rank. -/
def imageRequests (listingId : String) (rank : Nat) (images : List String) : List Request :=
  (images.zipIdx rank).map fun (imageUrl, rank) =>
    session.client.request .post (session.imagesUrl listingId)
      (some (.object [("image_url", .string imageUrl), ("rank", .ofNat rank)]))

/-- What the reply to a creation says of the new listing: its identifier, if there is one. -/
inductive Creates : Except Failure Response → Option String → Prop
  | silent {response : Response} (hempty : response.IsEmpty) : Creates (.ok response) none
  | told {response : Response} {payload : String} {listing : Listing}
      (hcarries : response.Carries payload)
      (hlisting : Json.Decoder.decode? Listing.decoder payload = some listing) :
      Creates (.ok response) listing.id

end Session

/-- A price that can be sent: finite and not below zero. -/
def IsPrice (price : Binary64) : Prop := price.isFinite = true ∧ price.lt Binary64.zero = false

/-- What is sent after a lookup that led to this listing, or to none: one patch of it, or one
creation and, when its reply names the new listing, every image. -/
inductive WriteCourse (session : Session) (product : Product) :
    Option String → List Exchange → Except MarketError Unit → Prop
  | patched {id : String} {reply : Except Failure Response} (hreply : IsTaken reply) :
      WriteCourse session product (some id)
        [{ request := session.patchRequest id (.sent session.config.currencyCode product),
           outcome := reply }] (.ok ())
  | patchFails {id : String} {reply : Except Failure Response} {e : MarketError}
      (hreply : SendFails .patch (session.listingUrl id) anything reply e) :
      WriteCourse session product (some id)
        [{ request := session.patchRequest id (.sent session.config.currencyCode product),
           outcome := reply }] (.error e)
  | createFails {reply : Except Failure Response} {e : MarketError}
      (hreply : SendFails .post session.listingsUrl Listing.decoder reply e) :
      WriteCourse session product none
        [{ request := session.createRequest (.sent session.config.currencyCode product),
           outcome := reply }] (.error e)
  | unnamed {reply : Except Failure Response} (hreply : Session.Creates reply none) :
      WriteCourse session product none
        [{ request := session.createRequest (.sent session.config.currencyCode product),
           outcome := reply }] (.ok ())
  | named {reply : Except Failure Response} {id : String} {images : List Exchange}
      (hreply : Session.Creates reply (some id))
      (himages : images.map Exchange.request = session.imageRequests id 1 product.images) :
      WriteCourse session product none
        ({ request := session.createRequest (.sent session.config.currencyCode product),
           outcome := reply } :: images) (.ok ())

/-- The courses of an upsert: the requests with their replies, in order, and what it comes to. -/
inductive UpsertCourse (session : Session) (product : Product) :
    List Exchange → Except MarketError Unit → Prop
  | notFinite (hprice : product.price.isFinite = false) :
      UpsertCourse session product []
        (.error (.invalidRequest (ValidationError.nonFiniteValue "price").message))
  | negative (hfinite : product.price.isFinite = true)
      (hprice : product.price.lt Binary64.zero = true) :
      UpsertCourse session product []
        (.error (.invalidRequest (ValidationError.negativeValue "price").message))
  | lookupFails {reply : Except Failure Response} {e : MarketError} (hprice : IsPrice product.price)
      (hlookup : session.Lookup product.sku reply (.error e)) :
      UpsertCourse session product
        [{ request := session.lookupRequest product.sku, outcome := reply }] (.error e)
  | writes {reply : Except Failure Response} {found : Option String} {es : List Exchange}
      {outcome : Except MarketError Unit} (hprice : IsPrice product.price)
      (hlookup : session.Lookup product.sku reply (.ok found))
      (hwrite : WriteCourse session product found es outcome) :
      UpsertCourse session product
        ({ request := session.lookupRequest product.sku, outcome := reply } :: es) outcome

/-! ### Prices -/

namespace ListingFields

variable {product : Product} {currency code : String}

theorem ofProduct_of_not_finite (h : product.price.isFinite = false) :
    ofProduct product currency =
      .error (.invalidRequest (ValidationError.nonFiniteValue "price").message) := by
  have hprice : requireNonNegative "price" product.price = .error (.nonFiniteValue "price") := by
    rw [requireNonNegative, h]
    rfl
  rw [ofProduct, sentPrice, Money.ofDecimal, hprice]
  rfl

theorem ofProduct_of_negative (hfinite : product.price.isFinite = true)
    (h : product.price.lt Binary64.zero = true) :
    ofProduct product currency =
      .error (.invalidRequest (ValidationError.negativeValue "price").message) := by
  have hprice : requireNonNegative "price" product.price = .error (.negativeValue "price") := by
    rw [requireNonNegative, hfinite, h]
    rfl
  rw [ofProduct, sentPrice, Money.ofDecimal, hprice]
  rfl

theorem ofProduct_of_isPrice (hprice : IsPrice product.price)
    (hcode : parseCurrency currency = .ok code) :
    ofProduct product currency = .ok (sent currency product) := by
  obtain ⟨fields, hfields, -⟩ := exists_ofProduct hprice.1 hprice.2 hcode
  rw [sent, hfields]
  rfl

end ListingFields

/-! ### Parts of an upsert -/

namespace Session

open Attempt

variable (session : Session) {es : List Exchange} {outcome : Except MarketError Unit}

theorem sendsOne_patchListing (listingId : String) (fields : ListingFields) :
    (session.patchListing listingId fields).SendsOne (session.patchRequest listingId fields)
      (settlePush .patch (session.listingUrl listingId)) :=
  Http.Client.sendsOne_push session.client .patch _ _

/-- All images are attached, whatever comes back for them. -/
theorem hasRun_attachImages_iff (listingId : String) (rank : Nat) (images : List String) :
    (session.attachImages listingId rank images).HasRun es outcome ↔
      es.map Exchange.request = session.imageRequests listingId rank images ∧ outcome = .ok () := by
  induction images generalizing rank es with
  | nil =>
    have hnone : (session.attachImages listingId rank []).HasRun es outcome ↔
        es = [] ∧ outcome = .ok () := hasRun_mk_pure_iff
    rw [hnone]
    exact and_congr_left' List.map_eq_nil_iff.symm
  | cons image rest ih =>
    set push := session.client.push .post (session.imagesUrl listingId) (imageBody image rank)
      with hpush
    have hcons : (session.attachImages listingId rank (image :: rest)).HasRun es outcome ↔
        ∃ found es₁ es₂, es = es₁ ++ es₂ ∧ push.HasRun es₁ found ∧
          (session.attachImages listingId (rank + 1) rest).HasRun es₂ outcome :=
      hasRun_lift_run_bind_iff
    have hone := Http.Client.sendsOne_push session.client .post (session.imagesUrl listingId)
      (imageBody image rank)
    have hrequests : session.imageRequests listingId rank (image :: rest) =
        session.client.request .post (session.imagesUrl listingId) (some (imageBody image rank)) ::
          session.imageRequests listingId (rank + 1) rest := by
      rw [imageRequests, List.zipIdx_cons, List.map_cons]
      rfl
    rw [hcons, hrequests]
    simp only [hpush, hone _ _, ih]
    constructor
    · rintro ⟨found, _, es₂, rfl, ⟨reply, rfl, rfl⟩, himages, houtcome⟩
      exact ⟨congrArg _ himages, houtcome⟩
    · rintro ⟨himages, houtcome⟩
      obtain ⟨first, es₂, rfl, hfirst, hrest⟩ := List.map_eq_cons_iff.1 himages
      obtain ⟨request, reply⟩ := first
      cases hfirst
      exact ⟨_, [_], es₂, rfl, ⟨reply, rfl, rfl⟩, hrest, houtcome⟩

theorem creates_iff {reply : Except Failure Response} {id : Option String} :
    Creates reply id ↔ ∃ found,
      settleSend .post session.listingsUrl Listing.decoder reply = .ok found ∧
        found.bind Listing.id = id := by
  rw [Option.exists]
  simp only [Http.Client.settleSend_eq_none_iff, Http.Client.settleSend_eq_some_iff]
  constructor
  · rintro (hempty | ⟨hcarries, hlisting⟩)
    · exact .inl ⟨⟨_, rfl, hempty⟩, rfl⟩
    · exact .inr ⟨_, ⟨_, _, rfl, hcarries, hlisting⟩, rfl⟩
  · rintro (⟨⟨response, rfl, hempty⟩, rfl⟩ |
      ⟨listing, ⟨response, payload, rfl, hcarries, hlisting⟩, rfl⟩)
    · exact .silent hempty
    · exact .told hcarries hlisting

/-- What follows a creation whose reply names this listing, or none. -/
def attachCreated (product : Product) : Option String → Attempt Unit
  | some listingId => session.attachImages listingId 1 product.images
  | none => pure ()

theorem hasRun_createListing_iff (product : Product) :
    (session.createListing product (.sent session.config.currencyCode product)).HasRun es outcome ↔
      WriteCourse session product none es outcome := by
  set fields := ListingFields.sent session.config.currencyCode product with hfields
  have hcreate : session.createListing product fields =
      session.client.send .post session.listingsUrl fields.toJson Listing.decoder >>=
        fun created => session.attachCreated product (created.bind Listing.id) := rfl
  have hone := Http.Client.sendsOne_send session.client .post session.listingsUrl fields.toJson
    Listing.decoder
  have hnone (es' : List Exchange) :
      (session.attachCreated product none).HasRun es' outcome ↔ es' = [] ∧ outcome = .ok () :=
    hasRun_mk_pure_iff
  rw [hcreate, hone.hasRun_bind_iff]
  simp only [Http.Client.settleSend_eq_error_iff]
  constructor
  · rintro ⟨reply, ⟨e, hfails, rfl, rfl⟩ | ⟨found, es', hfound, rfl, hrest⟩⟩
    · exact .createFails hfails
    · have hcreates : Creates reply (found.bind Listing.id) :=
        (creates_iff session).2 ⟨found, hfound, rfl⟩
      cases hid : found.bind Listing.id with
      | none =>
        rw [hid] at hcreates hrest
        obtain ⟨rfl, rfl⟩ := (hnone es').1 hrest
        exact .unnamed hcreates
      | some id =>
        rw [hid] at hcreates hrest
        obtain ⟨himages, rfl⟩ := (hasRun_attachImages_iff session id 1 product.images).1 hrest
        exact .named hcreates himages
  · intro h
    cases h with
    | @createFails reply e hfails => exact ⟨reply, .inl ⟨e, hfails, rfl, rfl⟩⟩
    | @unnamed reply hcreates =>
      obtain ⟨found, hfound, hid⟩ := (creates_iff session).1 hcreates
      refine ⟨reply, .inr ⟨found, [], hfound, rfl, ?_⟩⟩
      rw [hid]
      exact (hnone []).2 ⟨rfl, rfl⟩
    | @named reply id images hcreates himages =>
      obtain ⟨found, hfound, hid⟩ := (creates_iff session).1 hcreates
      refine ⟨reply, .inr ⟨found, images, hfound, rfl, ?_⟩⟩
      rw [hid]
      exact (hasRun_attachImages_iff session id 1 product.images).2 ⟨himages, rfl⟩

theorem hasRun_patchListing_iff (product : Product) (id : String) :
    (session.patchListing id (.sent session.config.currencyCode product)).HasRun es outcome ↔
      WriteCourse session product (some id) es outcome := by
  rw [sendsOne_patchListing session id _ es outcome]
  constructor
  · rintro ⟨reply, rfl, houtcome⟩
    cases outcome with
    | ok u => exact .patched (Http.Client.settlePush_eq_ok_iff.1 houtcome.symm)
    | error e => exact .patchFails (Http.Client.settlePush_eq_error_iff.1 houtcome.symm)
  · intro h
    cases h with
    | patched htaken => exact ⟨_, rfl, (Http.Client.settlePush_eq_ok_iff.2 htaken).symm⟩
    | patchFails hfails => exact ⟨_, rfl, (Http.Client.settlePush_eq_error_iff.2 hfails).symm⟩

end Session

/-! ### Upserts -/

section Upsert

variable {session : Session} {product : Product} {es : List Exchange}
variable {outcome : Except MarketError Unit}

/-- Without a price nothing is sent. -/
theorem hasRun_upsertListing_of_error {e : MarketError}
    (h : ListingFields.ofProduct product session.config.currencyCode = .error e) :
    (session.upsertListing product).HasRun es outcome ↔ es = [] ∧ outcome = .error e := by
  rw [Session.upsertListing, h, Attempt.hasRun_error_bind_iff]

/-- With a price the product is looked up first. -/
theorem hasRun_upsertListing_of_isPrice {code : String} (hprice : IsPrice product.price)
    (hcode : parseCurrency session.config.currencyCode = .ok code) :
    (session.upsertListing product).HasRun es outcome ↔
      ∃ reply, (∃ e, session.Lookup product.sku reply (.error e) ∧
          es = [{ request := session.lookupRequest product.sku, outcome := reply }] ∧
          outcome = .error e) ∨
        ∃ found es', session.Lookup product.sku reply (.ok found) ∧
          es = { request := session.lookupRequest product.sku, outcome := reply } :: es' ∧
          WriteCourse session product found es' outcome := by
  rw [Session.upsertListing, ListingFields.ofProduct_of_isPrice hprice hcode,
    Attempt.hasRun_ok_bind_iff, Session.hasRun_findListing_bind_iff]
  refine exists_congr fun reply => or_congr_right ?_
  refine exists_congr fun found => exists_congr fun es' => ?_
  refine and_congr_right' (and_congr_right' ?_)
  cases found with
  | some id => exact session.hasRun_patchListing_iff product id
  | none => exact session.hasRun_createListing_iff product

/-- **The course of an upsert.**  With the session of an adapter that accepted a configuration, an
upsert takes one of the courses, and there is an outside for each of them. -/
theorem upsertListing_course {adapter adapter' : Adapter} {config : Config}
    (hconfigure : adapter.configure config = .ok adapter')
    (hsession : adapter'.session = .ok session) (product : Product) (es : List Exchange)
    (outcome : Except MarketError Unit) :
    (session.upsertListing product).HasRun es outcome ↔
      UpsertCourse session product es outcome := by
  obtain ⟨code, hcode⟩ := Adapter.code_of_session hconfigure hsession
  by_cases hfinite : product.price.isFinite = true
  · by_cases hsign : product.price.lt Binary64.zero = true
    · rw [hasRun_upsertListing_of_error (ListingFields.ofProduct_of_negative hfinite hsign)]
      constructor
      · rintro ⟨rfl, rfl⟩
        exact .negative hfinite hsign
      · rintro (hnot | - | ⟨hprice, -⟩ | ⟨hprice, -, -⟩)
        · cases hfinite.symm.trans hnot
        · exact ⟨rfl, rfl⟩
        · cases hsign.symm.trans hprice.2
        · cases hsign.symm.trans hprice.2
    · have hprice : IsPrice product.price := ⟨hfinite, Bool.eq_false_iff.2 hsign⟩
      rw [hasRun_upsertListing_of_isPrice hprice hcode]
      constructor
      · rintro ⟨reply, ⟨e, hlookup, rfl, rfl⟩ | ⟨found, es', hlookup, rfl, hwrite⟩⟩
        · exact .lookupFails hprice hlookup
        · exact .writes hprice hlookup hwrite
      · rintro (hnot | ⟨-, hbelow⟩ | ⟨-, hlookup⟩ | ⟨-, hlookup, hwrite⟩)
        · cases hfinite.symm.trans hnot
        · exact absurd hbelow hsign
        · exact ⟨_, .inl ⟨_, hlookup, rfl, rfl⟩⟩
        · exact ⟨_, .inr ⟨_, _, hlookup, rfl, hwrite⟩⟩
  · have hnot : product.price.isFinite = false := Bool.eq_false_iff.2 hfinite
    rw [hasRun_upsertListing_of_error (ListingFields.ofProduct_of_not_finite hnot)]
    constructor
    · rintro ⟨rfl, rfl⟩
      exact .notFinite hnot
    · rintro (- | ⟨hfinite', -⟩ | ⟨hprice, -⟩ | ⟨hprice, -, -⟩)
      · exact ⟨rfl, rfl⟩
      · exact absurd hfinite' hfinite
      · exact absurd hprice.1 hfinite
      · exact absurd hprice.1 hfinite

end Upsert

/-- A product with two images. -/
def sampleProduct : Product where
  sku := sampleSku
  name := "Mug"
  price := Binary64.ofNat 20
  quantity := 1
  images := ["https://example.test/1.png", "https://example.test/2.png"]

/-- What comes back for the two images: nothing for the first, and no content for the second. -/
def sampleImages (session : Session) : List Exchange :=
  List.zipWith (fun request outcome => { request, outcome })
    (session.imageRequests "7" 1 sampleProduct.images)
    [.error (Failure.timeout "image"), .ok .noContent]

/-- The SKU is not found, the listing is created, one image is lost, and the upsert succeeds. -/
theorem upsertListing_course_sampleProduct :
    let session := Session.ofConfig sampleConfig
    Adapter.configure {} sampleConfig = .ok { config := some sampleConfig } ∧
      Adapter.session { config := some sampleConfig } = .ok session ∧
      (sampleImages session).length = 2 ∧
      (session.upsertListing sampleProduct).HasRun
        ({ request := session.lookupRequest sampleSku,
           outcome := .ok (.ok "\x7b\"results\":[]\x7d") } ::
          { request := session.createRequest (.sent session.config.currencyCode sampleProduct),
            outcome := .ok (.ok "\x7b\"listing_id\":7\x7d") } ::
          sampleImages session) (.ok ()) := by
  intro session
  have hconfigure : Adapter.configure {} sampleConfig = .ok { config := some sampleConfig } := by
    decide +kernel
  have hprice : IsPrice sampleProduct.price := by
    unfold IsPrice
    decide +kernel
  have hlookup : session.Lookup sampleSku (.ok (.ok "\x7b\"results\":[]\x7d")) (.ok none) := by
    rw [Session.lookup_iff]
    decide +kernel
  have hcreates : Session.Creates (.ok (.ok "\x7b\"listing_id\":7\x7d")) (some "7") := by
    rw [Session.creates_iff session]
    exact ⟨some { id := some "7", skus := [] }, by decide +kernel, rfl⟩
  have himages : (sampleImages session).map Exchange.request =
      session.imageRequests "7" 1 sampleProduct.images := rfl
  have hcourse := (upsertListing_course hconfigure session_sampleConfig sampleProduct _ _).2
    (.writes hprice hlookup (.named hcreates himages))
  exact ⟨hconfigure, session_sampleConfig, rfl, hcourse⟩

end ShopSync.Etsy
