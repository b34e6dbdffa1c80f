import ShopSync.Proofs.Etsy.ItemWrite
import ShopSync.Proofs.Sync.Items

/-!
When a price is refused.

A price that is not finite or below zero cannot be sent, and a write with such a price is refused.
An upsert and the write of a price find that out first, so they send nothing.  An update of a
product looks the SKU up before it computes the price: a lookup that fails or leads to no listing
hides the refusal, and otherwise the refusal comes behind a request.  So what is refused is refused
before anything is sent unless it is such an update (`refusesFirst_iff`).
-/

namespace ShopSync.Etsy

open Http (Exchange Failure Request Response)
open Http.Client (Fails GetFails SendFails anything)
open Number (Binary64)

/-- A write that sends a price. -/
inductive PriceWrite where
  /-- All fields of an existing listing. -/
  | update (product : Product)
  /-- The price of an existing listing. -/
  | price (sku : Sku) (price : Binary64)
  /-- What an export does with one of its products. -/
  | item (product : Product)

namespace PriceWrite

/-- The operation of an adapter that writes it. -/
def attempt (adapter : Adapter) : PriceWrite → Attempt Unit
  | update product => adapter.updateProduct product
  | price sku p => adapter.updatePrice sku p
  | item product => adapter.withSession fun session => session.upsertListing product

/-- The price that is to be sent. -/
def sentPrice : PriceWrite → Binary64
  | update product => product.price
  | price _ p => p
  | item product => product.price

/-- The price is looked at before the SKU is looked up. -/
def ChecksFirst : PriceWrite → Prop
  | update _ => False
  | _ => True

end PriceWrite

/-- A write is refused only before anything is sent, and always when its price is none. -/
structure RefusesFirst (attempt : Attempt Unit) (price : Binary64) : Prop where
  unsent : ∀ es message, attempt.HasRun es (.error (.invalidRequest message)) → es = []
  refused : ¬IsPrice price → ∀ es outcome, attempt.HasRun es outcome →
    ∃ message, outcome = .error (.invalidRequest message)

/-- Why a price cannot be sent. -/
def priceFault (price : Binary64) : ValidationError :=
  if price.isFinite then .negativeValue "price" else .nonFiniteValue "price"

/-- The courses of a write whose price is none: a refusal before anything is sent or, for an update,
what the lookup comes to, with the refusal behind it when it leads to a listing. -/
inductive RefusalCourse (session : Session) :
    PriceWrite → List Exchange → Except MarketError Unit → Prop
  | unsent {write : PriceWrite} (hfirst : write.ChecksFirst) :
      RefusalCourse session write []
        (.error (.invalidRequest (priceFault write.sentPrice).message))
  | lookupFails {product : Product} {reply : Except Failure Response} {e : MarketError}
      (hlookup : session.Lookup product.sku reply (.error e)) :
      RefusalCourse session (.update product)
        [{ request := session.lookupRequest product.sku, outcome := reply }] (.error e)
  | notFound {product : Product} {reply : Except Failure Response}
      (hlookup : session.Lookup product.sku reply (.ok none)) :
      RefusalCourse session (.update product)
        [{ request := session.lookupRequest product.sku, outcome := reply }]
        (.error (.notFound product.sku))
  | lookedUp {product : Product} {reply : Except Failure Response} {listingId : String}
      (hlookup : session.Lookup product.sku reply (.ok (some listingId))) :
      RefusalCourse session (.update product)
        [{ request := session.lookupRequest product.sku, outcome := reply }]
        (.error (.invalidRequest (priceFault product.price).message))

/-! ### Prices that are none -/

section Refused

variable {price : Binary64} {product : Product}

theorem sentPrice_of_not_isPrice (h : ¬IsPrice price) (currency : String) :
    sentPrice price currency = .error (.invalidRequest (priceFault price).message) := by
  have hcheck : requireNonNegative "price" price = .error (priceFault price) := by
    unfold requireNonNegative priceFault
    cases hfinite : price.isFinite with
    | false => rfl
    | true =>
      have hbelow : price.lt Binary64.zero = true :=
        Bool.not_eq_false _ ▸ fun hsign => h ⟨hfinite, hsign⟩
      rw [hbelow]
      rfl
  rw [sentPrice, Money.ofDecimal, hcheck]
  rfl

theorem ListingFields.ofProduct_of_not_isPrice (h : ¬IsPrice product.price) (currency : String) :
    ofProduct product currency =
      .error (.invalidRequest (priceFault product.price).message) := by
  rw [ofProduct, sentPrice_of_not_isPrice h currency]
  rfl

end Refused

/-! ### What a call never comes to -/

section Calls

variable {method : Http.Method} {url message : String} {reply : Except Failure Response}

theorem not_fails_invalidRequest : ¬Fails method url reply (.invalidRequest message) := by
  rintro (_ | hdenies)
  cases hdenies

theorem not_sendFails_invalidRequest {α : Type} {d : Json.Decoder α} :
    ¬SendFails method url d reply (.invalidRequest message) := by
  rintro (hfails | _)
  exact not_fails_invalidRequest hfails

theorem Session.not_lookup_invalidRequest {session : Session} {sku : Sku} :
    ¬session.Lookup sku reply (.error (.invalidRequest message)) := by
  rintro (hfails | _)
  cases hfails with
  | call hfails => exact not_fails_invalidRequest hfails

theorem not_writeCourse_invalidRequest {session : Session} {product : Product}
    {found : Option String} {es : List Exchange} :
    ¬WriteCourse session product found es (.error (.invalidRequest message)) := by
  intro h
  cases h with
  | patchFails hreply => exact not_sendFails_invalidRequest hreply
  | createFails hreply => exact not_sendFails_invalidRequest hreply

end Calls

/-- An update of a product with a price writes what the lookup leads to, or fails where it does not
lead to a listing. -/
theorem Adapter.hasRun_updateProduct_of_isPrice {adapter : Adapter} {session : Session}
    {product : Product} {code : String} {es : List Exchange} {outcome : Except MarketError Unit}
    (hsession : adapter.session = .ok session) (hprice : IsPrice product.price)
    (hcode : parseCurrency session.config.currencyCode = .ok code) :
    (adapter.updateProduct product).HasRun es outcome ↔
      ∃ reply, (∃ e, session.Lookup product.sku reply (.error e) ∧
          es = [{ request := session.lookupRequest product.sku, outcome := reply }] ∧
          outcome = .error e) ∨
        (session.Lookup product.sku reply (.ok none) ∧
          es = [{ request := session.lookupRequest product.sku, outcome := reply }] ∧
          outcome = .error (.notFound product.sku)) ∨
        ∃ id es', session.Lookup product.sku reply (.ok (some id)) ∧
          es = { request := session.lookupRequest product.sku, outcome := reply } :: es' ∧
          WriteCourse session product (some id) es' outcome := by
  rw [Adapter.updateProduct, ItemWrite.hasRun_withSession_iff hsession,
    ListingFields.ofProduct_of_isPrice hprice hcode, Session.hasRun_requireListing_bind_iff]
  simp only [Attempt.hasRun_ok_bind_iff, Session.hasRun_patchListing_iff]

/-- An export goes through items, and each of them is an upsert. -/
theorem Adapter.exists_areRuns_of_hasRun {adapter : Adapter} {session : Session}
    {products : List Product} {signal : Signal} {es : List Exchange}
    {outcome : Except MarketError SyncResult} (hsession : adapter.session = .ok session)
    (h : (adapter.exportProducts products signal).HasRun es outcome) :
    ∃ items, Batch.AreRuns session.upsertListing products es items ∧ ∀ result,
      outcome = .ok result →
        result.errors = (items.map Batch.Item.toTrial).filterMap Batch.Trial.failure? := by
  rw [exportProducts, ItemWrite.hasRun_withSession_iff hsession] at h
  exact Batch.exists_areRuns_of_hasRun h

/-! ### The three writes -/

namespace PriceWrite

open Attempt

variable {adapter : Adapter} {session : Session} (write : PriceWrite) {code : String}
variable {es : List Exchange} {outcome : Except MarketError Unit}

theorem not_hasRun_invalidRequest (hsession : adapter.session = .ok session)
    (hcode : parseCurrency session.config.currencyCode = .ok code)
    (hprice : IsPrice write.sentPrice) (message : String) :
    ¬(write.attempt adapter).HasRun es (.error (.invalidRequest message)) := by
  cases write with
  | update product =>
    rw [attempt, Adapter.hasRun_updateProduct_of_isPrice hsession hprice hcode]
    rintro ⟨reply, ⟨e, hlookup, -, ⟨⟩⟩ | ⟨-, -, ⟨⟩⟩ | ⟨id, es', -, -, hwrite⟩⟩
    · exact Session.not_lookup_invalidRequest hlookup
    · exact not_writeCourse_invalidRequest hwrite
  | price sku p =>
    rw [sentPrice] at hprice
    rw [attempt, Adapter.updatePrice, ItemWrite.hasRun_withSession_iff hsession,
      ListingFields.sentPrice_eq hprice.1 hprice.2 hcode, hasRun_ok_bind_iff,
      Session.hasRun_requireListing_bind_iff]
    rintro ⟨reply, ⟨e, hlookup, -, ⟨⟩⟩ | ⟨-, -, ⟨⟩⟩ | ⟨id, es', -, -, hwrite⟩⟩
    · exact Session.not_lookup_invalidRequest hlookup
    · obtain ⟨reply, rfl, hreply⟩ := (session.sendsOne_patchListing id _ _ _).1 hwrite
      exact not_sendFails_invalidRequest (Http.Client.settlePush_eq_error_iff.1 hreply.symm)
  | item product =>
    rw [attempt, ItemWrite.hasRun_withSession_iff hsession,
      hasRun_upsertListing_of_isPrice hprice hcode]
    rintro ⟨reply, ⟨e, hlookup, -, ⟨⟩⟩ | ⟨found, es', -, -, hwrite⟩⟩
    · exact Session.not_lookup_invalidRequest hlookup
    · exact not_writeCourse_invalidRequest hwrite

/-- Without a price, these are the courses. -/
theorem hasRun_iff_refusalCourse (hsession : adapter.session = .ok session)
    (hprice : ¬IsPrice write.sentPrice) :
    (write.attempt adapter).HasRun es outcome ↔ RefusalCourse session write es outcome := by
  cases write with
  | update product =>
    rw [sentPrice] at hprice
    rw [attempt, Adapter.updateProduct, ItemWrite.hasRun_withSession_iff hsession,
      ListingFields.ofProduct_of_not_isPrice hprice, Session.hasRun_requireListing_bind_iff]
    simp only [hasRun_error_bind_iff]
    constructor
    · rintro ⟨reply, ⟨e, hlookup, rfl, rfl⟩ | ⟨hlookup, rfl, rfl⟩ | ⟨id, _, hlookup, rfl, rfl, rfl⟩⟩
      · exact .lookupFails hlookup
      · exact .notFound hlookup
      · exact .lookedUp hlookup
    · intro h
      cases h with
      | unsent hfirst => exact absurd hfirst id
      | lookupFails hlookup => exact ⟨_, .inl ⟨_, hlookup, rfl, rfl⟩⟩
      | notFound hlookup => exact ⟨_, .inr (.inl ⟨hlookup, rfl, rfl⟩)⟩
      | lookedUp hlookup => exact ⟨_, .inr (.inr ⟨_, [], hlookup, rfl, rfl, rfl⟩)⟩
  | price sku p =>
    rw [sentPrice] at hprice
    rw [attempt, Adapter.updatePrice, ItemWrite.hasRun_withSession_iff hsession,
      sentPrice_of_not_isPrice hprice, hasRun_error_bind_iff]
    constructor
    · rintro ⟨rfl, rfl⟩
      exact .unsent trivial
    · rintro ⟨-⟩
      exact ⟨rfl, rfl⟩
  | item product =>
    rw [attempt, ItemWrite.hasRun_withSession_iff hsession,
      hasRun_upsertListing_of_error (ListingFields.ofProduct_of_not_isPrice hprice _)]
    constructor
    · rintro ⟨rfl, rfl⟩
      exact .unsent trivial
    · rintro ⟨-⟩
      exact ⟨rfl, rfl⟩

/-- A write that looks at its price first is refused before anything is sent. -/
theorem refusesFirst_of_checksFirst (hsession : adapter.session = .ok session)
    (hcode : parseCurrency session.config.currencyCode = .ok code) (hfirst : write.ChecksFirst) :
    RefusesFirst (write.attempt adapter) write.sentPrice := by
  have hcourse (hprice : ¬IsPrice write.sentPrice) (es : List Exchange)
      (outcome : Except MarketError Unit) (hrun : (write.attempt adapter).HasRun es outcome) :
      es = [] ∧ ∃ message, outcome = .error (.invalidRequest message) := by
    cases (hasRun_iff_refusalCourse write hsession hprice).1 hrun with
    | unsent => exact ⟨rfl, _, rfl⟩
    | lookupFails => exact hfirst.elim
    | notFound => exact hfirst.elim
    | lookedUp => exact hfirst.elim
  refine ⟨fun es message hrun => ?_, fun hprice es outcome hrun => (hcourse hprice _ _ hrun).2⟩
  by_cases hprice : IsPrice write.sentPrice
  · exact absurd hrun (not_hasRun_invalidRequest write hsession hcode hprice message)
  · exact (hcourse hprice _ _ hrun).1

/-- An item of an export is refused exactly when its price is none, and then nothing is sent for
it. -/
theorem item_refused_iff (hsession : adapter.session = .ok session)
    (hcode : parseCurrency session.config.currencyCode = .ok code) {product : Product}
    (hrun : (session.upsertListing product).HasRun es outcome) :
    (¬IsPrice product.price ↔ ∃ message, outcome = .error (.invalidRequest message)) ∧
      (¬IsPrice product.price → es = []) := by
  have hitem : ((PriceWrite.item product).attempt adapter).HasRun es outcome :=
    (ItemWrite.hasRun_withSession_iff hsession).2 hrun
  have hfirst := refusesFirst_of_checksFirst (.item product) hsession hcode trivial
  refine ⟨⟨fun hprice => hfirst.refused hprice _ _ hitem, ?_⟩, fun hprice => ?_⟩
  · rintro ⟨message, rfl⟩ hprice
    exact not_hasRun_invalidRequest (.item product) hsession hcode hprice message hitem
  · obtain ⟨message, rfl⟩ := hfirst.refused hprice _ _ hitem
    exact hfirst.unsent _ _ hitem

end PriceWrite

/-! ### Updates -/

/-- An answer with one listing, which names no SKU. -/
def bareAnswer : String := "\x7b\"results\":[\x7b\"listing_id\":7\x7d]\x7d"

/-- Every SKU is looked up to the only listing there is. -/
theorem Session.lookup_bareAnswer (session : Session) (sku : Sku) :
    session.Lookup sku (.ok (.ok bareAnswer)) (.ok (some "7")) := by
  have hread : (listingsIn bareAnswer).map (List.map Listing.ofMembers) =
      some [{ id := some "7", skus := [] }] := by
    decide +kernel
  obtain ⟨listings, hlistings, hread⟩ := Option.map_eq_some_iff.1 hread
  have hcarries : (Response.ok bareAnswer).Carries bareAnswer :=
    ⟨by decide, by decide, by decide +kernel, rfl⟩
  refine lookup_iff.2 (settleLookup_eq_ok_iff.2 ⟨listings, ⟨_, _, rfl, hcarries, hlistings⟩, ?_⟩)
  rw [hread]
  rfl

/-- **When a price is refused.**  With an adapter that accepted a configuration, a write is refused
only before anything is sent, and always when its price is none, exactly when it looks at the price
before it looks the SKU up, or the price can be sent.  A price that can be sent is not refused at
all, and one that cannot leads to one of the courses.  So an export, whose products are upserted
one after another, refuses exactly those without a price, and sends nothing for them. -/
theorem refusesFirst_iff {adapter adapter' : Adapter} {config : Config} {session : Session}
    (hconfigure : adapter.configure config = .ok adapter')
    (hsession : adapter'.session = .ok session) (write : PriceWrite) :
    (RefusesFirst (write.attempt adapter') write.sentPrice ↔
        write.ChecksFirst ∨ IsPrice write.sentPrice) ∧
      (∀ es message, IsPrice write.sentPrice →
        ¬(write.attempt adapter').HasRun es (.error (.invalidRequest message))) ∧
      (∀ es outcome, ¬IsPrice write.sentPrice →
        ((write.attempt adapter').HasRun es outcome ↔ RefusalCourse session write es outcome)) ∧
      ∀ products signal es outcome,
        (adapter'.exportProducts products signal).HasRun es outcome →
          ∃ items, Batch.AreRuns session.upsertListing products es items ∧
            (∀ result, outcome = .ok result →
              result.errors = (items.map Batch.Item.toTrial).filterMap Batch.Trial.failure?) ∧
            ∀ item ∈ items,
              (¬IsPrice item.product.price ↔
                ∃ message, item.outcome = .error (.invalidRequest message)) ∧
              (¬IsPrice item.product.price → item.exchanges = []) := by
  obtain ⟨code, hcode⟩ := Adapter.code_of_session hconfigure hsession
  refine ⟨⟨fun hrefuses => ?_, ?_⟩, fun es message hprice =>
    write.not_hasRun_invalidRequest hsession hcode hprice message, fun es outcome hprice =>
    write.hasRun_iff_refusalCourse hsession hprice, fun products signal es outcome hrun => ?_⟩
  · cases write with
    | price sku p => exact .inl trivial
    | item product => exact .inl trivial
    | update product =>
      -- there is a reply that leads to a listing, and the refusal comes behind it
      refine .inr (by_contra fun hprice => ?_)
      have hrun := (PriceWrite.hasRun_iff_refusalCourse (.update product) hsession hprice).2
        (.lookedUp (session.lookup_bareAnswer product.sku))
      cases hrefuses.unsent _ _ hrun
  · rintro (hfirst | hprice)
    · exact write.refusesFirst_of_checksFirst hsession hcode hfirst
    · exact ⟨fun es message hrun =>
        absurd hrun (write.not_hasRun_invalidRequest hsession hcode hprice message),
        fun hnone => absurd hprice hnone⟩
  · obtain ⟨items, hitems, herrors⟩ := Adapter.exists_areRuns_of_hasRun hsession hrun
    exact ⟨items, hitems, herrors, fun item hmem =>
      PriceWrite.item_refused_iff hsession hcode (hitems.hasRun item hmem)⟩

/-- A product whose price is below zero. -/
def negativeProduct : Product := { sampleProduct with price := Binary64.ofInt (-1) }

/-- An export that tries the product sends nothing for it, and an update of it does. -/
theorem refusesFirst_iff_negativeProduct :
    let adapter : Adapter := { config := some sampleConfig }
    Adapter.configure {} sampleConfig = .ok adapter ∧
      adapter.session = .ok (Session.ofConfig sampleConfig) ∧
      RefusesFirst ((PriceWrite.item negativeProduct).attempt adapter) negativeProduct.price ∧
      ¬RefusesFirst ((PriceWrite.update negativeProduct).attempt adapter)
        negativeProduct.price := by
  intro adapter
  have hconfigure : Adapter.configure {} sampleConfig = .ok { config := some sampleConfig } := by
    decide +kernel
  have hprice : ¬IsPrice negativeProduct.price := by
    unfold IsPrice
    decide +kernel
  have hitem := refusesFirst_iff hconfigure session_sampleConfig (.item negativeProduct)
  have hupdate := refusesFirst_iff hconfigure session_sampleConfig (.update negativeProduct)
  exact ⟨hconfigure, session_sampleConfig, hitem.1.2 (.inl trivial),
    fun hrefuses => (hupdate.1.1 hrefuses).elim id hprice⟩

/-- The update of a product without a price is refused behind a request when there is a listing, and
when there is none it is not refused at all. -/
theorem update_refused_late :
    let adapter : Adapter := { config := some sampleConfig }
    let lookup := (Session.ofConfig sampleConfig).lookupRequest sampleSku
    Adapter.configure {} sampleConfig = .ok adapter ∧
      ¬IsPrice negativeProduct.price ∧
      (adapter.updateProduct negativeProduct).HasRun
        [{ request := lookup, outcome := .ok (.ok namedSecond) }]
        (.error (.invalidRequest "field 'price' must be non-negative")) ∧
      (adapter.updateProduct negativeProduct).HasRun
        [{ request := lookup, outcome := .ok (.ok "\x7b\"results\":[]\x7d") }]
        (.error (.notFound sampleSku)) := by
  intro adapter lookup
  have hprice : ¬IsPrice negativeProduct.price := by
    unfold IsPrice
    decide +kernel
  have hcourse {es : List Exchange} {outcome : Except MarketError Unit}
      (h : RefusalCourse (Session.ofConfig sampleConfig) (.update negativeProduct) es outcome) :
      (adapter.updateProduct negativeProduct).HasRun es outcome :=
    (PriceWrite.hasRun_iff_refusalCourse (.update negativeProduct) session_sampleConfig hprice).2 h
  have hfound : (Session.ofConfig sampleConfig).Lookup sampleSku (.ok (.ok namedSecond))
      (.ok (some "7")) := by
    rw [Session.lookup_iff]
    decide +kernel
  have hnone : (Session.ofConfig sampleConfig).Lookup sampleSku
      (.ok (.ok "\x7b\"results\":[]\x7d")) (.ok none) := by
    rw [Session.lookup_iff]
    decide +kernel
  have hfault : (priceFault negativeProduct.price).message =
      "field 'price' must be non-negative" := by
    decide +kernel
  have hconfigure : Adapter.configure {} sampleConfig = .ok { config := some sampleConfig } := by
    decide +kernel
  exact ⟨hconfigure, hprice, hfault ▸ hcourse (.lookedUp hfound), hcourse (.notFound hnone)⟩

end ShopSync.Etsy
