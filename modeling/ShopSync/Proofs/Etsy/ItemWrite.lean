import ShopSync.Proofs.Etsy.Course

/-!
The course of a write to a single item.

A stock, a price and a deletion are written in the same way: the SKU is looked up, and only a reply
that leads to a listing is followed by one request, which writes that listing.  `ItemCourse` lists
the courses of such a write, and there are no others (`attempt_course`).  How an order was sent is
told without a lookup, in one request (`hasRun_markAsShipped_iff`).
-/

namespace ShopSync.Etsy

open Http (Exchange Failure Method Request Response)
open Http.Client (Fails IsSuccess IsTaken SendFails anything settleDelete settlePush)
open Json (Value)
open Number (Binary64)

/-- What is written to the listing of a SKU. -/
inductive ItemWrite where
  | stock (quantity : UInt32)
  | price (price : Binary64)
  | delete

namespace ItemWrite

/-- The operation of an adapter that writes it. -/
def attempt (adapter : Adapter) (sku : Sku) : ItemWrite → Attempt Unit
  | .stock quantity => adapter.updateStock sku quantity
  | .price p => adapter.updatePrice sku p
  | .delete => adapter.deleteProduct sku

/-- A price that is written is one. -/
def IsValid : ItemWrite → Prop
  | .price p => IsPrice p
  | _ => True

/-- The request that writes the listing: a patch with one key, or a deletion. -/
inductive Requests (session : Session) (listingId : String) : ItemWrite → Request → Prop
  | stock (quantity : UInt32) :
      Requests session listingId (.stock quantity)
        (session.client.request .patch (session.listingUrl listingId)
          (some (.object [("quantity", .ofNat quantity.toNat)])))
  | price {p : Binary64} {money : Money}
      (hmoney : sentPrice p session.config.currencyCode = .ok money) :
      Requests session listingId (.price p)
        (session.client.request .patch (session.listingUrl listingId)
          (some (.object [("price", money.toJson)])))
  | delete :
      Requests session listingId .delete
        (session.client.request .delete (session.listingUrl listingId) none)

/-- The reply says that it was written: a deletion takes any success, and a patch one without a
payload or with JSON. -/
def IsDone : ItemWrite → Except Failure Response → Prop
  | .delete, reply => IsSuccess reply
  | _, reply => IsTaken reply

/-- The reply says that it was not written, and why. -/
def FailsWith (url : String) : ItemWrite → Except Failure Response → MarketError → Prop
  | .delete, reply, e => Fails .delete url reply e
  | _, reply, e => SendFails .patch url anything reply e

end ItemWrite

/-- The courses of a write: the requests with their replies, in order, and what it comes to. -/
inductive ItemCourse (session : Session) (sku : Sku) (write : ItemWrite) :
    List Exchange → Except MarketError Unit → Prop
  | lookupFails {reply : Except Failure Response} {e : MarketError}
      (hlookup : session.Lookup sku reply (.error e)) :
      ItemCourse session sku write
        [{ request := session.lookupRequest sku, outcome := reply }] (.error e)
  | notFound {reply : Except Failure Response} (hlookup : session.Lookup sku reply (.ok none)) :
      ItemCourse session sku write
        [{ request := session.lookupRequest sku, outcome := reply }] (.error (.notFound sku))
  | written {reply written : Except Failure Response} {listingId : String} {request : Request}
      (hlookup : session.Lookup sku reply (.ok (some listingId)))
      (hrequest : write.Requests session listingId request) (hwritten : write.IsDone written) :
      ItemCourse session sku write
        [{ request := session.lookupRequest sku, outcome := reply },
          { request, outcome := written }] (.ok ())
  | writeFails {reply written : Except Failure Response} {listingId : String} {request : Request}
      {e : MarketError} (hlookup : session.Lookup sku reply (.ok (some listingId)))
      (hrequest : write.Requests session listingId request)
      (hwritten : write.FailsWith (session.listingUrl listingId) written e) :
      ItemCourse session sku write
        [{ request := session.lookupRequest sku, outcome := reply },
          { request, outcome := written }] (.error e)

namespace ItemWrite

open Attempt

variable {session : Session} {sku : Sku} {write : ItemWrite} {es : List Exchange}
variable {outcome : Except MarketError Unit}

/-- What the reply to the write comes to. -/
def settle (url : String) : ItemWrite → Except Failure Response → Except MarketError Unit
  | .delete => settleDelete url
  | _ => settlePush .patch url

section Settle

variable {url : String} {reply : Except Failure Response} {e : MarketError}

theorem settle_eq_ok_iff : write.settle url reply = .ok () ↔ write.IsDone reply := by
  cases write with
  | stock quantity => exact Http.Client.settlePush_eq_ok_iff
  | price p => exact Http.Client.settlePush_eq_ok_iff
  | delete => exact Http.Client.settleDelete_eq_ok_iff

theorem settle_eq_error_iff : write.settle url reply = .error e ↔ write.FailsWith url reply e := by
  cases write with
  | stock quantity => exact Http.Client.settlePush_eq_error_iff
  | price p => exact Http.Client.settlePush_eq_error_iff
  | delete => exact Http.Client.settleDelete_eq_error_iff

end Settle

/-- A lookup and then one request to the listing it leads to: these are the courses. -/
theorem hasRun_requireListing_bind_iff {step : String → Attempt Unit} {request : String → Request}
    (hrequest : ∀ listingId request',
      write.Requests session listingId request' ↔ request' = request listingId)
    (hstep : ∀ listingId, (step listingId).SendsOne (request listingId)
      (write.settle (session.listingUrl listingId))) :
    (session.requireListing sku >>= step).HasRun es outcome ↔
      ItemCourse session sku write es outcome := by
  rw [Session.hasRun_requireListing_bind_iff]
  constructor
  · rintro ⟨reply, ⟨e, hlookup, rfl, rfl⟩ | ⟨hlookup, rfl, rfl⟩ | ⟨id, es', hlookup, rfl, hrun⟩⟩
    · exact .lookupFails hlookup
    · exact .notFound hlookup
    · obtain ⟨written, rfl, houtcome⟩ := (hstep id es' outcome).1 hrun
      have hsent := (hrequest id (request id)).2 rfl
      cases outcome with
      | ok u => exact .written hlookup hsent (settle_eq_ok_iff.1 houtcome.symm)
      | error e => exact .writeFails hlookup hsent (settle_eq_error_iff.1 houtcome.symm)
  · intro h
    cases h with
    | @lookupFails reply e hlookup => exact ⟨reply, .inl ⟨e, hlookup, rfl, rfl⟩⟩
    | @notFound reply hlookup => exact ⟨reply, .inr (.inl ⟨hlookup, rfl, rfl⟩)⟩
    | @written reply written id sent hlookup hsent hwritten =>
      obtain rfl := (hrequest id sent).1 hsent
      have hrun := (hstep id _ _).2 ⟨written, rfl, (settle_eq_ok_iff.2 hwritten).symm⟩
      exact ⟨reply, .inr (.inr ⟨id, _, hlookup, rfl, hrun⟩)⟩
    | @writeFails reply written id sent e hlookup hsent hwritten =>
      obtain rfl := (hrequest id sent).1 hsent
      have hrun := (hstep id _ _).2 ⟨written, rfl, (settle_eq_error_iff.2 hwritten).symm⟩
      exact ⟨reply, .inr (.inr ⟨id, _, hlookup, rfl, hrun⟩)⟩

theorem hasRun_withSession_iff {adapter : Adapter} {α : Type} {f : Session → Attempt α}
    {outcome : Except MarketError α} (hsession : adapter.session = .ok session) :
    (adapter.withSession f).HasRun es outcome ↔ (f session).HasRun es outcome := by
  rw [Adapter.withSession, hsession, hasRun_ok_bind_iff]

end ItemWrite

/-- The request that tells how an order was sent: the name of the carrier and the tracking code. -/
def Session.trackingRequest (session : Session) (orderId : String) (shipment : Shipment) : Request :=
  session.client.request .post (session.trackingUrl orderId)
    (some (.object
      [("carrier_name", .string shipment.carrier),
        ("tracking_code", .string shipment.trackingCode)]))

/-- With a session the shipment of an order is told in one request, and its reply decides. -/
theorem Adapter.hasRun_markAsShipped_iff {adapter : Adapter} {session : Session}
    (hsession : adapter.session = .ok session) {orderId : String} {shipment : Shipment}
    {es : List Exchange} {outcome : Except MarketError Unit} :
    (adapter.markAsShipped orderId shipment).HasRun es outcome ↔
      ∃ reply, es = [{ request := session.trackingRequest orderId shipment, outcome := reply }] ∧
        ((IsTaken reply ∧ outcome = .ok ()) ∨
          ∃ e, SendFails .post (session.trackingUrl orderId) anything reply e ∧
            outcome = .error e) := by
  have hone := Http.Client.sendsOne_push session.client .post (session.trackingUrl orderId)
    (trackingBody shipment)
  rw [Adapter.markAsShipped, ItemWrite.hasRun_withSession_iff hsession, hone es outcome]
  refine exists_congr fun reply => and_congr_right' ?_
  have hok : settlePush .post (session.trackingUrl orderId) reply = .ok () ↔ IsTaken reply :=
    Http.Client.settlePush_eq_ok_iff
  rw [← hok]
  simp only [← Http.Client.settlePush_eq_error_iff]
  cases settlePush .post (session.trackingUrl orderId) reply with
  | ok u => simp
  | error e => simp

/-- **The course of a write to a single item.**  With an adapter that accepted a configuration, a
write whose price, if it has one, is valid takes one of the courses, and there is an outside for
each of them. -/
theorem ItemWrite.attempt_course {adapter adapter' : Adapter} {config : Config} {session : Session}
    (hconfigure : adapter.configure config = .ok adapter')
    (hsession : adapter'.session = .ok session) (sku : Sku) {write : ItemWrite}
    (hvalid : write.IsValid) (es : List Exchange) (outcome : Except MarketError Unit) :
    (write.attempt adapter' sku).HasRun es outcome ↔ ItemCourse session sku write es outcome := by
  obtain ⟨code, hcode⟩ := Adapter.code_of_session hconfigure hsession
  cases write with
  | stock quantity =>
    refine (hasRun_withSession_iff hsession).trans (hasRun_requireListing_bind_iff ?_ fun id =>
      session.sendsOne_patchListing id { quantity := some quantity })
    intro id request
    constructor
    · rintro ⟨⟩
      rfl
    · rintro rfl
      exact .stock quantity
  | price p =>
    have hmoney := ListingFields.sentPrice_eq hvalid.1 hvalid.2 hcode
    refine (hasRun_withSession_iff hsession).trans ?_
    rw [hmoney, Attempt.hasRun_ok_bind_iff]
    refine hasRun_requireListing_bind_iff ?_ fun id => session.sendsOne_patchListing id _
    intro id request
    constructor
    · intro h
      cases h with
      | price hmoney' =>
        cases hmoney.symm.trans hmoney'
        rfl
    · rintro rfl
      exact .price hmoney
  | delete =>
    refine (hasRun_withSession_iff hsession).trans (hasRun_requireListing_bind_iff ?_ fun id =>
      Http.Client.sendsOne_delete session.client _)
    intro id request
    constructor
    · rintro ⟨⟩
      rfl
    · rintro rfl
      exact .delete

/-- An answer where a listing without SKUs stands before the one that names the SKU. -/
def namedSecond : String :=
  "\x7b\"results\":[\x7b\"listing_id\":3\x7d,\x7b\"listing_id\":7,\"skus\":[\"ABC\"]\x7d]\x7d"

/-- The price goes to the listing that names the SKU, and no content is a success. -/
theorem ItemWrite.attempt_course_namedSecond :
    let session := Session.ofConfig sampleConfig
    let price := Binary64.ofNat 20
    Adapter.configure {} sampleConfig = .ok { config := some sampleConfig } ∧
      Adapter.session { config := some sampleConfig } = .ok session ∧
      (ItemWrite.price price).IsValid ∧
      ((ItemWrite.price price).attempt { config := some sampleConfig } sampleSku).HasRun
        [{ request := session.lookupRequest sampleSku, outcome := .ok (.ok namedSecond) },
          { request := session.client.request .patch (session.listingUrl "7")
              (some (.object [("price", Money.toJson
                { amount := 2000, divisor := 100, currencyCode := "USD" })])),
            outcome := .ok .noContent }] (.ok ()) := by
  intro session price
  have hconfigure : Adapter.configure {} sampleConfig = .ok { config := some sampleConfig } := by
    decide +kernel
  have hvalid : (ItemWrite.price price).IsValid := by
    unfold IsValid IsPrice
    decide +kernel
  have hlookup : session.Lookup sampleSku (.ok (.ok namedSecond)) (.ok (some "7")) := by
    rw [Session.lookup_iff]
    decide +kernel
  have hmoney : sentPrice price session.config.currencyCode =
      .ok { amount := 2000, divisor := 100, currencyCode := "USD" } := by
    decide +kernel
  have hdone : (ItemWrite.price price).IsDone (.ok .noContent) :=
    ⟨.noContent, rfl, by decide, .inl rfl⟩
  have hcourse := (attempt_course hconfigure session_sampleConfig sampleSku hvalid _ _).2
    (.written hlookup (.price hmoney) hdone)
  exact ⟨hconfigure, session_sampleConfig, hvalid, hcourse⟩

end ShopSync.Etsy
