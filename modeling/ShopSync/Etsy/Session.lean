import ShopSync.Config
import ShopSync.Etsy.Payload
import ShopSync.Http.Client
import ShopSync.Sync.Batch
import ShopSync.Text.Percent
import ShopSync.Text.Truncate

/-!
Calls to the shop of one configuration on Etsy.

A listing is found by its SKU before it is written.  Everything that comes from outside is percent
encoded before it becomes part of an address.
-/

namespace ShopSync.Etsy

open Json (Value)
open Number (Binary64)
open Text (Percent.encode)

/-- The address of the marketplace unless the configuration has another. -/
def defaultBaseUrl : String := "https://openapi.etsy.com/v3"

/-- The most characters of a title. -/
def titleLimit : Nat := 140

/-- Receipts on a full page. -/
def pageSize : Nat := 100

/-- No page starts past this position, the largest signed number of 64 bits. -/
def lastOffset : Nat := 9223372036854775807

/-! ### What is written to a listing -/

/-- The fields of a listing that a request sets; the others stay as they are. -/
structure ListingFields where
  quantity : Option UInt32 := none
  title : Option String := none
  description : Option String := none
  price : Option Money := none
  whoMade : Option String := none
  whenMade : Option String := none
  taxonomyId : Option Int := none
  isSupply : Option Bool := none
  sku : Option (List String) := none
  shouldAutoRenew : Option Bool := none
deriving DecidableEq

/-- The fields as JSON. -/
def ListingFields.toJson (fields : ListingFields) : Value :=
  .object
    (Value.optionalMember "quantity" (fun n => .ofNat n.toNat) fields.quantity
      ++ Value.optionalMember "title" .string fields.title
      ++ Value.optionalMember "description" .string fields.description
      ++ Value.optionalMember "price" Money.toJson fields.price
      ++ Value.optionalMember "who_made" .string fields.whoMade
      ++ Value.optionalMember "when_made" .string fields.whenMade
      ++ Value.optionalMember "taxonomy_id" .ofInt fields.taxonomyId
      ++ Value.optionalMember "is_supply" .bool fields.isSupply
      ++ Value.optionalMember "sku" (.ofList .string) fields.sku
      ++ Value.optionalMember "should_auto_renew" .bool fields.shouldAutoRenew)

/-- A price as it is sent; a price that is none makes the request invalid. -/
def sentPrice (price : Binary64) (currency : String) : Except MarketError Money :=
  (Money.ofDecimal price currency).mapError fun e => .invalidRequest e.message

/-- All fields of a product. -/
def ListingFields.ofProduct (product : Product) (currency : String) :
    Except MarketError ListingFields := do
  let price ← sentPrice product.price currency
  pure
    { quantity := some product.quantity
      title := some (Text.truncate product.name titleLimit)
      description := some product.description
      price := some price
      whoMade := some "i_did"
      whenMade := some "made_to_order"
      taxonomyId := Number.int64? (Text.trim product.categoryId)
      isSupply := some false
      sku := some [product.sku.text]
      shouldAutoRenew := some true }

/-- The body that attaches an image. -/
def imageBody (imageUrl : String) (rank : Nat) : Value :=
  .object [("image_url", .string imageUrl), ("rank", .ofNat rank)]

/-- The body that tells how an order was sent. -/
def trackingBody (shipment : Shipment) : Value :=
  .object
    [("carrier_name", .string shipment.carrier),
      ("tracking_code", .string shipment.trackingCode)]

/-! ### Sessions -/

/-- A configuration with what follows from it for every call. -/
structure Session where
  config : Config
  client : Http.Client
  baseUrl : String

namespace Session

/-- The address of a configuration: its own, if it has one, without blanks around it and slashes
at its end. -/
def baseUrlOf (config : Config) : String :=
  let own := match config.baseUrl with
    | some url => if Text.isBlankText url then defaultBaseUrl else Text.trim url
    | none => defaultBaseUrl
  String.ofList (own.toList.reverse.dropWhile (· == '/')).reverse

/-- The session of a configuration. -/
def ofConfig (config : Config) : Session where
  config
  client :=
    { credentials :=
        { accessToken := Text.trim config.accessToken, apiKey := Text.trim config.apiKey }
      timeoutMs := config.timeoutMs
      pacer := config.requestsPerSecond.bind Http.Pacer.ofBudget? }
  baseUrl := baseUrlOf config

/-- An address below the shop. -/
def shopUrl (session : Session) (path : String) : String :=
  session.baseUrl ++ "/application/shops/" ++ Percent.encode (Text.trim session.config.shopId)
    ++ path

/-- Where the listings of a SKU are looked up. -/
def lookupUrl (session : Session) (sku : Sku) : String :=
  session.shopUrl ("/listings?sku=" ++ Percent.encode sku.text)

/-- Where listings are created. -/
def listingsUrl (session : Session) : String :=
  session.shopUrl "/listings"

/-- Where a listing is written. -/
def listingUrl (session : Session) (listingId : String) : String :=
  session.shopUrl ("/listings/" ++ Percent.encode listingId)

/-- Where images of a listing are attached. -/
def imagesUrl (session : Session) (listingId : String) : String :=
  session.shopUrl ("/listings/" ++ Percent.encode listingId ++ "/images")

/-- Where the tracking of an order is sent. -/
def trackingUrl (session : Session) (orderId : String) : String :=
  session.shopUrl ("/receipts/" ++ Percent.encode orderId ++ "/tracking")

/-- Where a page of receipts is read. -/
def receiptsUrl (session : Session) (second : Int) (offset : Nat) : String :=
  session.shopUrl ("/receipts?min_created=" ++ String.ofList (Number.integerText second)
    ++ "&limit=" ++ String.ofList (Number.digits pageSize)
    ++ "&offset=" ++ String.ofList (Number.digits offset))

/-- Where the taxonomy is read. -/
def taxonomyUrl (session : Session) : String :=
  session.baseUrl ++ "/application/seller-taxonomy/nodes"

/-! ### Listings -/

/-- The listing of a SKU, if there is one. -/
def findListing (session : Session) (sku : Sku) : Attempt (Option String) := do
  let page ← session.client.get (session.lookupUrl sku) (Page.decoder Listing.ofMembers)
  pure (selectListing page.results sku)

/-- The listing of a SKU; not to have one is an error. -/
def requireListing (session : Session) (sku : Sku) : Attempt String := do
  match ← session.findListing sku with
  | some listingId => pure listingId
  | none => throw (.notFound sku)

/-- Sets fields of a listing. -/
def patchListing (session : Session) (listingId : String) (fields : ListingFields) :
    Attempt Unit :=
  session.client.push .patch (session.listingUrl listingId) fields.toJson

/-- Attaches images to a listing, the first with the given rank.  An image that is refused does not
keep the others back. -/
def attachImages (session : Session) (listingId : String) :
    (rank : Nat) → List String → Attempt Unit
  | _, [] => pure ()
  | rank, imageUrl :: rest => do
    let push := session.client.push .post (session.imagesUrl listingId) (imageBody imageUrl rank)
    let _ ← ExceptT.lift push.run
    session.attachImages listingId (rank + 1) rest

/-- Creates the listing of a product, with its images when the answer gives the id of the listing. -/
def createListing (session : Session) (product : Product) (fields : ListingFields) :
    Attempt Unit := do
  let created ← session.client.send .post session.listingsUrl fields.toJson Listing.decoder
  match created.bind Listing.id with
  | some listingId => session.attachImages listingId 1 product.images
  | none => pure ()

/-- Writes the listing of a product, or creates it when there is none. -/
def upsertListing (session : Session) (product : Product) : Attempt Unit := do
  let fields ← ExceptT.mk (pure (ListingFields.ofProduct product session.config.currencyCode))
  match ← session.findListing product.sku with
  | some listingId => session.patchListing listingId fields
  | none => session.createListing product fields

/-! ### Receipts -/

/-- The orders of all pages from a position on, after those that were read before.  A page that is
not full is the last one, and so is one that reaches the count the answer gives; otherwise the
signal decides whether to go on.  Every page that is not the last moves the position by at least
a full page. -/
def ordersFrom (session : Session) (since : Timestamp) (signal : Signal) (offset : Nat)
    (done : List Order) : Attempt (List Order) := do
  let page ← session.client.get (session.receiptsUrl since.unixSeconds offset)
    (Page.decoder fun ms => ms)
  let orders := done ++ ordersSince since.unixSeconds page.results
  let next := offset + page.results.length
  if _h : page.results.length < pageSize then pure orders
  else if page.count.any fun (count : Int) => decide (count ≤ (next : Int)) then pure orders
  else if _h' : lastOffset < next then pure orders
  else
    let now ← Dialogue.moment
    if signal.isStopped now then pure orders
    else session.ordersFrom since signal next orders
termination_by lastOffset - offset
decreasing_by
  simp only [pageSize, lastOffset] at *
  omega

end Session

end ShopSync.Etsy
