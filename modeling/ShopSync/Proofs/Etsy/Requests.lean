import Mathlib.Data.List.TakeWhile
import Mathlib.Tactic
import ShopSync.Proofs.Etsy.PageLoop
import ShopSync.Proofs.Etsy.Session
import ShopSync.Proofs.Sync.Batch
import ShopSync.Proofs.Text.Truncate

/-!
What an adapter asks.

All that an adapter does for the shop is done in a session, and a session has no other means than
its client: it looks at the clocks, waits for the budget, and calls for resources of its shop.
Which ones, how and with what body, the operation says (`MarketCall.Makes`), so a closed property of
computations that these calls have (`Session.Serves`) is one of all that the adapter does
(`Adapter.attempt_of_serves`).  Often less has to be known: that the address is below that of the
session (`Session.May`), or that the resource is one the operation has to do with
(`MarketCall.Concerns`, `Session.Admits`).  Every request is signed with the credentials of the
configuration in force, and an adapter without all of them asks nothing at all (`attempt_signs`).
-/

namespace ShopSync

/-! ### Attempts -/

namespace Attempt

variable {α β : Type} {p : Query → Prop}

/-- Every query that can be asked has the property, whatever the answers are. -/
def Asks (attempt : Attempt α) (p : Query → Prop) : Prop := attempt.run.Always p

theorem asks_mk_pure (outcome : Except MarketError α) :
    Asks (ExceptT.mk (pure outcome) : Attempt α) p := trivial

theorem asks_pure (a : α) : Asks (pure a : Attempt α) p := trivial

theorem asks_throw (e : MarketError) : Asks (throw e : Attempt α) p := trivial

theorem Asks.bind {attempt : Attempt α} {f : α → Attempt β} (hfirst : attempt.Asks p)
    (hrest : ∀ a, (f a).Asks p) : (attempt >>= f).Asks p :=
  (Dialogue.isClosed_always p).attempt_bind hfirst hrest

/-- What holds of every request that can be sent holds of those that were. -/
theorem Asks.forall_mem_requestsOf {σ : Type} {attempt : Attempt α} {p : Http.Request → Prop}
    (h : attempt.Asks fun q => ∀ request, q.request? = some request → p request)
    (world : World σ) (s : σ) :
    ∀ request ∈ requestsOf (attempt.run.queries world s), p request := by
  intro request hrequest
  obtain ⟨q, hq, hsent⟩ := List.mem_filterMap.1 hrequest
  exact h.forall_mem_queries world s q hq request hsent

theorem asks_liftM_bind {d : Dialogue α} {f : α → Attempt β} (hd : d.Always p)
    (hrest : ∀ a, (f a).Asks p) : ((liftM d : Attempt α) >>= f).Asks p :=
  (Dialogue.isClosed_always p).liftM_bind hd hrest

end Attempt

open Attempt

/-! ### Clients -/

namespace Http

/-- Whether requests with the method carry something. -/
def Method.carriesBody : Method → Bool
  | post => true
  | patch => true
  | _ => false

end Http

namespace Http.Client

variable {α : Type} {p : Query → Prop} {client : Client} {method : Method} {url : String}

theorem asks_execute {body : Option Json.Value} (hpace : ∀ n, p (.pace n))
    (hcall : p (.exchange (client.request method url body))) :
    (client.execute method url body).Asks p := by
  unfold execute
  -- with a budget or without one the exchange is the same
  cases client.pacer
  case' some pacer => refine asks_liftM_bind ⟨hpace _, fun _ => trivial⟩ fun _ => ?_
  all_goals
    refine asks_liftM_bind ⟨hcall, fun _ => trivial⟩ fun outcome => ?_
    cases outcome with
    | error failure => exact asks_throw _
    | ok response => exact asks_mk_pure _

end Http.Client

namespace Dialogue.IsClosed

variable {p : (α : Type) → Dialogue α → Prop} {α : Type} {client : Http.Client}
variable {method : Http.Method} {url : String}

/-- What follows a known outcome is done only with what the outcome gives. -/
theorem mk_pure_bind {β : Type} (h : IsClosed p) {outcome : Except MarketError α}
    {f : α → Attempt β} (hf : ∀ a, outcome = .ok a → p _ (f a).run) :
    p _ ((ExceptT.mk (Pure.pure outcome) : Attempt α) >>= f).run := by
  rw [run_mk_pure_bind]
  cases outcome with
  | error e => exact h.done _
  | ok a => exact hf a rfl

theorem get (h : IsClosed p) (hcall : p _ (client.execute .get url none).run)
    (d : Json.Decoder α) : p _ (client.get url d).run := by
  refine h.attempt_bind hcall fun payload => ?_
  cases payload with
  | none => exact h.throw _
  | some payload => exact h.mk_pure _

theorem send (h : IsClosed p) {body : Json.Value}
    (hcall : p _ (client.execute method url (some body)).run) (d : Json.Decoder α) :
    p _ (client.send method url body d).run := by
  refine h.attempt_bind hcall fun payload => ?_
  cases payload with
  | none => exact h.pure _
  | some payload => exact h.mk_pure _

end Dialogue.IsClosed

namespace Http.Client

variable {α : Type} {p : Query → Prop} {client : Client} {method : Method} {url : String}

theorem asks_get {d : Json.Decoder α} (hpace : ∀ n, p (.pace n))
    (hcall : p (.exchange (client.request .get url none))) : (client.get url d).Asks p :=
  (Dialogue.isClosed_always p).get (asks_execute hpace hcall) d

theorem asks_send {body : Json.Value} {d : Json.Decoder α} (hpace : ∀ n, p (.pace n))
    (hcall : p (.exchange (client.request method url (some body)))) :
    (client.send method url body d).Asks p :=
  (Dialogue.isClosed_always p).send (asks_execute hpace hcall) d

end Http.Client

namespace Etsy

open Http.Client

/-! ### Sessions -/

namespace Session

/-- The address is one of the application, below the address of the session. -/
def IsBelow (session : Session) (url : String) : Prop :=
  ∃ rest, url = session.baseUrl ++ "/application/" ++ rest

/-- What a session may ask. -/
inductive May (session : Session) : Query → Prop
  | moment : May session .moment
  | freshId : May session .freshId
  | pace (perSecond : UInt32) : May session (.pace perSecond)
  | call (method : Http.Method) (url : String) (body : Option Json.Value)
      (below : session.IsBelow url) (fits : body.isSome = method.carriesBody) :
      May session (.exchange (session.client.request method url body))

/-- A property of queries that has all a session asks when only these resources of its shop are
asked for. -/
structure Permits (session : Session) (p : Query → Prop) (allowed : Resource → Prop) : Prop where
  moment : p .moment
  freshId : p .freshId
  pace (perSecond : UInt32) : p (.pace perSecond)
  call {resource : Resource} (hallowed : allowed resource) (method : Http.Method)
    (body : Option Json.Value) (fits : body.isSome = method.carriesBody) :
    p (.exchange (session.client.request method (session.urlOf resource) body))

theorem Permits.mono {session : Session} {p p' : Query → Prop} {allowed : Resource → Prop}
    (h : session.Permits p allowed) (himp : ∀ q, p q → p' q) : session.Permits p' allowed where
  moment := himp _ h.moment
  freshId := himp _ h.freshId
  pace perSecond := himp _ (h.pace perSecond)
  call hallowed method body fits := himp _ (h.call hallowed method body fits)

theorem isBelow_urlOf (session : Session) (resource : Resource) :
    session.IsBelow (session.urlOf resource) := by
  refine ⟨"shops/" ++ Text.Percent.encode (Text.trim session.config.shopId) ++
    writtenParts resource.parts, ?_⟩
  have hshops : "/application/shops/" = "/application/" ++ "shops/" := by decide
  simp only [urlOf_eq, shopRoot, hshops, String.append_assoc]

theorem isBelow_taxonomyUrl (session : Session) : session.IsBelow session.taxonomyUrl := by
  refine ⟨"seller-taxonomy/nodes", ?_⟩
  rw [taxonomyUrl, String.append_assoc]
  rfl

theorem permits_may (session : Session) (allowed : Resource → Prop) :
    session.Permits session.May allowed where
  moment := .moment
  freshId := .freshId
  pace := .pace
  call _ _ _ fits := .call _ _ _ (session.isBelow_urlOf _) fits

/-- A property of computations that has all a session does when it calls for nothing but these
resources of its shop. -/
structure Admits (session : Session) (p : (α : Type) → Dialogue α → Prop)
    (allowed : Resource → Prop) : Prop extends Dialogue.IsClosed p where
  moment : p _ Dialogue.moment
  freshId : p _ Dialogue.freshId
  call {resource : Resource} (hallowed : allowed resource) (method : Http.Method)
    (body : Option Json.Value) (fits : body.isSome = method.carriesBody) :
    p _ (session.client.execute method (session.urlOf resource) body).run

theorem Permits.admits {session : Session} {p : Query → Prop} {allowed : Resource → Prop}
    (h : session.Permits p allowed) : session.Admits (fun _ d => d.Always p) allowed where
  toIsClosed := Dialogue.isClosed_always p
  moment := ⟨h.moment, fun _ => trivial⟩
  freshId := ⟨h.freshId, fun _ => trivial⟩
  call hallowed method body fits := asks_execute h.pace (h.call hallowed method body fits)

/-- A property of computations that has all a session does when it calls for resources of its shop
in these ways only. -/
structure Serves (session : Session) (p : (α : Type) → Dialogue α → Prop)
    (made : Resource → Http.Method → Option Json.Value → Prop) : Prop
    extends Dialogue.IsClosed p where
  moment : p _ Dialogue.moment
  freshId : p _ Dialogue.freshId
  call {resource : Resource} {method : Http.Method} {body : Option Json.Value}
      (hmade : made resource method body) :
    p _ (session.client.execute method (session.urlOf resource) body).run

theorem serves_always {session : Session} {p : Query → Prop}
    {made : Resource → Http.Method → Option Json.Value → Prop} (hmoment : p .moment)
    (hfresh : p .freshId) (hpace : ∀ n, p (.pace n))
    (hcall : ∀ resource method body, made resource method body →
      p (.exchange (session.client.request method (session.urlOf resource) body))) :
    session.Serves (fun _ d => d.Always p) made where
  toIsClosed := Dialogue.isClosed_always p
  moment := ⟨hmoment, fun _ => trivial⟩
  freshId := ⟨hfresh, fun _ => trivial⟩
  call hmade := asks_execute hpace (hcall _ _ _ hmade)

namespace Serves

variable {session : Session} {p : (α : Type) → Dialogue α → Prop}
variable {made : Resource → Http.Method → Option Json.Value → Prop}
variable {resource : Resource} {method : Http.Method} {listingId : String}

theorem push (h : session.Serves p made) {body : Json.Value}
    (hmade : made resource method (some body)) :
    p _ (session.client.push method (session.urlOf resource) body).run :=
  h.attempt_bind (h.send (h.call hmade) _) fun _ => h.pure _

theorem delete (h : session.Serves p made) (hmade : made (.listing listingId) .delete none) :
    p _ (session.client.delete (session.listingUrl listingId)).run := by
  rw [listingUrl_eq]
  exact h.attempt_bind (h.call hmade) fun _ => h.pure _

theorem findListing (h : session.Serves p made) {sku : Sku}
    (hmade : made (.lookup sku.text) .get none) : p _ (session.findListing sku).run := by
  rw [Session.findListing, lookupUrl_eq]
  exact h.attempt_bind (h.get (h.call hmade) _) fun _ => h.pure _

theorem requireListing (h : session.Serves p made) {sku : Sku}
    (hmade : made (.lookup sku.text) .get none) : p _ (session.requireListing sku).run := by
  refine h.attempt_bind (h.findListing hmade) fun found => ?_
  cases found with
  | none => exact h.throw _
  | some listingId => exact h.pure _

theorem patchListing (h : session.Serves p made) {fields : ListingFields}
    (hmade : made (.listing listingId) .patch (some fields.toJson)) :
    p _ (session.patchListing listingId fields).run := by
  rw [Session.patchListing, listingUrl_eq]
  exact h.push hmade

theorem attachImages (h : session.Serves p made) (rank : Nat) {images : List String}
    (hmade : ∀ image ∈ images, ∀ rank, made (.images listingId) .post (imageBody image rank)) :
    p _ (session.attachImages listingId rank images).run := by
  induction images generalizing rank with
  | nil => exact h.pure _
  | cons image rest ih =>
    obtain ⟨hfirst, hrest⟩ := List.forall_mem_cons.1 hmade
    rw [Session.attachImages, imagesUrl_eq]
    exact h.liftM_bind (h.push (hfirst rank)) fun _ => ih (rank + 1) hrest

theorem createListing (h : session.Serves p made) {product : Product} {fields : ListingFields}
    (hcreate : made .listings .post (some fields.toJson))
    (himages : ∀ listingId, ∀ image ∈ product.images, ∀ rank,
      made (.images listingId) .post (imageBody image rank)) :
    p _ (session.createListing product fields).run := by
  rw [Session.createListing, listingsUrl_eq]
  refine h.attempt_bind (h.send (h.call hcreate) _) fun created => ?_
  cases created.bind Listing.id with
  | none => exact h.pure _
  | some listingId => exact h.attachImages 1 (himages listingId)

theorem upsertListing (h : session.Serves p made) {product : Product}
    (hlookup : made (.lookup product.sku.text) .get none)
    (hfields : ∀ fields, ListingFields.ofProduct product session.config.currencyCode = .ok fields →
      made .listings .post (some fields.toJson) ∧
        ∀ listingId, made (.listing listingId) .patch (some fields.toJson))
    (himages : ∀ listingId, ∀ image ∈ product.images, ∀ rank,
      made (.images listingId) .post (imageBody image rank)) :
    p _ (session.upsertListing product).run := by
  refine h.mk_pure_bind fun fields hproduct => ?_
  obtain ⟨hcreate, hwrite⟩ := hfields fields hproduct
  refine h.attempt_bind (h.findListing hlookup) fun found => ?_
  cases found with
  | none => exact h.createListing hcreate himages
  | some listingId => exact h.patchListing (hwrite listingId)

theorem ordersFrom (h : session.Serves p made) {since : Timestamp}
    (hmade : ∀ offset, made (.receipts since.unixSeconds offset) .get none) (signal : Signal)
    (offset : Nat) (done : List Order) :
    p _ (session.ordersFrom since signal offset done).run := by
  induction offset, done using ordersFrom_induction since with
  | step offset done ih =>
    rw [ordersFrom_eq, receiptsUrl_eq]
    refine h.attempt_bind (h.get (h.call (hmade offset)) _) fun page => ?_
    dsimp only
    split
    next hmore =>
      refine h.liftM_bind h.moment fun now => ?_
      split
      · exact h.pure _
      · exact ih page hmore
    next => exact h.pure _

end Serves

end Session

end Etsy

/-! ### Batches -/

namespace Dialogue.IsClosed

open Batch

variable {p : (α : Type) → Dialogue α → Prop} {signal : Signal} {upsert : Product → Attempt Unit}

theorem exportRest (h : IsClosed p) (hmoment : p _ moment) {products : List Product}
    (hupsert : ∀ product ∈ products, p _ (upsert product).run) (result : SyncResult) :
    p _ (Batch.exportRest signal upsert products result) := by
  induction products generalizing result with
  | nil => exact h.done _
  | cons product rest ih =>
    obtain ⟨hfirst, hrest⟩ := List.forall_mem_cons.1 hupsert
    rw [Batch.exportRest]
    refine h.bind hmoment fun now => ?_
    split
    · exact h.done _
    · refine h.bind hfirst fun outcome => ?_
      cases outcome with
      | ok u => exact ih hrest _
      | error e =>
        dsimp only
        split
        · exact h.done _
        · exact ih hrest _

theorem exportProducts (h : IsClosed p) (hmoment : p _ moment) (hfresh : p _ freshId)
    {products : List Product} (hupsert : ∀ product ∈ products, p _ (upsert product).run)
    (marketplace : MarketplaceId) :
    p _ (Batch.exportProducts marketplace products signal upsert).run := by
  rw [run_exportProducts]
  refine h.bind hmoment fun entry => ?_
  split
  · exact h.done _
  · refine h.bind hfresh fun id => h.bind hmoment fun start => ?_
    refine h.bind (h.exportRest hmoment hupsert _) fun result => ?_
    exact h.bind hmoment fun ended => h.done _

end Dialogue.IsClosed

/-! ### Operations of a marketplace -/

/-- What an adapter can be asked to do. -/
inductive MarketCall where
  | exportProducts (products : List Product) (signal : Signal)
  | updateProduct (product : Product)
  | updateStock (sku : Sku) (quantity : UInt32)
  | updatePrice (sku : Sku) (price : Number.Binary64)
  | deleteProduct (sku : Sku)
  | importOrders (since : Timestamp) (signal : Signal)
  | updateOrderStatus (orderId text : String)
  | markAsShipped (orderId : String) (shipment : Shipment)
  | categories
  | generateFeed (products : List Product)

namespace MarketCall

/-- What a call comes to when it does not fail. -/
def Answer : MarketCall → Type
  | exportProducts _ _ => SyncResult
  | importOrders _ _ => List Order
  | categories => List Category
  | generateFeed _ => Option String
  | _ => Unit

/-- The attempt of a call. -/
def attempt {α : Type} [Marketplace α] (adapter : α) : (call : MarketCall) → Attempt call.Answer
  | exportProducts products signal => Marketplace.exportProducts adapter products signal
  | updateProduct product => Marketplace.updateProduct adapter product
  | updateStock sku quantity => Marketplace.updateStock adapter sku quantity
  | updatePrice sku price => Marketplace.updatePrice adapter sku price
  | deleteProduct sku => Marketplace.deleteProduct adapter sku
  | importOrders since signal => Marketplace.importOrders adapter since signal
  | updateOrderStatus orderId text => Marketplace.updateOrderStatus adapter orderId text
  | markAsShipped orderId shipment => Marketplace.markAsShipped adapter orderId shipment
  | categories => Marketplace.categories adapter
  | generateFeed products => Marketplace.generateFeed adapter products

/-- What comes of a call without all credentials: what cannot be pushed is passed over, there is no
feed, and everything else is refused. -/
def refusal : (call : MarketCall) → Except MarketError call.Answer
  | updateOrderStatus _ _ => .ok ()
  | generateFeed _ => .ok none
  | exportProducts _ _ => .error (.notConfigured .etsy)
  | updateProduct _ => .error (.notConfigured .etsy)
  | updateStock _ _ => .error (.notConfigured .etsy)
  | updatePrice _ _ => .error (.notConfigured .etsy)
  | deleteProduct _ => .error (.notConfigured .etsy)
  | importOrders _ _ => .error (.notConfigured .etsy)
  | markAsShipped _ _ => .error (.notConfigured .etsy)
  | categories => .error (.notConfigured .etsy)

/-- The SKUs of the products that a call writes. -/
def skus : MarketCall → List Sku
  | exportProducts products _ => products.map Product.sku
  | updateProduct product => [product.sku]
  | updateStock sku _ => [sku]
  | updatePrice sku _ => [sku]
  | deleteProduct sku => [sku]
  | _ => []

/-- The call can have to do with the resource.  Which listings belong to its SKUs, the shop says. -/
def Concerns (call : MarketCall) : Etsy.Resource → Prop
  | .lookup text => ∃ sku ∈ call.skus, sku.text = text
  | .listings => ∃ products signal, call = exportProducts products signal
  | .listing _ => call.skus ≠ []
  | .images _ => ∃ products signal, call = exportProducts products signal
  | .receipts second _ => ∃ since signal, call = importOrders since signal ∧
      since.unixSeconds = second
  | .tracking orderId => ∃ shipment, call = markAsShipped orderId shipment

/-- The products that a call writes as a whole. -/
def products : MarketCall → List Product
  | exportProducts products _ => products
  | updateProduct product => [product]
  | _ => []

/-- What a call writes to a listing, where prices are in the currency. -/
inductive Writes (currency : String) : MarketCall → Etsy.ListingFields → Prop
  | product {call : MarketCall} {product : Product} {fields : Etsy.ListingFields}
      (hproduct : product ∈ call.products)
      (hfields : Etsy.ListingFields.ofProduct product currency = .ok fields) :
      Writes currency call fields
  | stock (sku : Sku) (quantity : UInt32) :
      Writes currency (updateStock sku quantity) { quantity := some quantity }
  | price (sku : Sku) {price : Number.Binary64} {money : Money}
      (hmoney : Etsy.sentPrice price currency = .ok money) :
      Writes currency (updatePrice sku price) { price := some money }

/-- How a call asks for resources of the shop, where prices are in the currency. -/
inductive Makes (currency : String) :
    MarketCall → Etsy.Resource → Http.Method → Option Json.Value → Prop
  | lookup {call : MarketCall} {sku : Sku} (hsku : sku ∈ call.skus) :
      Makes currency call (.lookup sku.text) .get none
  | create {products : List Product} {signal : Signal} {fields : Etsy.ListingFields}
      (hfields : Writes currency (exportProducts products signal) fields) :
      Makes currency (exportProducts products signal) .listings .post (some fields.toJson)
  | write {call : MarketCall} {fields : Etsy.ListingFields} (hfields : Writes currency call fields)
      (listingId : String) :
      Makes currency call (.listing listingId) .patch (some fields.toJson)
  | attach {products : List Product} {signal : Signal} {product : Product} {image : String}
      (hproduct : product ∈ products) (himage : image ∈ product.images) (listingId : String)
      (rank : Nat) :
      Makes currency (exportProducts products signal) (.images listingId) .post
        (Etsy.imageBody image rank)
  | delete (sku : Sku) (listingId : String) :
      Makes currency (deleteProduct sku) (.listing listingId) .delete none
  | receipts (since : Timestamp) (signal : Signal) (offset : Nat) :
      Makes currency (importOrders since signal) (.receipts since.unixSeconds offset) .get none
  | track (orderId : String) (shipment : Shipment) :
      Makes currency (markAsShipped orderId shipment) (.tracking orderId) .post
        (Etsy.trackingBody shipment)

section Makes

variable {call : MarketCall} {currency : String} {product : Product}

theorem sku_mem_skus (h : product ∈ call.products) : product.sku ∈ call.skus := by
  cases call with
  | exportProducts products signal => exact List.mem_map_of_mem h
  | updateProduct other =>
    obtain rfl := List.mem_singleton.1 h
    exact List.mem_singleton_self _
  | _ => cases h

theorem Writes.skus_ne_nil {fields : Etsy.ListingFields} (h : call.Writes currency fields) :
    call.skus ≠ [] := by
  cases h with
  | product hproduct _ => exact List.ne_nil_of_mem (sku_mem_skus hproduct)
  | stock sku _ => exact List.cons_ne_nil _ _
  | price sku _ => exact List.cons_ne_nil _ _

/-- Only the resources are asked for that the call has to do with, and a body is sent where one
belongs. -/
theorem Makes.concerns {resource : Etsy.Resource} {method : Http.Method} {body : Option Json.Value}
    (h : call.Makes currency resource method body) :
    call.Concerns resource ∧ body.isSome = method.carriesBody := by
  refine ⟨?_, by cases h <;> rfl⟩
  cases h with
  | lookup hsku => exact ⟨_, hsku, rfl⟩
  | create _ => exact ⟨_, _, rfl⟩
  | write hfields _ => exact hfields.skus_ne_nil
  | attach _ _ _ _ => exact ⟨_, _, rfl⟩
  | delete _ _ => exact List.cons_ne_nil _ _
  | receipts _ _ _ => exact ⟨_, _, rfl, rfl⟩
  | track _ _ => exact ⟨_, rfl⟩

end Makes

end MarketCall

namespace Etsy

/-! ### Signatures -/

/-- The address of a configuration: its own without blanks around it, if that says anything. -/
def writtenAddress (config : Config) : String :=
  ((config.baseUrl.map Text.trim).filter (· ≠ "")).getD defaultBaseUrl

/-- The address without the slashes at its end. -/
def IsBase (base address : String) : Prop :=
  (∃ n, address = base ++ String.ofList (List.replicate n '/')) ∧ base.toList.getLast? ≠ some '/'

/-- The request goes to the application below the base address, with the credentials and the time
limit of the configuration, and says that its body is JSON when it has one. -/
structure Signs (config : Config) (base : String) (request : Http.Request) : Prop where
  url : ∃ rest, request.url = base ++ "/application/" ++ rest
  headers : request.headers =
    [("authorization", "Bearer " ++ Text.trim config.accessToken),
      ("x-api-key", Text.trim config.apiKey)] ++
    if request.body.isSome then [("content-type", "application/json")] else []
  body : request.body.isSome = true ↔ request.method = .post ∨ request.method = .patch
  timeout : request.timeoutMs = config.timeoutMs

namespace Session

theorem isBase_dropSlashes (address : String) :
    IsBase (String.ofList (address.toList.reverse.dropWhile (· == '/')).reverse) address := by
  have hsplit := List.takeWhile_append_dropWhile (p := (· == '/')) (l := address.toList.reverse)
  have hslashes : address.toList.reverse.takeWhile (· == '/') =
      List.replicate (address.toList.reverse.takeWhile (· == '/')).length '/' := by
    refine List.eq_replicate_of_mem fun c hc => ?_
    have hslash := List.mem_takeWhile_imp hc
    exact beq_iff_eq.1 hslash
  refine ⟨⟨(address.toList.reverse.takeWhile (· == '/')).length, ?_⟩, ?_⟩
  · rw [← String.toList_inj, String.toList_append, String.toList_ofList, String.toList_ofList,
      ← List.reverse_replicate, ← hslashes, ← List.reverse_append, hsplit, List.reverse_reverse]
  · rw [String.toList_ofList, List.getLast?_reverse]
    intro hlast
    have hno := List.head?_dropWhile_not (· == '/') address.toList.reverse
    rw [hlast] at hno
    simp at hno

theorem isBase_baseUrlOf (config : Config) : IsBase (baseUrlOf config) (writtenAddress config) := by
  have hbase : baseUrlOf config =
      String.ofList ((writtenAddress config).toList.reverse.dropWhile (· == '/')).reverse := by
    unfold baseUrlOf writtenAddress
    cases config.baseUrl with
    | none => rfl
    | some url =>
      by_cases hblank : Text.isBlankText url = true
      · simp [Text.trim_eq_empty_iff.2 hblank, hblank, Option.filter_some]
      · have hne : Text.trim url ≠ "" := fun h => hblank (Text.trim_eq_empty_iff.1 h)
        simp [hne, hblank, Option.filter_some]
  rw [hbase]
  exact isBase_dropSlashes _

/-- What a session may ask is signed with its configuration. -/
theorem May.signs {config : Config} {request : Http.Request}
    (h : (ofConfig config).May (.exchange request)) :
    Signs config (baseUrlOf config) request := by
  cases h with
  | call method url body hbelow hfits =>
    rw [Http.Client.request_eq]
    refine ⟨hbelow, ?_, ?_, rfl⟩
    · rw [Option.isSome_map]
      rfl
    · rw [Option.isSome_map, hfits]
      cases method <;> simp [Http.Method.carriesBody]

end Session

end Etsy

namespace Etsy.Adapter

open Session

section Closed

variable {α : Type} {p : (α : Type) → Dialogue α → Prop} {adapter : Adapter}

theorem withSession_of_closed (h : Dialogue.IsClosed p) {f : Session → Attempt α}
    (hf : ∀ session, adapter.session = .ok session → p _ (f session).run) :
    p _ (adapter.withSession f).run :=
  h.mk_pure_bind hf

/-- An adapter calls for resources of the shop as the call makes it, and for the taxonomy when that
is what it is asked for. -/
theorem attempt_of_serves (call : MarketCall) (hclosed : Dialogue.IsClosed p)
    (hsession : ∀ session, adapter.session = .ok session →
      session.Serves p (call.Makes session.config.currencyCode))
    (htaxonomy : ∀ session, adapter.session = .ok session → call = .categories →
      p _ (session.client.execute .get session.taxonomyUrl none).run) :
    p _ (call.attempt adapter).run := by
  cases call with
  | exportProducts products signal =>
    refine withSession_of_closed hclosed fun session h => ?_
    have hserves := hsession session h
    refine hclosed.exportProducts hserves.moment hserves.freshId (fun product hmem => ?_) _
    refine hserves.upsertListing (.lookup (List.mem_map_of_mem hmem)) (fun fields hfields => ?_)
      fun listingId image himage rank => .attach hmem himage listingId rank
    exact ⟨.create (.product hmem hfields), .write (.product hmem hfields)⟩
  | updateProduct product =>
    refine withSession_of_closed hclosed fun session h => ?_
    have hlookup := (hsession session h).requireListing (.lookup (List.mem_singleton_self _))
    refine hclosed.attempt_bind hlookup fun listingId => ?_
    exact hclosed.mk_pure_bind fun fields hfields => (hsession session h).patchListing
      (.write (.product (List.mem_singleton_self _) hfields) listingId)
  | updateStock sku quantity =>
    refine withSession_of_closed hclosed fun session h => ?_
    have hlookup := (hsession session h).requireListing (.lookup (List.mem_singleton_self _))
    exact hclosed.attempt_bind hlookup fun listingId =>
      (hsession session h).patchListing (.write (.stock sku quantity) listingId)
  | updatePrice sku price =>
    refine withSession_of_closed hclosed fun session h => ?_
    refine hclosed.mk_pure_bind fun money hmoney => ?_
    have hlookup := (hsession session h).requireListing (.lookup (List.mem_singleton_self _))
    exact hclosed.attempt_bind hlookup fun listingId =>
      (hsession session h).patchListing (.write (.price sku hmoney) listingId)
  | deleteProduct sku =>
    refine withSession_of_closed hclosed fun session h => ?_
    have hlookup := (hsession session h).requireListing (.lookup (List.mem_singleton_self _))
    exact hclosed.attempt_bind hlookup fun listingId =>
      (hsession session h).delete (.delete sku listingId)
  | importOrders since signal =>
    refine withSession_of_closed hclosed fun session h => ?_
    have horders := (hsession session h).ordersFrom (.receipts since signal) signal 0 []
    refine hclosed.liftM_bind (hsession session h).moment fun now => ?_
    split
    · exact hclosed.attempt_bind (hclosed.throw _) fun _ => horders
    · exact horders
  | updateOrderStatus orderId text => exact hclosed.pure ()
  | markAsShipped orderId shipment =>
    refine withSession_of_closed hclosed fun session h => ?_
    rw [trackingUrl_eq]
    exact (hsession session h).push (.track orderId shipment)
  | categories =>
    refine withSession_of_closed hclosed fun session h => ?_
    exact hclosed.attempt_bind (hclosed.get (htaxonomy session h rfl) _) fun _ => hclosed.pure _
  | generateFeed products => exact hclosed.pure none

/-- An adapter calls for the resources that a call concerns, and for the taxonomy when that is what
it is asked for. -/
theorem attempt_of_admits (call : MarketCall) (hclosed : Dialogue.IsClosed p)
    (hsession : ∀ session, adapter.session = .ok session → session.Admits p call.Concerns)
    (htaxonomy : ∀ session, adapter.session = .ok session → call = .categories →
      p _ (session.client.execute .get session.taxonomyUrl none).run) :
    p _ (call.attempt adapter).run := by
  refine attempt_of_serves call hclosed (fun session h => ?_) htaxonomy
  have hadmits := hsession session h
  refine ⟨hclosed, hadmits.moment, hadmits.freshId, fun hmade => ?_⟩
  exact hadmits.call hmade.concerns.1 _ _ hmade.concerns.2

end Closed

variable {p : Query → Prop} {adapter : Adapter}

/-- What an adapter asks has a property that its session permits, where only what the call concerns
is asked for. -/
theorem asks_attempt_of_permits (call : MarketCall)
    (hsession : ∀ session, adapter.session = .ok session → session.Permits p call.Concerns)
    (htaxonomy : ∀ session, adapter.session = .ok session → call = .categories →
      p (.exchange (session.client.request .get session.taxonomyUrl none))) :
    (call.attempt adapter).Asks p :=
  attempt_of_admits call (Dialogue.isClosed_always p) (fun session h => (hsession session h).admits)
    fun session h hcall =>
      Http.Client.asks_execute (hsession session h).pace (htaxonomy session h hcall)

/-- An adapter asks only what its session may ask. -/
theorem asks_attempt
    (hsession : ∀ session, adapter.session = .ok session → ∀ q, session.May q → p q)
    (call : MarketCall) : (call.attempt adapter).Asks p := by
  refine asks_attempt_of_permits call (fun session h => ?_) fun session h _ => ?_
  · exact (session.permits_may call.Concerns).mono (hsession session h)
  · exact hsession session h _ (.call _ _ _ session.isBelow_taxonomyUrl rfl)

theorem session_eq_ok_iff {session : Session} :
    adapter.session = .ok session ↔
      ∃ config, adapter.config = some config ∧ config.hasCredentials = true ∧
        Session.ofConfig config = session := by
  unfold Adapter.session
  cases adapter.config with
  | none => simp
  | some config => by_cases h : config.hasCredentials = true <;> simp [h]

theorem ofConfig_eq_of_session {config : Config} {session : Session}
    (hconfig : adapter.config = some config) (h : adapter.session = .ok session) :
    Session.ofConfig config = session := by
  obtain ⟨config', hconfig', -, rfl⟩ := session_eq_ok_iff.1 h
  rw [Option.some.inj (hconfig.symm.trans hconfig')]

/-- A configuration lacks a credential when it has one of which nothing is left once it is
trimmed. -/
def Lacks (config : Config) : Prop :=
  Text.trim config.accessToken = "" ∨ Text.trim config.apiKey = "" ∨ Text.trim config.shopId = ""

theorem hasCredentials_eq_false_iff {config : Config} :
    config.hasCredentials = false ↔ Lacks config := by
  simp only [Config.hasCredentials, Lacks, Text.trim_eq_empty_iff, Bool.and_eq_false_iff,
    Bool.not_eq_false', or_assoc]

theorem run_attempt_of_lacks (h : ∀ config, adapter.config = some config → Lacks config)
    (call : MarketCall) : (call.attempt adapter).run = pure call.refusal := by
  have hsession : adapter.session = .error (.notConfigured .etsy) := by
    unfold Adapter.session
    cases hconfig : adapter.config with
    | none => rfl
    | some config => simp [hasCredentials_eq_false_iff.2 (h config hconfig)]
  have hwith {α : Type} (f : Session → Attempt α) :
      (adapter.withSession f).run = pure (.error (.notConfigured .etsy)) := by
    unfold withSession
    rw [run_mk_pure_bind, hsession]
  cases call with
  | updateOrderStatus orderId text => rfl
  | generateFeed products => rfl
  | exportProducts products signal => exact hwith _
  | updateProduct product => exact hwith _
  | updateStock sku quantity => exact hwith _
  | updatePrice sku price => exact hwith _
  | deleteProduct sku => exact hwith _
  | importOrders since signal => exact hwith _
  | markAsShipped orderId shipment => exact hwith _
  | categories => exact hwith _

/-- **Requests are signed.**  Whoever answers: an adapter whose configuration lacks a credential, or
that has none, asks nothing, and its operations are refused or have nothing to do.  All requests of
any other go below the address of its configuration and carry its credentials and its time limit. -/
theorem attempt_signs {σ : Type} (world : World σ) (adapter : Adapter) (call : MarketCall) (s : σ) :
    ((∀ config, adapter.config = some config → Lacks config) →
      (call.attempt adapter).run.queries world s = [] ∧
        (call.attempt adapter).run.run world s = (call.refusal, s)) ∧
    ∀ config, adapter.config = some config →
      IsBase (baseUrlOf config) (writtenAddress config) ∧
        ∀ request ∈ requestsOf ((call.attempt adapter).run.queries world s),
          Signs config (baseUrlOf config) request := by
  refine ⟨fun hlacks => ?_, fun config hconfig => ⟨isBase_baseUrlOf config, ?_⟩⟩
  · rw [run_attempt_of_lacks hlacks]
    exact ⟨rfl, rfl⟩
  · have hasks : (call.attempt adapter).Asks fun q =>
        ∀ request, q.request? = some request → Signs config (baseUrlOf config) request := by
      refine asks_attempt (fun session hsession q hmay request hrequest => ?_) call
      obtain ⟨config', hconfig', -, rfl⟩ := session_eq_ok_iff.1 hsession
      obtain rfl : config = config' := Option.some.inj (hconfig.symm.trans hconfig')
      cases q <;> cases hrequest
      exact hmay.signs
    intro request hrequest
    obtain ⟨q, hq, hsent⟩ := List.mem_filterMap.1 hrequest
    rw [← Dialogue.map_query_transcript] at hq
    obtain ⟨answered, hmem, rfl⟩ := List.mem_map.1 hq
    exact hasks.of_gives (Dialogue.gives_transcript world _ s) answered hmem request hsent

/-- An outside where every request is answered with one listing. -/
def oneListing : World (Visit Unit) :=
  Server.world (fun _ s => (.ok (.ok "\x7b\"results\":[\x7b\"listing_id\":7\x7d]\x7d"), s))
    (still fun _ => [])

/-- A stock is looked up and written with two signed requests, and without a key not at all. -/
theorem attempt_signs_oneListing :
    let complete := { sampleConfig with baseUrl := some " https://shop.test// " }
    let lacking := { complete with apiKey := " " }
    let call := MarketCall.updateStock { text := "ABC", normal := by decide } 1
    let requests := requestsOf
      ((call.attempt ({ config := some complete } : Adapter)).run.queries oneListing ⟨(), []⟩)
    Lacks lacking ∧
      (call.attempt ({ config := some lacking } : Adapter)).run.queries oneListing ⟨(), []⟩ = [] ∧
      baseUrlOf complete = "https://shop.test" ∧
      requests.map Http.Request.method = [.get, .patch] ∧
      ∀ request ∈ requests, Signs complete (baseUrlOf complete) request := by
  intro complete lacking call requests
  have hlacks : Lacks lacking := by
    refine .inr (.inl ?_)
    decide +kernel
  have hsilent := (attempt_signs oneListing { config := some lacking } call ⟨(), []⟩).1
    fun config hconfig => Option.some.inj hconfig ▸ hlacks
  have hsigned := (attempt_signs oneListing { config := some complete } call ⟨(), []⟩).2
    complete rfl
  have hbase : baseUrlOf complete = "https://shop.test" := by decide +kernel
  have hmethods : requests.map Http.Request.method = [.get, .patch] := by decide +kernel
  exact ⟨hlacks, hsilent.1, hbase, hmethods, hsigned.2⟩

end Etsy.Adapter

end ShopSync
