import Mathlib.Tactic
import ShopSync.Proofs.Sync.Watermark

/-!
Operations that fail.

Every operation of the service looks at it and asks the outside first, and writes last.  As long as
something can go wrong nothing has been written, and once something has been written nothing can go
wrong any more, since the store in memory refuses nothing.  So an operation that ends with an error
leaves the service as it was: its orders, results and mappings, the configuration of every adapter
and the feeds (`failed_leaves_service`).
-/

namespace ShopSync

variable {α β γ : Type}

namespace Operation

/-- An operation that ends with an error leaves the service as it was. -/
def LeavesOnError (operation : Operation α MemoryStore β) : Prop :=
  ∀ ⦃service t e after⦄, (operation.on service).Gives t (.error e, after) → after = service

/-- The service is the same behind the operation, whatever the outcome. -/
def Reads (operation : Operation α MemoryStore β) : Prop :=
  ∀ service, Keeps (· = service) operation

/-- The operation never ends with an error. -/
def Succeeds (operation : Operation α MemoryStore β) : Prop :=
  ∀ ⦃service t outcome after⦄, (operation.on service).Gives t (outcome, after) →
    outcome.isOk = true

variable {operation : Operation α MemoryStore γ} {f : γ → Operation α MemoryStore β}

theorem Reads.leavesOnError (h : operation.Reads) : operation.LeavesOnError :=
  fun service _ _ _ hgives => h service rfl hgives

theorem Succeeds.leavesOnError (h : operation.Succeeds) : operation.LeavesOnError := by
  intro service t e after hgives
  cases h hgives

/-- What comes behind an operation that only reads may fail as well. -/
theorem Reads.bind (hfirst : operation.Reads) (hrest : ∀ c, (f c).LeavesOnError) :
    (operation >>= f).LeavesOnError := by
  intro service t e after h
  rw [on_bind] at h
  obtain ⟨⟨outcome, between⟩, t₁, t₂, rfl, h₁, h₂⟩ := Dialogue.gives_bind_iff.1 h
  obtain rfl := hfirst service rfl h₁
  cases outcome with
  | ok c => exact hrest c h₂
  | error e' =>
    obtain ⟨-, heq⟩ := Dialogue.gives_pure_iff.1 h₂
    cases heq
    rfl

/-- What comes behind an operation that may have written must not fail. -/
theorem LeavesOnError.bind (hfirst : operation.LeavesOnError) (hrest : ∀ c, (f c).Succeeds) :
    (operation >>= f).LeavesOnError := by
  intro service t e after h
  rw [on_bind] at h
  obtain ⟨⟨outcome, between⟩, t₁, t₂, rfl, h₁, h₂⟩ := Dialogue.gives_bind_iff.1 h
  cases outcome with
  | ok c => cases hrest c h₂
  | error e' =>
    obtain rfl := hfirst h₁
    obtain ⟨-, heq⟩ := Dialogue.gives_pure_iff.1 h₂
    cases heq
    rfl

theorem succeeds_of_on_eq
    (h : ∀ service, ∃ c after, operation.on service = pure (.ok c, after)) :
    operation.Succeeds := by
  intro service t outcome after hgives
  obtain ⟨c, new, heq⟩ := h service
  rw [heq] at hgives
  obtain ⟨-, heq⟩ := Dialogue.gives_pure_iff.1 hgives
  cases heq
  rfl

theorem leavesOnError_get_bind {f : Service α MemoryStore → Operation α MemoryStore β}
    (hrest : ∀ service, (f service).LeavesOnError) : LeavesOnError (get >>= f) :=
  fun service _ _ _ h => hrest service h

theorem LeavesOnError.discard (h : operation.LeavesOnError) :
    LeavesOnError (Functor.discard operation) := by
  have hbind : Functor.discard operation = operation >>= fun _ => pure () :=
    map_eq_pure_bind _ operation
  rw [hbind]
  exact h.bind fun _ => succeeds_of_on_eq fun _ => ⟨(), _, rfl⟩

theorem leavesOnError_attempt {attempt : Attempt γ} (hrest : ∀ c, (f c).LeavesOnError) :
    (ofAttempt attempt >>= f).LeavesOnError :=
  Reads.bind (fun _ => keeps_ofAttempt attempt) hrest

end Operation

/-! ### The operations of the service -/

namespace Service

open Operation

theorem succeeds_setStoredStatus (id : MarketplaceId) (orderId text : String) :
    Succeeds (setStoredStatus (α := α) id orderId text) :=
  succeeds_of_on_eq fun _ => ⟨(), _, rfl⟩

theorem leavesOnError_saveMapping (id : MarketplaceId) (mapping : CategoryMapping) :
    LeavesOnError (saveMapping (α := α) id mapping) :=
  (succeeds_of_on_eq fun _ => ⟨(), _, rfl⟩).leavesOnError

variable [Marketplace α]

theorem leavesOnError_ready {id : MarketplaceId} {f : α → Operation α MemoryStore β}
    (hrest : ∀ adapter, (f adapter).LeavesOnError) : (readyAdapter id >>= f).LeavesOnError :=
  Reads.bind (fun _ => keeps_readyAdapter _ id) hrest

theorem leavesOnError_mappings {adapter : α}
    {f : List CategoryMapping → Operation α MemoryStore β}
    (hrest : ∀ mappings, (f mappings).LeavesOnError) :
    (mappingsFor adapter >>= f).LeavesOnError :=
  Reads.bind (fun _ => keeps_mappingsFor _ adapter) hrest

theorem leavesOnError_configure (config : Config) :
    LeavesOnError (configure (α := α) config) :=
  Reads.bind (fun _ => keeps_adapter _ _) fun _ => Reads.bind (fun _ => keeps_mk_pure _) fun _ =>
    (succeeds_of_on_eq fun _ => ⟨(), _, rfl⟩).leavesOnError

theorem leavesOnError_exportProducts (id : MarketplaceId) (products : List Product)
    (signal : Signal) : LeavesOnError (exportProducts (α := α) id products signal) :=
  leavesOnError_ready fun _ => leavesOnError_mappings fun _ => leavesOnError_attempt fun _ =>
    (succeeds_of_on_eq fun _ => ⟨_, _, rfl⟩).leavesOnError

/-- An import takes orders in only when all pages are there. -/
theorem leavesOnError_importOrders (id : MarketplaceId) (since : Option Timestamp)
    (signal : Signal) : LeavesOnError (importOrders (α := α) id since signal) := by
  intro service t e after h
  rcases gives_importOrders h with ⟨_, -, hafter⟩ | ⟨adapter, start, before, during, orders,
    resultId, started, now, ended, -, -, -, -, habsurd, -⟩
  · exact hafter
  · cases habsurd

theorem leavesOnError_updateOrderStatus (id : MarketplaceId) (orderId text : String) :
    LeavesOnError (updateOrderStatus (α := α) id orderId text) :=
  leavesOnError_ready fun _ => leavesOnError_attempt fun _ =>
    (succeeds_setStoredStatus id orderId text).leavesOnError

theorem leavesOnError_markAsShipped (id : MarketplaceId) (orderId : String)
    (shipment : Shipment) : LeavesOnError (markAsShipped (α := α) id orderId shipment) :=
  leavesOnError_ready fun _ => leavesOnError_attempt fun _ =>
    (succeeds_setStoredStatus id orderId shippedStatus).leavesOnError

theorem leavesOnError_generateFeed (id : MarketplaceId) (products : List Product) :
    LeavesOnError (generateFeed (α := α) id products) :=
  Reads.bind (fun _ => keeps_adapter _ id) fun _ => leavesOnError_mappings fun _ =>
    leavesOnError_attempt fun _ => (succeeds_of_on_eq fun _ => ⟨_, _, rfl⟩).leavesOnError

theorem leavesOnError_feed (id : MarketplaceId) (products : List Product) (regenerate : Bool) :
    LeavesOnError (feed (α := α) id products regenerate) := by
  refine leavesOnError_get_bind fun service => ?_
  split
  · exact (succeeds_of_on_eq fun _ => ⟨_, _, rfl⟩).leavesOnError
  · exact leavesOnError_generateFeed id products

end Service

/-! ### Every operation -/

namespace ServiceCall

open Operation Service

variable [Marketplace α]

/-- The operation of a call, which may end with an error.  A call that is for every active
marketplace has an outcome for each of them instead, and some calls cannot fail. -/
def operation? : ServiceCall → Option (Operation α MemoryStore Unit)
  | .configure config => some (Service.configure config)
  | .exportProducts id products signal =>
    some (Functor.discard (Service.exportProducts id products signal))
  | .importOrders id since signal => some (Functor.discard (Service.importOrders id since signal))
  | .updateProduct id product => some (Service.updateProduct id product)
  | .updateStock id sku quantity => some (Service.updateStock id sku quantity)
  | .updatePrice id sku price => some (Service.updatePrice id sku price)
  | .deleteProduct id sku => some (Service.deleteProduct id sku)
  | .updateOrderStatus id orderId text => some (Service.updateOrderStatus id orderId text)
  | .markAsShipped id orderId shipment => some (Service.markAsShipped id orderId shipment)
  | .categories id => some (Functor.discard (Service.categories id))
  | .saveMapping id mapping => some (Service.saveMapping id mapping)
  | .mappings id => some (Functor.discard (Service.mappings id))
  | .feed id products regenerate => some (Functor.discard (Service.feed id products regenerate))
  | .status => some (Functor.discard Service.status)
  | .history id limit => some (Functor.discard (Service.history id limit))
  | .exportAll .. | .importAll .. | .updateStockAll .. | .updatePriceAll .. => none
  | .invalidateFeed _ | .restore => none

theorem leavesOnError_operation {call : ServiceCall} {operation : Operation α MemoryStore Unit}
    (h : call.operation? = some operation) : operation.LeavesOnError := by
  cases call with
  | configure config =>
    cases h
    exact leavesOnError_configure config
  | exportProducts id products signal =>
    cases h
    exact (leavesOnError_exportProducts id products signal).discard
  | importOrders id since signal =>
    cases h
    exact (leavesOnError_importOrders id since signal).discard
  | updateProduct id product =>
    cases h
    exact Reads.leavesOnError fun _ => keeps_updateProduct _ id product
  | updateStock id sku quantity =>
    cases h
    exact Reads.leavesOnError fun _ => keeps_ready_attempt _ id _
  | updatePrice id sku price =>
    cases h
    exact Reads.leavesOnError fun _ => keeps_ready_attempt _ id _
  | deleteProduct id sku =>
    cases h
    exact Reads.leavesOnError fun _ => keeps_ready_attempt _ id _
  | updateOrderStatus id orderId text =>
    cases h
    exact leavesOnError_updateOrderStatus id orderId text
  | markAsShipped id orderId shipment =>
    cases h
    exact leavesOnError_markAsShipped id orderId shipment
  | categories id =>
    cases h
    exact (Reads.leavesOnError fun _ => keeps_categories _ id).discard
  | saveMapping id mapping =>
    cases h
    exact leavesOnError_saveMapping id mapping
  | mappings id =>
    cases h
    exact (Reads.leavesOnError fun _ => keeps_mappings _ id).discard
  | feed id products regenerate =>
    cases h
    exact (leavesOnError_feed id products regenerate).discard
  | status =>
    cases h
    exact (Reads.leavesOnError fun _ => keeps_status _).discard
  | history id limit =>
    cases h
    exact (Reads.leavesOnError fun _ => keeps_history _ id limit).discard
  | exportAll products signal => cases h
  | importAll signal => cases h
  | updateStockAll sku quantity => cases h
  | updatePriceAll sku price => cases h
  | invalidateFeed id => cases h
  | restore => cases h

/-- **Operations that fail.**  Whatever the outside answers, an operation that ends with an error
leaves the service as it was, the adapters with their configurations, the store and the feeds. -/
theorem failed_leaves_service {σ : Type} (world : World σ) (call : ServiceCall)
    (operation : Operation α MemoryStore Unit) (hcall : call.operation? = some operation)
    (service after : Service α MemoryStore) (s : σ) (e : SyncError)
    (hfailed : ((operation.on service).run world s).1 = (.error e, after)) :
    after = service := by
  have hgives := Dialogue.gives_transcript world (operation.on service) s
  rw [hfailed] at hgives
  exact leavesOnError_operation hcall hgives

/-- A world in which some requests are answered with a full page of receipts, and all others are
refused; it counts the requests. -/
def brokenWorld (pages : Nat) : World Nat where
  answer
    | .exchange _, n =>
      let results := String.intercalate "," (List.replicate 100 "\x7b\x7d")
      let page := Http.Response.ok ("\x7b\"results\":[" ++ results ++ "]\x7d")
      (.ok (if n < pages then page else { status := 500, body := "try again" }), n + 1)
    | .moment, n => ({ wall := .epoch, uptime := 0, cancelled := [] }, n)
    | .freshId, n => (⟨0⟩, n)
    | .pace _, n => ((), n)
    | .fileExists _, n => (false, n)
    | .readFile _, n => (.error .missing, n)
    | .writeFile _ _, n => (.error .denied, n)

/-- A service with an order that was sent. -/
def soldService : EtsyService :=
  { Service.sampleService with
    store :=
      { orders := .ofList
          [{ externalId := "7", marketplace := .etsy, status := Service.shippedStatus,
             total := .zero, customerName := "Ada", deliveryAddress := "", deliveryCity := "",
             items := [], createdAt := .epoch }] } }

/-- An import whose second page is refused takes no order of the first one in, and a configuration
that is not valid leaves the one before in force. -/
theorem failed_leaves_service_brokenWorld :
    (let importing := (Functor.discard (Service.importOrders .etsy none { token := 0 })).on
        soldService
      ∃ e, (importing.run (brokenWorld 1) 0).1 = (.error e, soldService) ∧
        (importing.run (brokenWorld 1) 0).2 = 2) ∧
    let configuring := (Service.configure { Etsy.sampleConfig with currencyCode := "?" }).on
      soldService
    ∃ e, (configuring.run (brokenWorld 1) 0).1 = (.error e, soldService) := by
  have hfailed {p : Except SyncError Unit × EtsyService} (h : p.1.isOk = false) :
      ∃ e, p = (.error e, p.2) := by
    obtain ⟨outcome, after⟩ := p
    cases outcome with
    | ok u => cases h
    | error e => exact ⟨e, rfl⟩
  constructor
  · intro importing
    have hfacts : (importing.run (brokenWorld 1) 0).1.1.isOk = false ∧
        (importing.run (brokenWorld 1) 0).2 = 2 := by
      decide +kernel
    obtain ⟨e, hrun⟩ := hfailed hfacts.1
    have hafter := failed_leaves_service (brokenWorld 1)
      (.importOrders .etsy none { token := 0 }) _ rfl soldService _ 0 e hrun
    rw [hafter] at hrun
    exact ⟨e, hrun, hfacts.2⟩
  · intro configuring
    obtain ⟨e, hrun⟩ := hfailed
      (show (configuring.run (brokenWorld 1) 0).1.1.isOk = false by decide +kernel)
    have hafter := failed_leaves_service (brokenWorld 1)
      (.configure { Etsy.sampleConfig with currencyCode := "?" }) _ rfl soldService _ 0 e hrun
    rw [hafter] at hrun
    exact ⟨e, hrun⟩

end ServiceCall

end ShopSync
