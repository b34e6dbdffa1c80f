import Mathlib.Tactic
import ShopSync.Proofs.Etsy.Session
import ShopSync.Proofs.Keyed
import ShopSync.Proofs.Sync.Batch
import ShopSync.Proofs.Sync.Import
import ShopSync.Proofs.Sync.Lifecycle

/-!
Calls of the service, one after another.

Every call adds some results to those the store keeps, and nothing else happens to results: an
export that comes to a report adds it, an import that comes to a report adds that one, and all other
calls add nothing.  `Adds` says so for one call and, as it can be put together, for any sequence of
calls.
-/

namespace ShopSync

/-- What the service can be asked to do, with one more: to write its store as a snapshot and to go
on with the store that is restored from it. -/
inductive ServiceCall where
  | configure (config : Config)
  | exportProducts (id : MarketplaceId) (products : List Product) (signal : Signal)
  | exportAll (products : List Product) (signal : Signal)
  | importOrders (id : MarketplaceId) (since : Option Timestamp) (signal : Signal)
  | importAll (signal : Signal)
  | updateProduct (id : MarketplaceId) (product : Product)
  | updateStock (id : MarketplaceId) (sku : Sku) (quantity : UInt32)
  | updateStockAll (sku : Sku) (quantity : UInt32)
  | updatePrice (id : MarketplaceId) (sku : Sku) (price : Number.Binary64)
  | updatePriceAll (sku : Sku) (price : Number.Binary64)
  | deleteProduct (id : MarketplaceId) (sku : Sku)
  | updateOrderStatus (id : MarketplaceId) (orderId text : String)
  | markAsShipped (id : MarketplaceId) (orderId : String) (shipment : Shipment)
  | categories (id : MarketplaceId)
  | saveMapping (id : MarketplaceId) (mapping : CategoryMapping)
  | mappings (id : MarketplaceId)
  | feed (id : MarketplaceId) (products : List Product) (regenerate : Bool)
  | invalidateFeed (id : MarketplaceId)
  | status
  | history (id : MarketplaceId) (limit : Nat)
  | restore

/-- A service for the shop with a store in memory. -/
abbrev EtsyService := Service Etsy.Adapter MemoryStore

namespace ServiceCall

/-- An operation whose outcome is no import. -/
def noImport {β : Type} (operation : Operation Etsy.Adapter MemoryStore β) :
    ServiceM Etsy.Adapter MemoryStore (FanOut OrderImport) := do
  let _ ← operation.run
  pure []

/-- Something for every active marketplace that is no import. -/
def noImports {β : Type} (step : ServiceM Etsy.Adapter MemoryStore (FanOut β)) :
    ServiceM Etsy.Adapter MemoryStore (FanOut OrderImport) := do
  let _ ← step
  pure []

/-- Carries out a call.  What comes of its imports is kept. -/
def carryOut : ServiceCall → ServiceM Etsy.Adapter MemoryStore (FanOut OrderImport)
  | .configure config => noImport (Service.configure config)
  | .exportProducts id products signal => noImport (Service.exportProducts id products signal)
  | .exportAll products signal => noImports (Service.exportAll products signal)
  | .importOrders id since signal => do
    let outcome ← (Service.importOrders id since signal).run
    pure [(id, outcome)]
  | .importAll signal => Service.importAll signal
  | .updateProduct id product => noImport (Service.updateProduct id product)
  | .updateStock id sku quantity => noImport (Service.updateStock id sku quantity)
  | .updateStockAll sku quantity => noImports (Service.updateStockAll sku quantity)
  | .updatePrice id sku price => noImport (Service.updatePrice id sku price)
  | .updatePriceAll sku price => noImports (Service.updatePriceAll sku price)
  | .deleteProduct id sku => noImport (Service.deleteProduct id sku)
  | .updateOrderStatus id orderId text => noImport (Service.updateOrderStatus id orderId text)
  | .markAsShipped id orderId shipment => noImport (Service.markAsShipped id orderId shipment)
  | .categories id => noImport (Service.categories id)
  | .saveMapping id mapping => noImport (Service.saveMapping id mapping)
  | .mappings id => noImport (Service.mappings id)
  | .feed id products regenerate => noImport (Service.feed id products regenerate)
  | .invalidateFeed id => do
    Service.invalidateFeed id
    pure []
  | .status => noImport Service.status
  | .history id limit => noImport (Service.history id limit)
  | .restore => do
    modify fun service => { service with store := .ofSnapshot service.store.snapshot }
    pure []

/-- Carries out calls one after another, and gives the imports of all of them in order. -/
def carryOutAll : List ServiceCall → ServiceM Etsy.Adapter MemoryStore (FanOut OrderImport)
  | [] => pure []
  | call :: calls => do
    let first ← call.carryOut
    let rest ← carryOutAll calls
    pure (first ++ rest)

end ServiceCall

/-! ### Results that are added -/

/-- The results of the imports that came to one. -/
def importedResults (imports : FanOut OrderImport) : List SyncResult :=
  imports.filterMap fun (_, outcome) =>
    match outcome with
    | .ok i => some i.result
    | .error _ => none

/-- Results kept one after another. -/
def keepAll (results added : List SyncResult) : List SyncResult :=
  added.foldl (fun results result => Keyed.upsertBy SyncResult.id result results) results

/-- Between two services some results were added, with identifiers that were handed out in the
meantime; those of imports are the results of the given imports. -/
def Adds (service : EtsyService) (t : List Answered) (imports : FanOut OrderImport)
    (after : EtsyService) : Prop :=
  ∃ added,
    after.store.results = keepAll service.store.results added ∧
    (added.map SyncResult.id).Sublist (issuedIn t) ∧
    added.filter (fun result => result.direction = .inbound) = importedResults imports ∧
    ∀ id i, (id, .ok i) ∈ imports →
      i.result.marketplace = id ∧ i.result.status.isTerminal = true

namespace Adds

variable {service between after : EtsyService} {t t' : List Answered}
variable {imports imports' : FanOut OrderImport}

theorem nothing (h : after.store.results = service.store.results) :
    Adds service t [] after :=
  ⟨[], h, List.nil_sublist _, rfl, fun _ _ h => by cases h⟩

theorem failed (id : MarketplaceId) (e : SyncError)
    (h : after.store.results = service.store.results) :
    Adds service t [(id, .error e)] after := by
  refine ⟨[], h, List.nil_sublist _, rfl, fun id' i hmem => ?_⟩
  rw [List.mem_singleton] at hmem
  cases hmem

theorem trans (h : Adds service t imports between) (h' : Adds between t' imports' after) :
    Adds service (t ++ t') (imports ++ imports') after := by
  obtain ⟨added, hresults, hids, himports, hends⟩ := h
  obtain ⟨added', hresults', hids', himports', hends'⟩ := h'
  refine ⟨added ++ added', ?_, ?_, ?_, ?_⟩
  · rw [hresults', hresults, keepAll, keepAll, keepAll, List.foldl_append]
  · rw [List.map_append, issuedIn_append]
    exact hids.append hids'
  · rw [List.filter_append, himports, himports', importedResults, importedResults, importedResults,
      List.filterMap_append]
  · intro id i hmem
    rcases List.mem_append.1 hmem with hmem | hmem
    · exact hends id i hmem
    · exact hends' id i hmem

end Adds

/-! ### Operations that keep results -/

namespace Service

open Operation

section Readers

variable {α β : Type} (holds : Service α MemoryStore → Prop)

theorem keeps_adapter (id : MarketplaceId) : Keeps holds (adapter id) :=
  keeps_get_bind fun _ _ => keeps_ofMarket _

theorem keeps_history (id : MarketplaceId) (limit : Nat) : Keeps holds (history id limit) :=
  keeps_bind (keeps_adapter holds id) fun _ => keeps_get_bind fun _ _ => keeps_ofStore _

theorem keeps_mappings (id : MarketplaceId) : Keeps holds (mappings id) :=
  keeps_get_bind fun _ _ => keeps_ofStore _

variable [Marketplace α]

theorem keeps_readyAdapter (id : MarketplaceId) : Keeps holds (readyAdapter id) :=
  keeps_get_bind fun _ _ => keeps_ofMarket _

theorem keeps_mappingsFor (a : α) : Keeps holds (mappingsFor a) :=
  keeps_get_bind fun _ _ => keeps_bind (keeps_ofStore _) fun _ => keeps_pure _

theorem keeps_ready_attempt (id : MarketplaceId) (attempt : α → Attempt β) :
    Keeps holds (readyAdapter id >>= fun a => ofAttempt (attempt a)) :=
  keeps_bind (keeps_readyAdapter holds id) fun a => keeps_ofAttempt (attempt a)

theorem keeps_updateProduct (id : MarketplaceId) (product : Product) :
    Keeps holds (updateProduct id product) :=
  keeps_bind (keeps_readyAdapter holds id) fun a =>
    keeps_bind (keeps_mappingsFor holds a) fun _ => keeps_ofAttempt _

theorem keeps_categories (id : MarketplaceId) : Keeps holds (categories id) :=
  keeps_bind (keeps_adapter holds id) fun _ => keeps_ofAttempt _

theorem keeps_statusOf (a : α) : Keeps holds (statusOf a) := by
  refine keeps_get_bind fun service _ => ?_
  dsimp only
  split
  · exact keeps_bind (keeps_ofStore _) fun _ => keeps_pure _
  · exact keeps_pure _

theorem keeps_status : Keeps holds status :=
  keeps_get_bind fun _ _ => keeps_mapM (fun a => keeps_statusOf holds a) _

end Readers

section Writers

variable {α : Type} (results : List SyncResult)

/-- The store keeps these results. -/
def HasResults (service : Service α MemoryStore) : Prop := service.store.results = results

/-- The status of an order is no result. -/
theorem keeps_setStoredStatus (id : MarketplaceId) (orderId text : String) :
    Keeps (HasResults results) (setStoredStatus (α := α) id orderId text) :=
  keeps_get_bind fun service h =>
    keeps_ok_bind (c := service.store.setOrderStatus id orderId text) (keeps_set h)

/-- A mapping is no result. -/
theorem keeps_saveMapping (id : MarketplaceId) (mapping : CategoryMapping) :
    Keeps (HasResults results) (saveMapping (α := α) id mapping) :=
  keeps_get_bind fun service h =>
    keeps_ok_bind (c := service.store.saveMapping id mapping) (keeps_set h)

variable [Marketplace α]

theorem keeps_configure (config : Config) :
    Keeps (HasResults results) (configure (α := α) config) :=
  keeps_bind (keeps_adapter _ _) fun _ => keeps_bind (keeps_mk_pure _) fun _ =>
    keeps_bind (keeps_modify fun _ h => h) fun _ => keeps_modify fun _ h => h

theorem keeps_updateOrderStatus (id : MarketplaceId) (orderId text : String) :
    Keeps (HasResults results) (updateOrderStatus (α := α) id orderId text) :=
  keeps_bind (keeps_readyAdapter _ id) fun _ => keeps_bind (keeps_ofAttempt _) fun _ =>
    keeps_setStoredStatus results id orderId text

theorem keeps_markAsShipped (id : MarketplaceId) (orderId : String) (shipment : Shipment) :
    Keeps (HasResults results) (markAsShipped (α := α) id orderId shipment) :=
  keeps_bind (keeps_readyAdapter _ id) fun _ => keeps_bind (keeps_ofAttempt _) fun _ =>
    keeps_setStoredStatus results id orderId shippedStatus

theorem keeps_generateFeed (id : MarketplaceId) (products : List Product) :
    Keeps (HasResults results) (generateFeed (α := α) id products) :=
  keeps_bind (keeps_adapter _ id) fun a => keeps_bind (keeps_mappingsFor _ a) fun _ =>
    keeps_bind (keeps_ofAttempt _) fun _ => keeps_bind (keeps_modify fun _ h => h) fun _ =>
      keeps_pure _

theorem keeps_feed (id : MarketplaceId) (products : List Product) (regenerate : Bool) :
    Keeps (HasResults results) (feed (α := α) id products regenerate) := by
  refine keeps_get_bind fun service _ => ?_
  split
  · exact keeps_pure _
  · exact keeps_generateFeed results id products

end Writers

end Service

/-! ### What calls add -/

/-- The loop of a batch goes through steps of the life of its result. -/
theorem Batch.exists_afterAll {signal : Signal} {upsert : Product → Attempt Unit}
    {products : List Product} {running result : SyncResult} {t : List Answered}
    (h : (exportRest signal upsert products running).Gives t result) :
    ∃ steps, result = running.afterAll steps := by
  refine keeps_exportRest signal upsert (fun result => ∃ steps, result = running.afterAll steps)
    ?_ ?_ ?_ h ⟨[], rfl⟩
  · rintro _ ⟨steps, rfl⟩
    exact ⟨_, (SyncResult.afterAll_concat running steps .recordSuccess).symm⟩
  · rintro _ sku e ⟨steps, rfl⟩
    exact ⟨_, (SyncResult.afterAll_concat running steps (.recordFailure sku e)).symm⟩
  · rintro _ reason ⟨steps, rfl⟩
    exact ⟨_, (SyncResult.afterAll_concat running steps (.interrupt reason)).symm⟩

/-- An export that comes to a report asked for an identifier, and its report is the result that was
started with it after some steps and the last one. -/
theorem Etsy.Adapter.gives_exportProducts {adapter : Etsy.Adapter} {products : List Product}
    {signal : Signal} {t : List Answered} {result : SyncResult}
    (h : (adapter.exportProducts products signal).run.Gives t (.ok result)) :
    ∃ (id : Uuid) (started ended : Timestamp) (steps : List SyncResult.Step),
      [id].Sublist (issuedIn t) ∧
      result.batch = (id, .etsy, .outbound) ∧
      result = (SyncResult.start id .etsy .outbound products.length started).afterAll
        (steps ++ [.finish ended]) := by
  obtain ⟨session, hexport⟩ := gives_withSession h
  obtain ⟨entry, id, start, during, final, ended, rfl, hloop, rfl⟩ :=
    Batch.gives_exportProducts _ _ hexport
  obtain ⟨steps, rfl⟩ := Batch.exists_afterAll hloop
  set running := SyncResult.start id .etsy .outbound products.length start.wall with hrunning
  have hresult : (running.afterAll steps).finish ended.wall =
      running.afterAll (steps ++ [.finish ended.wall]) :=
    (SyncResult.afterAll_concat running steps (.finish ended.wall)).symm
  refine ⟨id, start.wall, ended.wall, steps, ?_, ?_, hresult⟩
  · rw [issuedIn_moment, issuedIn_freshId]
    exact (List.nil_sublist _).cons_cons id
  · rw [hresult, SyncResult.batch_afterAll]
    rfl

namespace Service

open Operation

variable {service after : EtsyService} {t : List Answered}

theorem on_exportProducts {α : Type} [Marketplace α] (service : Service α MemoryStore)
    (id : MarketplaceId) (products : List Product) (signal : Signal) :
    (exportProducts id products signal).on service =
      match service.registry.findReady id with
      | .error e => pure (.error (.market e), service)
      | .ok adapter => (do
        let mappings := ((Marketplace.config? adapter).map Config.categoryMappings).getD [] ++
          service.store.mappingsOf (Marketplace.id adapter)
        match ← (Marketplace.exportProducts adapter (products.map (mapCategory mappings))
          signal).run with
        | .error e => pure (.error (.market e), service)
        | .ok result =>
          pure (.ok result, { service with store := service.store.saveResult result })) := by
  cases hready : service.registry.findReady id with
  | error e =>
    rw [exportProducts, on_bind, on_readyAdapter, hready]
    rfl
  | ok adapter =>
    refine (on_mapped hready _).trans ?_
    change on (ofAttempt _ >>= _) service = _
    rw [on_bind, on_ofAttempt, bind_assoc]
    refine bind_congr fun outcome => ?_
    rw [pure_bind]
    cases outcome <;> rfl

/-- An export either fails and leaves the service as it was, or comes to a report, which is kept. -/
theorem gives_exportProducts {id : MarketplaceId} {products : List Product} {signal : Signal}
    {outcome : Except SyncError SyncResult}
    (h : ((exportProducts id products signal).on service).Gives t (outcome, after)) :
    (∃ e, outcome = .error e ∧ after = service) ∨
      ∃ (adapter : Etsy.Adapter) (mapped : List Product) (result : SyncResult),
        service.registry.findReady id = .ok adapter ∧
        (adapter.exportProducts mapped signal).run.Gives t (.ok result) ∧
        outcome = .ok result ∧
        after = { service with store := service.store.saveResult result } := by
  rw [on_exportProducts] at h
  cases hready : service.registry.findReady id with
  | error e =>
    rw [hready] at h
    obtain ⟨-, heq⟩ := Dialogue.gives_pure_iff.1 h
    cases heq
    exact .inl ⟨_, rfl, rfl⟩
  | ok adapter =>
    rw [hready] at h
    obtain ⟨found, t₁, t₂, rfl, hexport, h⟩ := Dialogue.gives_bind_iff.1 h
    cases found with
    | error e =>
      obtain ⟨-, heq⟩ := Dialogue.gives_pure_iff.1 h
      cases heq
      exact .inl ⟨_, rfl, rfl⟩
    | ok result =>
      obtain ⟨rfl, heq⟩ := Dialogue.gives_pure_iff.1 h
      cases heq
      rw [List.append_nil]
      exact .inr ⟨adapter, _, result, rfl, hexport, rfl, rfl⟩

theorem adds_exportProducts {id : MarketplaceId} {products : List Product} {signal : Signal}
    {outcome : Except SyncError SyncResult}
    (h : ((exportProducts id products signal).on service).Gives t (outcome, after)) :
    Adds service t [] after := by
  rcases gives_exportProducts h with ⟨e, -, rfl⟩ | ⟨adapter, mapped, result, -, hexport, -, rfl⟩
  · exact .nothing rfl
  · obtain ⟨resultId, started, ended, steps, hid, hbatch, -⟩ :=
      Etsy.Adapter.gives_exportProducts hexport
    obtain ⟨hresultId, -, hdirection⟩ := SyncResult.batch_eq_iff.1 hbatch
    refine ⟨[result], rfl, ?_, ?_, fun _ _ hmem => by cases hmem⟩
    · rwa [List.map_singleton, hresultId]
    · simp [importedResults, hdirection]

theorem adds_importOrders {id : MarketplaceId} {since : Option Timestamp} {signal : Signal}
    {outcome : Except SyncError OrderImport}
    (h : ((importOrders id since signal).on service).Gives t (outcome, after)) :
    Adds service t [(id, outcome)] after := by
  rcases gives_importOrders h with ⟨e, rfl, rfl⟩ | ⟨adapter, start, before, during, orders,
    resultId, started, now, ended, rfl, -, -, -, rfl, rfl⟩
  · exact .failed id e rfl
  · refine ⟨[SyncResult.ofImport resultId id orders.length started.wall ended.wall
      (signal.interruption? now)], ?_, ?_, rfl, ?_⟩
    · rw [store_imported]
      rfl
    · simp [SyncResult.ofImport]
    · intro id' i hmem
      rw [List.mem_singleton] at hmem
      cases hmem
      exact ⟨rfl, rfl⟩

/-- What is done with every active marketplace is done with one after another, so what composes
holds of all together. -/
theorem forActive_induction {β : Type} {f : Etsy.Adapter → Operation Etsy.Adapter MemoryStore β}
    {R : EtsyService → List Answered → FanOut β → EtsyService → Prop}
    (hnil : ∀ service, R service [] [] service)
    (hcons : ∀ ⦃adapter service between after t t' outcome outcomes⦄,
      ((f adapter).on service).Gives t (outcome, between) → R between t' outcomes after →
      R service (t ++ t') ((Marketplace.id adapter, outcome) :: outcomes) after)
    {outcomes : FanOut β} (h : ((forActive f).run service).Gives t (outcomes, after)) :
    R service t outcomes after := by
  -- the adapters are those of the service at the beginning
  have hall (adapters : List Etsy.Adapter) : ∀ {service after : EtsyService} {t : List Answered}
      {outcomes : FanOut β},
      (((adapters.mapM fun adapter => do
        let outcome ← (f adapter).run
        pure (Marketplace.id adapter, outcome)) :
          ServiceM Etsy.Adapter MemoryStore (FanOut β)).run service).Gives t (outcomes, after) →
      R service t outcomes after := by
    induction adapters with
    | nil =>
      intro service after t outcomes h
      obtain ⟨rfl, heq⟩ := Dialogue.gives_pure_iff.1 h
      cases heq
      exact hnil service
    | cons adapter rest ih =>
      intro service after t outcomes h
      rw [List.mapM_cons, StateT.run_bind, StateT.run_bind, bind_assoc] at h
      obtain ⟨⟨outcome, between⟩, t₁, t₂, rfl, hfirst, h⟩ := Dialogue.gives_bind_iff.1 h
      rw [StateT.run_pure, pure_bind, StateT.run_bind] at h
      obtain ⟨⟨others, last⟩, t₃, t₄, rfl, hrest, h⟩ := Dialogue.gives_bind_iff.1 h
      obtain ⟨rfl, heq⟩ := Dialogue.gives_pure_iff.1 h
      cases heq
      rw [List.append_nil]
      exact hcons hfirst (ih hrest)
  exact hall service.registry.active h

theorem adds_forActive {β : Type} {f : Etsy.Adapter → Operation Etsy.Adapter MemoryStore β}
    (imports : MarketplaceId × Except SyncError β → FanOut OrderImport)
    (hstep : ∀ ⦃adapter service t outcome after⦄,
      ((f adapter).on service).Gives t (outcome, after) →
      Adds service t (imports (Marketplace.id adapter, outcome)) after)
    {outcomes : FanOut β} (h : ((forActive f).run service).Gives t (outcomes, after)) :
    Adds service t (outcomes.flatMap imports) after := by
  refine forActive_induction (R := fun service t outcomes after =>
    Adds service t (outcomes.flatMap imports) after) (fun _ => .nothing rfl) ?_ h
  intro adapter service between after t t' outcome outcomes hfirst hrest
  rw [List.flatMap_cons]
  exact (hstep hfirst).trans hrest

end Service

namespace ServiceCall

open Service

variable {service after : EtsyService} {t : List Answered} {imports : FanOut OrderImport}

theorem adds_noImport {β : Type} {operation : Operation Etsy.Adapter MemoryStore β}
    (hkeeps : ∀ results, operation.Keeps (HasResults results))
    (h : ((noImport operation).run service).Gives t (imports, after)) :
    Adds service t imports after := by
  unfold noImport at h
  rw [StateT.run_bind] at h
  obtain ⟨⟨outcome, between⟩, t₁, t₂, rfl, hfirst, h⟩ := Dialogue.gives_bind_iff.1 h
  obtain ⟨-, heq⟩ := Dialogue.gives_pure_iff.1 h
  cases heq
  exact .nothing (hkeeps service.store.results rfl hfirst)

theorem adds_noImports {β : Type} {f : Etsy.Adapter → Operation Etsy.Adapter MemoryStore β}
    (hstep : ∀ ⦃adapter service t outcome after⦄,
      ((f adapter).on service).Gives t (outcome, after) → Adds service t [] after)
    (h : ((noImports (forActive f)).run service).Gives t (imports, after)) :
    Adds service t imports after := by
  unfold noImports at h
  rw [StateT.run_bind] at h
  obtain ⟨⟨outcomes, between⟩, t₁, t₂, rfl, hall, h⟩ := Dialogue.gives_bind_iff.1 h
  obtain ⟨rfl, heq⟩ := Dialogue.gives_pure_iff.1 h
  cases heq
  have hadds := adds_forActive (fun _ => []) (fun _ _ _ _ _ h => hstep h) hall
  have hnone : outcomes.flatMap (fun _ => ([] : FanOut OrderImport)) = [] :=
    List.flatMap_eq_nil_iff.2 fun _ _ => rfl
  rw [hnone] at hadds
  rwa [List.append_nil]

theorem adds_carryOut (call : ServiceCall)
    (h : (call.carryOut.run service).Gives t (imports, after)) : Adds service t imports after := by
  -- an attempt for every active marketplace adds nothing
  have hattempts {β : Type} {attempt : Etsy.Adapter → Attempt β} ⦃adapter : Etsy.Adapter⦄
      ⦃service : EtsyService⦄ ⦃t : List Answered⦄ ⦃outcome : Except SyncError β⦄
      ⦃after : EtsyService⦄
      (h : ((Operation.ofAttempt (attempt adapter)).on service).Gives t (outcome, after)) :
      Adds service t [] after :=
    .nothing (@Operation.keeps_ofAttempt _ _ _ (HasResults service.store.results) _ _ rfl _ _ _ h)
  cases call with
  | configure config => exact adds_noImport (fun results => keeps_configure results config) h
  | exportProducts id products signal =>
    unfold carryOut noImport at h
    rw [StateT.run_bind] at h
    obtain ⟨⟨outcome, between⟩, t₁, t₂, rfl, hfirst, h⟩ := Dialogue.gives_bind_iff.1 h
    obtain ⟨rfl, heq⟩ := Dialogue.gives_pure_iff.1 h
    cases heq
    rw [List.append_nil]
    exact adds_exportProducts hfirst
  | exportAll products signal =>
    exact adds_noImports (fun _ _ _ _ _ h => adds_exportProducts h) h
  | importOrders id since signal =>
    unfold carryOut at h
    rw [StateT.run_bind] at h
    obtain ⟨⟨outcome, between⟩, t₁, t₂, rfl, hfirst, h⟩ := Dialogue.gives_bind_iff.1 h
    obtain ⟨rfl, heq⟩ := Dialogue.gives_pure_iff.1 h
    cases heq
    rw [List.append_nil]
    exact adds_importOrders hfirst
  | importAll signal =>
    have hadds := adds_forActive (fun outcome => [outcome])
      (fun _ _ _ _ _ h => adds_importOrders h) h
    simpa using hadds
  | updateProduct id product =>
    exact adds_noImport (fun _ => keeps_updateProduct _ id product) h
  | updateStock id sku quantity => exact adds_noImport (fun _ => keeps_ready_attempt _ id _) h
  | updateStockAll sku quantity => exact adds_noImports hattempts h
  | updatePrice id sku price => exact adds_noImport (fun _ => keeps_ready_attempt _ id _) h
  | updatePriceAll sku price => exact adds_noImports hattempts h
  | deleteProduct id sku => exact adds_noImport (fun _ => keeps_ready_attempt _ id _) h
  | updateOrderStatus id orderId text =>
    exact adds_noImport (fun results => keeps_updateOrderStatus results id orderId text) h
  | markAsShipped id orderId shipment =>
    exact adds_noImport (fun results => keeps_markAsShipped results id orderId shipment) h
  | categories id => exact adds_noImport (fun _ => keeps_categories _ id) h
  | saveMapping id mapping =>
    exact adds_noImport (fun results => keeps_saveMapping results id mapping) h
  | mappings id => exact adds_noImport (fun _ => keeps_mappings _ id) h
  | feed id products regenerate =>
    exact adds_noImport (fun results => keeps_feed results id products regenerate) h
  | invalidateFeed id =>
    obtain ⟨-, heq⟩ := Dialogue.gives_pure_iff.1 h
    cases heq
    exact .nothing rfl
  | status => exact adds_noImport (fun _ => keeps_status _) h
  | history id limit => exact adds_noImport (fun _ => keeps_history _ id limit) h
  | restore =>
    obtain ⟨-, heq⟩ := Dialogue.gives_pure_iff.1 h
    cases heq
    exact .nothing rfl

theorem adds_carryOutAll (calls : List ServiceCall)
    (h : ((carryOutAll calls).run service).Gives t (imports, after)) :
    Adds service t imports after := by
  induction calls generalizing service t imports with
  | nil =>
    obtain ⟨-, heq⟩ := Dialogue.gives_pure_iff.1 h
    cases heq
    exact .nothing rfl
  | cons call calls ih =>
    unfold carryOutAll at h
    rw [StateT.run_bind] at h
    obtain ⟨⟨first, between⟩, t₁, t₂, rfl, hfirst, h⟩ := Dialogue.gives_bind_iff.1 h
    rw [StateT.run_bind] at h
    obtain ⟨⟨others, last⟩, t₃, t₄, rfl, hrest, h⟩ := Dialogue.gives_bind_iff.1 h
    obtain ⟨rfl, heq⟩ := Dialogue.gives_pure_iff.1 h
    cases heq
    rw [List.append_nil]
    exact (adds_carryOut call hfirst).trans (ih hrest)

end ServiceCall

end ShopSync
