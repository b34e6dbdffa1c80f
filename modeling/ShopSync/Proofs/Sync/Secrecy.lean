import ShopSync.Proofs.Etsy.Secrecy
import ShopSync.Proofs.Sync.Call

/-!
Services with other secrets.

Two services are alike when their adapters differ in nothing but their secrets, and their stores and
feeds are the same.  Every operation on one does the same as on the other but for the secrets in its
requests, and leaves them alike.  So whatever is done with them, all answers, all errors and all
that is stored are the same (`performAll_alike`).
-/

namespace ShopSync

variable {τ α β γ γ' : Type}

/-- The services differ in nothing but the secrets of their adapters. -/
structure Service.Alike (service service' : Service Etsy.Adapter τ) : Prop where
  adapters : ∀ id, Option.Rel Etsy.Adapter.Alike (service.registry.adapter? id)
    (service'.registry.adapter? id)
  store : service'.store = service.store
  feeds : service'.feeds = service.feeds

/-! ### Steps -/

namespace ServiceM

variable {R : α → β → Prop} {S : γ → γ' → Prop}

/-- On services that are alike the steps ask the same but for secrets, come to related results, and
leave the services alike. -/
def Alike (R : α → β → Prop) (step : ServiceM Etsy.Adapter τ α)
    (step' : ServiceM Etsy.Adapter τ β) : Prop :=
  ∀ ⦃service service'⦄, service.Alike service' →
    Dialogue.Alike (fun (a, after) (b, after') => R a b ∧ after.Alike after')
      (step.run service) (step'.run service')

theorem alike_pure {a : α} {b : β} (h : R a b) :
    Alike R (pure a : ServiceM Etsy.Adapter τ α) (pure b) :=
  fun _ _ hservice => .done ⟨h, hservice⟩

theorem Alike.bind {step : ServiceM Etsy.Adapter τ α} {step' : ServiceM Etsy.Adapter τ β}
    {f : α → ServiceM Etsy.Adapter τ γ} {f' : β → ServiceM Etsy.Adapter τ γ'}
    (h : Alike R step step') (hf : ∀ a b, R a b → Alike S (f a) (f' b)) :
    Alike S (step >>= f) (step' >>= f') := by
  intro service service' hservice
  rw [StateT.run_bind, StateT.run_bind]
  refine (h hservice).bind ?_
  rintro ⟨a, between⟩ ⟨b, between'⟩ ⟨hab, hbetween⟩
  exact hf a b hab hbetween

theorem alike_liftM {d d' : Dialogue α} (h : Dialogue.Alike Eq d d') :
    Alike Eq (StateT.lift d : ServiceM Etsy.Adapter τ α) (StateT.lift d') := by
  intro service service' hservice
  refine h.bind ?_
  rintro a _ rfl
  exact .done ⟨rfl, hservice⟩

theorem alike_modify {change change' : Service Etsy.Adapter τ → Service Etsy.Adapter τ}
    (h : ∀ service service', service.Alike service' → (change service).Alike (change' service')) :
    Alike Eq (modify change : ServiceM Etsy.Adapter τ PUnit) (modify change') :=
  fun service service' hservice => .done ⟨rfl, h service service' hservice⟩

theorem alike_mapM {f : γ → ServiceM Etsy.Adapter τ α} {f' : γ' → ServiceM Etsy.Adapter τ α}
    (hf : ∀ c c', S c c' → Alike Eq (f c) (f' c')) {cs : List γ} {cs' : List γ'}
    (h : List.Forall₂ S cs cs') : Alike Eq (cs.mapM f) (cs'.mapM f') := by
  induction h with
  | nil => exact alike_pure rfl
  | cons hc _ ih =>
    rw [List.mapM_cons, List.mapM_cons]
    refine (hf _ _ hc).bind ?_
    rintro a _ rfl
    refine ih.bind ?_
    rintro as _ rfl
    exact alike_pure rfl

end ServiceM

/-! ### Operations -/

namespace Operation

variable {R : α → β → Prop} {S : γ → γ' → Prop}

/-- The same for operations: both fail with the same error, or their results are related. -/
def Alike (R : α → β → Prop) (operation : Operation Etsy.Adapter τ α)
    (operation' : Operation Etsy.Adapter τ β) : Prop :=
  ServiceM.Alike (BothGive R) operation.run operation'.run

/-- The operation shows no secrets but in its requests: on services that are alike it does alike. -/
abbrev Discreet (operation : Operation Etsy.Adapter τ α) : Prop := Alike Eq operation operation

theorem alike_mk_pure {outcome : Except SyncError α} {outcome' : Except SyncError β}
    (h : BothGive R outcome outcome') :
    Alike R (ExceptT.mk (pure outcome) : Operation Etsy.Adapter τ α) (ExceptT.mk (pure outcome')) :=
  ServiceM.alike_pure h

theorem alike_pure {a : α} {b : β} (h : R a b) :
    Alike R (pure a : Operation Etsy.Adapter τ α) (pure b) := alike_mk_pure (.ok h)

theorem discreet_pure (a : α) : (pure a : Operation Etsy.Adapter τ α).Discreet := alike_pure rfl

theorem discreet_answer (outcome : Except SyncError α) :
    Discreet (ExceptT.mk (pure outcome) : Operation Etsy.Adapter τ α) :=
  alike_mk_pure (.refl outcome)

theorem Alike.bind {operation : Operation Etsy.Adapter τ α}
    {operation' : Operation Etsy.Adapter τ β} {f : α → Operation Etsy.Adapter τ γ}
    {f' : β → Operation Etsy.Adapter τ γ'}
    (h : Alike R operation operation') (hf : ∀ a b, R a b → Alike S (f a) (f' b)) :
    Alike S (operation >>= f) (operation' >>= f') := by
  unfold Alike
  rw [ExceptT.run_bind, ExceptT.run_bind]
  refine ServiceM.Alike.bind h ?_
  intro outcome outcome' houtcome
  cases houtcome with
  | ok hab => exact hf _ _ hab
  | error e => exact ServiceM.alike_pure (.error e)

/-- What both come to in the same way is followed by what is alike. -/
theorem Alike.bind_eq {operation operation' : Operation Etsy.Adapter τ α}
    {f : α → Operation Etsy.Adapter τ γ} {f' : α → Operation Etsy.Adapter τ γ'}
    (h : Alike Eq operation operation') (hf : ∀ a, Alike S (f a) (f' a)) :
    Alike S (operation >>= f) (operation' >>= f') := by
  refine h.bind ?_
  rintro a _ rfl
  exact hf a

theorem alike_get_bind {f : Service Etsy.Adapter τ → Operation Etsy.Adapter τ γ}
    {f' : Service Etsy.Adapter τ → Operation Etsy.Adapter τ γ'}
    (h : ∀ service service', service.Alike service' → Alike S (f service) (f' service')) :
    Alike S (get >>= f) (get >>= f') :=
  fun service service' hservice => h service service' hservice hservice

theorem alike_set {service service' : Service Etsy.Adapter τ} (h : service.Alike service') :
    Alike Eq (set service : Operation Etsy.Adapter τ PUnit) (set service') :=
  fun _ _ _ => .done ⟨.ok rfl, h⟩

theorem alike_lift {step : ServiceM Etsy.Adapter τ α} {step' : ServiceM Etsy.Adapter τ α}
    (h : ServiceM.Alike Eq step step') :
    Alike Eq (ExceptT.lift step : Operation Etsy.Adapter τ α) (ExceptT.lift step') := by
  intro service service' hservice
  refine (h hservice).bind ?_
  rintro ⟨a, after⟩ ⟨_, after'⟩ ⟨rfl, hafter⟩
  exact .done ⟨.ok rfl, hafter⟩

theorem discreet_ask (d : Dialogue α) : (liftM d : Operation Etsy.Adapter τ α).Discreet :=
  alike_lift (ServiceM.alike_liftM (Dialogue.alike_refl d))

theorem alike_modify {change change' : Service Etsy.Adapter τ → Service Etsy.Adapter τ}
    (h : ∀ service service', service.Alike service' → (change service).Alike (change' service')) :
    Alike Eq (modify change : Operation Etsy.Adapter τ PUnit) (modify change') :=
  alike_lift (ServiceM.alike_modify h)

theorem alike_ofAttempt {attempt attempt' : Attempt α} (h : attempt.Alike attempt') :
    Alike Eq (ofAttempt attempt : Operation Etsy.Adapter τ α) (ofAttempt attempt') := by
  refine (ServiceM.alike_liftM h).bind ?_
  rintro outcome _ rfl
  exact ServiceM.alike_pure (.refl _)

theorem alike_mapM {f : γ → Operation Etsy.Adapter τ α} {f' : γ' → Operation Etsy.Adapter τ α}
    (hf : ∀ c c', S c c' → Alike Eq (f c) (f' c')) {cs : List γ} {cs' : List γ'}
    (h : List.Forall₂ S cs cs') : Alike Eq (cs.mapM f) (cs'.mapM f') := by
  induction h with
  | nil => exact alike_pure rfl
  | cons hc _ ih =>
    rw [List.mapM_cons, List.mapM_cons]
    exact (hf _ _ hc).bind_eq fun a => ih.bind_eq fun as => alike_pure rfl

end Operation

/-! ### Adapters -/

namespace Etsy.Adapter.Alike

variable {adapter adapter' : Adapter}

theorem isConfigured (h : adapter.Alike adapter') :
    Marketplace.isConfigured adapter' = Marketplace.isConfigured adapter := by
  obtain ⟨config⟩ := adapter
  obtain ⟨config'⟩ := adapter'
  cases h with
  | none => rfl
  | some h => exact h.hasCredentials

/-- What a configuration says besides its secrets is the same. -/
theorem map_config {view : Config → α} (h : adapter.Alike adapter')
    (hview : ∀ config token key, view (Config.withSecrets config token key) = view config) :
    adapter'.config.map view = adapter.config.map view := by
  obtain ⟨config⟩ := adapter
  obtain ⟨config'⟩ := adapter'
  cases h with
  | none => rfl
  | some h =>
    obtain ⟨token, key, -, -⟩ := h
    exact congrArg some (hview _ token key)

theorem isEnabled (h : adapter.Alike adapter') :
    Marketplace.isEnabled adapter' = Marketplace.isEnabled adapter := by
  obtain ⟨config⟩ := adapter
  obtain ⟨config'⟩ := adapter'
  cases h with
  | none => rfl
  | some h =>
    obtain ⟨token, key, -, -⟩ := h
    rfl

theorem markedUp (h : adapter.Alike adapter') (price : Number.Binary64) :
    Service.markedUp adapter' price = Service.markedUp adapter price := by
  obtain ⟨config⟩ := adapter
  obtain ⟨config'⟩ := adapter'
  cases h with
  | none => rfl
  | some h =>
    obtain ⟨token, key, -, -⟩ := h
    rfl

end Etsy.Adapter.Alike

namespace Service.Alike

variable {service service' : Service Etsy.Adapter τ}

theorem forall₂_adapters (h : service.Alike service') :
    List.Forall₂ Etsy.Adapter.Alike service.registry.adapters service'.registry.adapters := by
  refine List.rel_filterMap (R := Eq) ?_ (List.forall₂_refl _)
  rintro id _ rfl
  exact h.adapters id

theorem forall₂_active (h : service.Alike service') :
    List.Forall₂ Etsy.Adapter.Alike service.registry.active service'.registry.active := by
  refine List.rel_filter ?_ h.forall₂_adapters
  intro adapter adapter' hadapter
  simp only [Marketplace.isActive, hadapter.isConfigured, hadapter.isEnabled]

theorem find (h : service.Alike service') (id : MarketplaceId) :
    BothGive Etsy.Adapter.Alike (service.registry.find id) (service'.registry.find id) := by
  have hadapter := h.adapters id
  unfold Registry.find
  generalize service.registry.adapter? id = old at hadapter ⊢
  generalize service'.registry.adapter? id = new at hadapter ⊢
  cases hadapter with
  | none => exact .error _
  | some halike => exact .ok halike

theorem findReady (h : service.Alike service') (id : MarketplaceId) :
    BothGive Etsy.Adapter.Alike (service.registry.findReady id)
      (service'.registry.findReady id) := by
  have hfind := h.find id
  unfold Registry.findReady
  generalize service.registry.find id = old at hfind ⊢
  generalize service'.registry.find id = new at hfind ⊢
  cases hfind with
  | error e => exact .error e
  | @ok adapter adapter' halike =>
    change BothGive _ (ite _ _ _) (ite _ _ _)
    rw [halike.isConfigured]
    split
    · exact .ok halike
    · exact .error _

end Service.Alike

/-! ### Operations of the service -/

namespace Service

open Operation

variable {a a' : Etsy.Adapter}

theorem alike_adapter (id : MarketplaceId) :
    Operation.Alike Etsy.Adapter.Alike (adapter id : Operation Etsy.Adapter τ _) (adapter id) := by
  refine alike_get_bind fun service service' hservice => alike_mk_pure ?_
  exact (hservice.find id).mapError _

theorem alike_readyAdapter (id : MarketplaceId) :
    Operation.Alike Etsy.Adapter.Alike (readyAdapter id : Operation Etsy.Adapter τ _)
      (readyAdapter id) := by
  refine alike_get_bind fun service service' hservice => alike_mk_pure ?_
  exact (hservice.findReady id).mapError _

theorem alike_forActive {f f' : Etsy.Adapter → Operation Etsy.Adapter τ β}
    (hf : ∀ a a', a.Alike a' → Operation.Alike Eq (f a) (f' a')) :
    ServiceM.Alike Eq (forActive f) (forActive f') := by
  intro service service' hservice
  refine ServiceM.alike_mapM (fun a a' h => ?_) hservice.forall₂_active hservice
  refine ServiceM.Alike.bind (hf a a' h) ?_
  intro outcome outcome' houtcome
  refine ServiceM.alike_pure ?_
  cases houtcome with
  | error e => rfl
  | ok h => exact congrArg (fun b => (MarketplaceId.etsy, Except.ok b)) h

theorem alike_invalidateFeed (id : MarketplaceId) :
    ServiceM.Alike Eq (invalidateFeed id : ServiceM Etsy.Adapter τ _) (invalidateFeed id) :=
  ServiceM.alike_modify fun _ _ h => ⟨h.adapters, h.store, congrArg (Keyed.erase id) h.feeds⟩

/-- Also the configurations may differ in their secrets. -/
theorem alike_configure {config config' : Config} (h : config.Alike config') :
    Operation.Alike Eq (configure config : Operation Etsy.Adapter τ _) (configure config') := by
  have hmarketplace : config'.marketplace = config.marketplace := by cases h; rfl
  unfold configure
  rw [hmarketplace]
  refine (alike_adapter _).bind fun old old' _ => ?_
  refine (alike_mk_pure ((Etsy.Adapter.Alike.configure h).mapError _)).bind fun new new' hnew => ?_
  refine (Operation.alike_modify fun service service' hservice => ?_).bind_eq fun _ =>
    alike_lift (alike_invalidateFeed _)
  refine ⟨fun id => ?_, hservice.store, hservice.feeds⟩
  change Option.Rel _ (if id = .etsy then some new else service.registry.adapter? id)
    (if id = .etsy then some new' else service'.registry.adapter? id)
  by_cases hid : id = .etsy
  · rw [if_pos hid, if_pos hid]
    exact .some hnew
  · rw [if_neg hid, if_neg hid]
    exact hservice.adapters id

theorem discreet_ready_attempt (id : MarketplaceId) {attempt : Etsy.Adapter → Attempt β}
    (h : ∀ a a', a.Alike a' → (attempt a).Alike (attempt a')) :
    (readyAdapter id >>= fun a => ofAttempt (attempt a) :
      Operation Etsy.Adapter τ β).Discreet :=
  (alike_readyAdapter id).bind fun a a' ha => alike_ofAttempt (h a a' ha)

theorem discreet_categories (id : MarketplaceId) :
    (categories id : Operation Etsy.Adapter τ _).Discreet :=
  (alike_adapter id).bind fun _ _ ha => alike_ofAttempt (ha.attempt .categories)

variable [SyncStore τ]

theorem alike_mappingsFor (h : a.Alike a') :
    Operation.Alike Eq (mappingsFor a : Operation Etsy.Adapter τ _) (mappingsFor a') := by
  refine alike_get_bind fun service service' hservice => ?_
  rw [hservice.store]
  refine (discreet_answer _).bind_eq fun stored => alike_pure ?_
  change (a.config.map Config.categoryMappings).getD [] ++ stored =
    (a'.config.map Config.categoryMappings).getD [] ++ stored
  rw [h.map_config fun _ _ _ => rfl]

/-! #### Categories and feeds -/

theorem discreet_saveMapping (id : MarketplaceId) (mapping : CategoryMapping) :
    (saveMapping id mapping : Operation Etsy.Adapter τ _).Discreet := by
  refine alike_get_bind fun service service' hservice => ?_
  rw [hservice.store]
  refine (discreet_answer _).bind_eq fun store => ?_
  exact alike_set ⟨hservice.adapters, rfl, hservice.feeds⟩

theorem discreet_mappings (id : MarketplaceId) :
    (mappings id : Operation Etsy.Adapter τ _).Discreet := by
  refine alike_get_bind fun service service' hservice => ?_
  rw [hservice.store]
  exact discreet_answer _

theorem discreet_generateFeed (id : MarketplaceId) (products : List Product) :
    (generateFeed id products : Operation Etsy.Adapter τ _).Discreet := by
  refine (alike_adapter id).bind fun a a' ha => ?_
  refine (alike_mappingsFor ha).bind_eq fun mappings => ?_
  refine (alike_ofAttempt (ha.attempt (.generateFeed _))).bind_eq fun feed => ?_
  refine (Operation.alike_modify fun service service' hservice => ?_).bind_eq fun _ =>
    discreet_pure _
  exact ⟨hservice.adapters, hservice.store, congrArg (Keyed.put id feed) hservice.feeds⟩

theorem discreet_feed (id : MarketplaceId) (products : List Product) (regenerate : Bool) :
    (feed id products regenerate : Operation Etsy.Adapter τ _).Discreet := by
  refine alike_get_bind fun service service' hservice => ?_
  rw [hservice.feeds]
  split
  · exact discreet_pure _
  · exact discreet_generateFeed id products

/-! #### Batches -/

theorem alike_record (result : SyncResult) :
    ServiceM.Alike Eq (record result : ServiceM Etsy.Adapter τ _) (record result) := by
  refine ServiceM.alike_modify fun service service' h => ?_
  rw [h.store]
  split
  · exact ⟨h.adapters, rfl, h.feeds⟩
  · exact h

theorem discreet_exportProducts (id : MarketplaceId) (products : List Product) (signal : Signal) :
    (exportProducts id products signal : Operation Etsy.Adapter τ _).Discreet := by
  refine (alike_readyAdapter id).bind fun a a' ha => ?_
  refine (alike_mappingsFor ha).bind_eq fun mappings => ?_
  refine (alike_ofAttempt (ha.attempt (.exportProducts _ signal))).bind_eq fun result => ?_
  exact (alike_lift (alike_record result)).bind_eq fun _ => discreet_pure _

theorem discreet_defaultSince (id : MarketplaceId) :
    (defaultSince id : Operation Etsy.Adapter τ _).Discreet := by
  refine alike_get_bind fun service service' hservice => ?_
  rw [hservice.store]
  refine (discreet_answer _).bind_eq fun last => ?_
  cases last with
  | some result => exact discreet_pure _
  | none => exact (discreet_ask _).bind_eq fun now => discreet_pure _

theorem discreet_saveOrder (order : Order) :
    (saveOrder order : Operation Etsy.Adapter τ _).Discreet := by
  refine alike_get_bind fun service service' hservice => ?_
  rw [hservice.store]
  refine (discreet_answer _).bind_eq fun found => ?_
  obtain ⟨isNew, store⟩ := found
  have hafter : ({ service with store } : Service Etsy.Adapter τ).Alike { service' with store } :=
    ⟨hservice.adapters, rfl, hservice.feeds⟩
  exact (alike_set hafter).bind_eq fun _ => discreet_pure _

theorem discreet_saveOrders (orders : List Order) :
    (saveOrders orders : Operation Etsy.Adapter τ _).Discreet := by
  induction orders with
  | nil => exact discreet_pure _
  | cons order rest ih =>
    exact (discreet_saveOrder order).bind_eq fun isNew => ih.bind_eq fun newOrders =>
      discreet_pure _

theorem discreet_importOrders (id : MarketplaceId) (since : Option Timestamp) (signal : Signal) :
    (importOrders id since signal : Operation Etsy.Adapter τ _).Discreet := by
  refine (alike_readyAdapter id).bind fun a a' ha => ?_
  dsimp only
  cases since
  -- what follows is the same wherever the import starts
  case' some since => refine (discreet_pure since).bind_eq fun start => ?_
  case' none => refine (discreet_defaultSince id).bind_eq fun start => ?_
  all_goals
    refine (discreet_ask _).bind_eq fun started => ?_
    refine (alike_ofAttempt (ha.attempt (.importOrders start signal))).bind_eq fun orders => ?_
    refine (discreet_ask _).bind_eq fun resultId => ?_
    refine (discreet_saveOrders orders).bind_eq fun newOrders => ?_
    refine (discreet_ask _).bind_eq fun now => (discreet_ask _).bind_eq fun ended => ?_
    exact (alike_lift (alike_record _)).bind_eq fun _ => discreet_pure _

/-! #### Single items and orders -/

theorem discreet_updateProduct (id : MarketplaceId) (product : Product) :
    (updateProduct id product : Operation Etsy.Adapter τ _).Discreet := by
  refine (alike_readyAdapter id).bind fun a a' ha => ?_
  refine (alike_mappingsFor ha).bind_eq fun mappings => ?_
  exact alike_ofAttempt (ha.attempt (.updateProduct _))

theorem discreet_setStoredStatus (id : MarketplaceId) (orderId text : String) :
    (setStoredStatus id orderId text : Operation Etsy.Adapter τ _).Discreet := by
  refine alike_get_bind fun service service' hservice => ?_
  rw [hservice.store]
  refine (discreet_answer _).bind_eq fun found => ?_
  exact alike_set ⟨hservice.adapters, rfl, hservice.feeds⟩

theorem discreet_updateOrderStatus (id : MarketplaceId) (orderId text : String) :
    (updateOrderStatus id orderId text : Operation Etsy.Adapter τ _).Discreet := by
  refine (alike_readyAdapter id).bind fun a a' ha => ?_
  refine (alike_ofAttempt (ha.attempt (.updateOrderStatus orderId text))).bind_eq fun _ => ?_
  exact discreet_setStoredStatus id orderId text

theorem discreet_markAsShipped (id : MarketplaceId) (orderId : String) (shipment : Shipment) :
    (markAsShipped id orderId shipment : Operation Etsy.Adapter τ _).Discreet := by
  refine (alike_readyAdapter id).bind fun a a' ha => ?_
  refine (alike_ofAttempt (ha.attempt (.markAsShipped orderId shipment))).bind_eq fun _ => ?_
  exact discreet_setStoredStatus id orderId shippedStatus

/-! #### Reports -/

theorem alike_statusOf (h : a.Alike a') :
    Operation.Alike Eq (statusOf a : Operation Etsy.Adapter τ _) (statusOf a') := by
  refine alike_get_bind fun service service' hservice => ?_
  rw [hservice.store, h.isConfigured, h.isEnabled]
  dsimp only
  split
  · exact (discreet_answer _).bind_eq fun _ => discreet_pure _
  · exact discreet_pure _

theorem discreet_status : (status : Operation Etsy.Adapter τ _).Discreet :=
  alike_get_bind fun _ _ hservice =>
    alike_mapM (fun _ _ ha => alike_statusOf ha) hservice.forall₂_adapters

theorem discreet_history (id : MarketplaceId) (limit : Nat) :
    (history id limit : Operation Etsy.Adapter τ _).Discreet := by
  refine (alike_adapter id).bind fun _ _ _ => ?_
  refine alike_get_bind fun service service' hservice => ?_
  rw [hservice.store]
  exact discreet_answer _

end Service

/-! ### Calls -/

/-- What a call comes to. -/
inductive ServiceAnswer where
  | done (outcome : Except SyncError Unit)
  | doneAll (outcomes : FanOut Unit)
  | exported (outcome : Except SyncError SyncResult)
  | exportedAll (outcomes : FanOut SyncResult)
  | imported (outcome : Except SyncError OrderImport)
  | importedAll (outcomes : FanOut OrderImport)
  | categories (outcome : Except SyncError (List Category))
  | mappings (outcome : Except SyncError (List CategoryMapping))
  | feed (outcome : Except SyncError (Option String))
  | status (outcome : Except SyncError (List MarketplaceStatus))
  | history (outcome : Except SyncError (List SyncResult))
  | nothing

namespace ServiceCall

/-- Calls are alike when they are the same, or configure the same but for secrets. -/
inductive Alike : ServiceCall → ServiceCall → Prop
  | configure {config config' : Config} (h : config.Alike config') :
      Alike (.configure config) (.configure config')
  | same (call : ServiceCall) : Alike call call

variable [SyncStore τ] (reopen : τ → τ)

/-- Carries out a call and gives what comes of it; `reopen` is what becomes of the store when it is
written and read again. -/
def perform : ServiceCall → ServiceM Etsy.Adapter τ ServiceAnswer
  | .configure config => .done <$> (Service.configure config).run
  | .exportProducts id products signal =>
    .exported <$> (Service.exportProducts id products signal).run
  | .exportAll products signal => .exportedAll <$> Service.exportAll products signal
  | .importOrders id since signal => .imported <$> (Service.importOrders id since signal).run
  | .importAll signal => .importedAll <$> Service.importAll signal
  | .updateProduct id product => .done <$> (Service.updateProduct id product).run
  | .updateStock id sku quantity => .done <$> (Service.updateStock id sku quantity).run
  | .updateStockAll sku quantity => .doneAll <$> Service.updateStockAll sku quantity
  | .updatePrice id sku price => .done <$> (Service.updatePrice id sku price).run
  | .updatePriceAll sku price => .doneAll <$> Service.updatePriceAll sku price
  | .deleteProduct id sku => .done <$> (Service.deleteProduct id sku).run
  | .updateOrderStatus id orderId text =>
    .done <$> (Service.updateOrderStatus id orderId text).run
  | .markAsShipped id orderId shipment =>
    .done <$> (Service.markAsShipped id orderId shipment).run
  | .categories id => .categories <$> (Service.categories id).run
  | .saveMapping id mapping => .done <$> (Service.saveMapping id mapping).run
  | .mappings id => .mappings <$> (Service.mappings id).run
  | .feed id products regenerate => .feed <$> (Service.feed id products regenerate).run
  | .invalidateFeed id => (fun _ => .nothing) <$> Service.invalidateFeed id
  | .status => .status <$> Service.status.run
  | .history id limit => .history <$> (Service.history id limit).run
  | .restore => do
    modify fun service => { service with store := reopen service.store }
    pure .nothing

/-- Carries out calls one after another. -/
def performAll (calls : List ServiceCall) : ServiceM Etsy.Adapter τ (List ServiceAnswer) :=
  calls.mapM (perform reopen)

section Views

variable {step step' : ServiceM Etsy.Adapter τ α} (view : α → ServiceAnswer)

omit [SyncStore τ] in
theorem alike_map (h : ServiceM.Alike Eq step step') :
    ServiceM.Alike Eq (view <$> step) (view <$> step') := by
  rw [map_eq_pure_bind, map_eq_pure_bind]
  refine h.bind ?_
  rintro a _ rfl
  exact ServiceM.alike_pure rfl

omit [SyncStore τ] in
theorem alike_map_run {operation operation' : Operation Etsy.Adapter τ α}
    (view : Except SyncError α → ServiceAnswer) (h : Operation.Alike Eq operation operation') :
    ServiceM.Alike Eq (view <$> operation.run) (view <$> operation'.run) := by
  rw [map_eq_pure_bind, map_eq_pure_bind]
  refine ServiceM.Alike.bind h ?_
  intro outcome outcome' houtcome
  exact ServiceM.alike_pure (congrArg view houtcome.eq.symm)

end Views

open Service

theorem alike_perform {call call' : ServiceCall} (h : call.Alike call') :
    ServiceM.Alike Eq (call.perform reopen) (call'.perform reopen) := by
  cases h with
  | configure h => exact alike_map_run _ (alike_configure h)
  | same =>
    cases call with
    | configure config => exact alike_map_run _ (alike_configure (.refl config))
    | exportProducts id products signal =>
      exact alike_map_run _ (discreet_exportProducts id products signal)
    | exportAll products signal =>
      exact alike_map _ (alike_forActive fun _ _ _ => discreet_exportProducts .etsy products signal)
    | importOrders id since signal =>
      exact alike_map_run _ (discreet_importOrders id since signal)
    | importAll signal =>
      exact alike_map _ (alike_forActive fun _ _ _ => discreet_importOrders .etsy none signal)
    | updateProduct id product => exact alike_map_run _ (discreet_updateProduct id product)
    | updateStock id sku quantity =>
      exact alike_map_run _
        (discreet_ready_attempt id fun _ _ ha => ha.attempt (.updateStock sku quantity))
    | updateStockAll sku quantity =>
      exact alike_map _ (alike_forActive fun _ _ ha =>
        Operation.alike_ofAttempt (ha.attempt (.updateStock sku quantity)))
    | updatePrice id sku price =>
      exact alike_map_run _
        (discreet_ready_attempt id fun _ _ ha => ha.attempt (.updatePrice sku price))
    | updatePriceAll sku price =>
      refine alike_map _ (alike_forActive fun a a' ha => ?_)
      rw [ha.markedUp price]
      exact Operation.alike_ofAttempt (ha.attempt (.updatePrice sku _))
    | deleteProduct id sku =>
      exact alike_map_run _
        (discreet_ready_attempt id fun _ _ ha => ha.attempt (.deleteProduct sku))
    | updateOrderStatus id orderId text =>
      exact alike_map_run _ (discreet_updateOrderStatus id orderId text)
    | markAsShipped id orderId shipment =>
      exact alike_map_run _ (discreet_markAsShipped id orderId shipment)
    | categories id => exact alike_map_run _ (discreet_categories id)
    | saveMapping id mapping => exact alike_map_run _ (discreet_saveMapping id mapping)
    | mappings id => exact alike_map_run _ (discreet_mappings id)
    | feed id products regenerate =>
      exact alike_map_run _ (discreet_feed id products regenerate)
    | invalidateFeed id => exact alike_map _ (alike_invalidateFeed id)
    | status => exact alike_map_run _ discreet_status
    | history id limit => exact alike_map_run _ (discreet_history id limit)
    | restore =>
      refine (ServiceM.alike_modify fun service service' h => ?_).bind fun _ _ _ =>
        ServiceM.alike_pure rfl
      exact ⟨h.adapters, congrArg reopen h.store, h.feeds⟩

/-- **Secrets stay in their fields.**  Of two services that differ in nothing but the secrets of
their adapters, and calls that configure nothing else, an outside that does not look at the fields
with the secrets sees the same requests but for these fields, and is left in the same state; all
answers are the same, with their errors, and the services are left with the same stores and
feeds. -/
theorem performAll_alike {σ : Type} {world : World σ} (hblind : world.IsBlind)
    {calls calls' : List ServiceCall} (hcalls : List.Forall₂ Alike calls calls')
    {service service' : Service Etsy.Adapter τ} (hservice : service.Alike service') (s : σ) :
    let course := (performAll reopen calls).run service
    let course' := (performAll reopen calls').run service'
    ∃ answers after after' t,
      course.run world s = ((answers, after), t) ∧
      course'.run world s = ((answers, after'), t) ∧
      after.Alike after' ∧
      (course.queries world s).map Query.concealed =
        (course'.queries world s).map Query.concealed := by
  intro course course'
  have halike : ServiceM.Alike Eq (performAll reopen calls) (performAll reopen calls') :=
    ServiceM.alike_mapM (fun _ _ h => alike_perform reopen h) hcalls
  obtain ⟨⟨hanswers, hafter⟩, hstate, hqueries⟩ := (halike hservice).run hblind s
  refine ⟨(course.run world s).1.1, (course.run world s).1.2, (course'.run world s).1.2,
    (course.run world s).2, rfl, ?_, hafter, hqueries⟩
  rw [hanswers, hstate]

/-- An outside that answers every request with one listing, and counts what it is asked. -/
def countingWorld : World Nat where
  answer
    | .exchange _, n => (.ok (.ok "\x7b\"results\":[\x7b\"listing_id\":7\x7d]\x7d"), n + 1)
    | .moment, n => ({ wall := .epoch, uptime := n, cancelled := [] }, n + 1)
    | .freshId, n => (⟨BitVec.ofNat 128 n⟩, n + 1)
    | .pace _, n => ((), n + 1)
    | .fileExists _, n => (false, n + 1)
    | .readFile _, n => (.error .missing, n + 1)
    | .writeFile _ _, n => (.error .denied, n + 1)

/-- A service that kept nothing so far, with these secrets. -/
def serviceWithSecrets (accessToken apiKey : String) : EtsyService where
  registry :=
    Registry.empty.register { config := some (Etsy.sampleConfig.withSecrets accessToken apiKey) }
  store := {}

theorem isNormal_abc : Sku.IsNormal "ABC".toList := by decide

/-- A stock that is written, an import and a look at how things stand. -/
def callsWithRequests : List ServiceCall :=
  [.updateStock .etsy { text := "ABC", normal := isNormal_abc } 1,
    .importOrders .etsy none { token := 0 }, .restore, .status]

/-- Three requests with other secrets, and nothing else is different. -/
theorem performAll_alike_countingWorld :
    let reopen := fun store : MemoryStore => MemoryStore.ofSnapshot store.snapshot
    let course := (performAll reopen callsWithRequests).run (serviceWithSecrets "token" "key")
    let course' := (performAll reopen callsWithRequests).run (serviceWithSecrets "other" "one")
    countingWorld.IsBlind ∧
      (serviceWithSecrets "token" "key").Alike (serviceWithSecrets "other" "one") ∧
      (requestsOf (course.queries countingWorld 0)).length = 3 ∧
      course.queries countingWorld 0 ≠ course'.queries countingWorld 0 ∧
      (course.queries countingWorld 0).map Query.concealed =
        (course'.queries countingWorld 0).map Query.concealed ∧
      (course.run countingWorld 0).1.1 = (course'.run countingWorld 0).1.1 := by
  intro reopen course course'
  have hblind : countingWorld.IsBlind := fun _ _ _ _ => rfl
  have hconfig : (Etsy.sampleConfig.withSecrets "token" "key").Alike
      (Etsy.sampleConfig.withSecrets "other" "one") :=
    .of_ne (by decide +kernel) (by decide +kernel) (by decide +kernel) (by decide +kernel)
  have hservice : (serviceWithSecrets "token" "key").Alike (serviceWithSecrets "other" "one") := by
    refine ⟨fun id => ?_, rfl, rfl⟩
    cases id
    exact .some (.some hconfig)
  have hfacts : (requestsOf (course.queries countingWorld 0)).length = 3 ∧
      course.queries countingWorld 0 ≠ course'.queries countingWorld 0 := by
    decide +kernel
  obtain ⟨answers, after, after', t, hrun, hrun', -, hqueries⟩ :=
    performAll_alike reopen hblind (List.forall₂_same.2 fun call _ => .same call) hservice 0
  refine ⟨hblind, hservice, hfacts.1, hfacts.2, hqueries, ?_⟩
  exact (congrArg (fun p => p.1.1) hrun).trans (congrArg (fun p => p.1.1) hrun').symm

end ServiceCall

end ShopSync
