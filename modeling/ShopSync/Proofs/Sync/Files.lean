import ShopSync.Proofs.Etsy.Requests
import ShopSync.Proofs.Sync.Operation

/-!
The service and files.

What an adapter does for the shop is done by requests, with a pause before each where there is a
budget, and by looks at the clocks; it asks for no file.  Nor does the service, which is a store in
memory and such adapters, so no operation asks for one, whatever the answers are.  Reports of what
is in the store ask for nothing at all, and with a store in memory they do not fail.
-/

namespace ShopSync

/-! ### Adapters -/

/-- Whether the query is about a file. -/
def Query.concernsFile : Query → Bool
  | .fileExists _ => true
  | .readFile _ => true
  | .writeFile _ _ => true
  | _ => false

/-- No file is ever asked for, whatever the answers are. -/
def Dialogue.LeavesFiles (d : Dialogue α) : Prop := d.Always fun q => q.concernsFile = false

/-- No file is ever asked for. -/
def Attempt.LeavesFiles (attempt : Attempt α) : Prop := attempt.run.LeavesFiles

namespace Etsy

/-- Nothing that a session may ask is about a file. -/
theorem Session.May.concernsFile {session : Session} {q : Query} (h : session.May q) :
    q.concernsFile = false := by
  cases h <;> rfl

theorem Adapter.leavesFiles_attempt (adapter : Adapter) (call : MarketCall) :
    (call.attempt adapter).LeavesFiles :=
  asks_attempt (fun _ _ _ hmay => hmay.concernsFile) call

end Etsy

/-! ### Steps -/

variable {α τ β γ : Type}

/-- The step asks for no file. -/
def ServiceM.LeavesFiles (step : ServiceM α τ β) : Prop :=
  ∀ service, (step.run service).LeavesFiles

/-- The operation asks for no file. -/
def Operation.LeavesFiles (operation : Operation α τ β) : Prop :=
  ∀ service, (operation.on service).LeavesFiles

namespace ServiceM

variable {step : ServiceM α τ γ} {f : γ → ServiceM α τ β}

theorem leavesFiles_pure (b : β) : LeavesFiles (pure b : ServiceM α τ β) := fun _ => trivial

theorem leavesFiles_bind (hstep : LeavesFiles step) (hf : ∀ c, LeavesFiles (f c)) :
    LeavesFiles (step >>= f) := by
  intro service
  rw [StateT.run_bind]
  exact Dialogue.Always.bind (hstep service) fun (c, after) => hf c after

theorem leavesFiles_mapM {f : γ → ServiceM α τ β} (hf : ∀ c, LeavesFiles (f c)) (cs : List γ) :
    LeavesFiles (cs.mapM f) := by
  induction cs with
  | nil => exact leavesFiles_pure []
  | cons c cs ih =>
    rw [List.mapM_cons]
    exact leavesFiles_bind (hf c) fun b => leavesFiles_bind ih fun bs => leavesFiles_pure (b :: bs)

theorem leavesFiles_forActive [Marketplace α] {f : α → Operation α τ β}
    (hf : ∀ adapter, (f adapter).LeavesFiles) : LeavesFiles (Service.forActive f) := by
  intro service
  refine leavesFiles_mapM (fun adapter => ?_) service.registry.active service
  exact leavesFiles_bind (hf adapter) fun outcome =>
    leavesFiles_pure (Marketplace.id adapter, outcome)

end ServiceM

namespace Operation

variable {operation : Operation α τ γ} {f : γ → Operation α τ β}

theorem leavesFiles_answer (answer : Except SyncError β) :
    LeavesFiles (ExceptT.mk (pure answer) : Operation α τ β) := fun _ => trivial

theorem leavesFiles_pure (b : β) : LeavesFiles (pure b : Operation α τ β) := fun _ => trivial

theorem leavesFiles_set (service : Service α τ) :
    LeavesFiles (set service : Operation α τ PUnit) := fun _ => trivial

theorem leavesFiles_ofAttempt {attempt : Attempt β} (h : attempt.LeavesFiles) :
    LeavesFiles (ofAttempt attempt : Operation α τ β) := by
  intro service
  rw [on_ofAttempt]
  exact Dialogue.Always.bind h fun _ => trivial

theorem leavesFiles_bind (hfirst : operation.LeavesFiles) (hf : ∀ c, (f c).LeavesFiles) :
    LeavesFiles (operation >>= f) := by
  intro service
  rw [on_bind]
  refine Dialogue.Always.bind (hfirst service) ?_
  rintro ⟨outcome, after⟩
  cases outcome with
  | ok c => exact hf c after
  | error e => trivial

theorem leavesFiles_get_bind {f : Service α τ → Operation α τ β}
    (hf : ∀ service, (f service).LeavesFiles) : LeavesFiles (get >>= f) :=
  fun service => hf service service

theorem leavesFiles_ask_bind {d : Dialogue γ} (hd : d.LeavesFiles)
    (hf : ∀ c, (f c).LeavesFiles) : LeavesFiles ((liftM d : Operation α τ γ) >>= f) := by
  intro service
  rw [on_ask_bind]
  exact Dialogue.Always.bind hd fun c => hf c service

theorem leavesFiles_moment_bind {f : Moment → Operation α τ β}
    (hf : ∀ now, (f now).LeavesFiles) :
    LeavesFiles ((liftM Dialogue.moment : Operation α τ Moment) >>= f) :=
  leavesFiles_ask_bind ⟨rfl, fun _ => trivial⟩ hf

theorem leavesFiles_freshId_bind {f : Uuid → Operation α τ β}
    (hf : ∀ id, (f id).LeavesFiles) :
    LeavesFiles ((liftM Dialogue.freshId : Operation α τ Uuid) >>= f) :=
  leavesFiles_ask_bind ⟨rfl, fun _ => trivial⟩ hf

end Operation

/-! ### Operations -/

namespace Service

open Operation

theorem leavesFiles_adapter (id : MarketplaceId) : (adapter id : Operation α τ α).LeavesFiles :=
  leavesFiles_get_bind fun _ => leavesFiles_answer _

theorem leavesFiles_readyAdapter [Marketplace α] (id : MarketplaceId) :
    (readyAdapter id : Operation α τ α).LeavesFiles :=
  leavesFiles_get_bind fun _ => leavesFiles_answer _

theorem leavesFiles_ready_call (id : MarketplaceId) (call : MarketCall) :
    (readyAdapter id >>= fun a => ofAttempt (call.attempt a) :
      Operation Etsy.Adapter τ _).LeavesFiles :=
  leavesFiles_bind (leavesFiles_readyAdapter id) fun a =>
    leavesFiles_ofAttempt (a.leavesFiles_attempt call)

theorem leavesFiles_categories (id : MarketplaceId) :
    (categories id : Operation Etsy.Adapter τ _).LeavesFiles :=
  leavesFiles_bind (leavesFiles_adapter id) fun a =>
    leavesFiles_ofAttempt (a.leavesFiles_attempt .categories)

section Stores

variable [SyncStore τ]

theorem leavesFiles_mappingsFor [Marketplace α] (a : α) :
    (mappingsFor a : Operation α τ _).LeavesFiles :=
  leavesFiles_get_bind fun _ => leavesFiles_bind (leavesFiles_answer _) fun _ => leavesFiles_pure _

theorem leavesFiles_record_bind {result : SyncResult} {f : PUnit → Operation α τ β}
    (hf : (f ⟨⟩).LeavesFiles) : LeavesFiles (ExceptT.lift (record result) >>= f) :=
  fun _ => hf _

theorem leavesFiles_setStoredStatus (id : MarketplaceId) (orderId status : String) :
    (setStoredStatus id orderId status : Operation α τ Unit).LeavesFiles :=
  leavesFiles_get_bind fun _ => leavesFiles_bind (leavesFiles_answer _) fun _ => leavesFiles_set _

theorem leavesFiles_saveOrder (order : Order) :
    (saveOrder order : Operation α τ Bool).LeavesFiles :=
  leavesFiles_get_bind fun _ => leavesFiles_bind (leavesFiles_answer _) fun _ =>
    leavesFiles_bind (leavesFiles_set _) fun _ => leavesFiles_pure _

theorem leavesFiles_saveOrders (orders : List Order) :
    (saveOrders orders : Operation α τ _).LeavesFiles := by
  induction orders with
  | nil => exact leavesFiles_pure []
  | cons order rest ih =>
    exact leavesFiles_bind (leavesFiles_saveOrder order) fun _ =>
      leavesFiles_bind ih fun _ => leavesFiles_pure _

theorem leavesFiles_defaultSince (id : MarketplaceId) :
    (defaultSince id : Operation α τ Timestamp).LeavesFiles := by
  refine leavesFiles_get_bind fun service => leavesFiles_bind (leavesFiles_answer _) fun last => ?_
  cases last with
  | some result => exact leavesFiles_pure _
  | none => exact leavesFiles_moment_bind fun _ => leavesFiles_pure _

theorem leavesFiles_exportProducts (id : MarketplaceId) (products : List Product)
    (signal : Signal) :
    (exportProducts id products signal : Operation Etsy.Adapter τ _).LeavesFiles := by
  refine leavesFiles_bind (leavesFiles_readyAdapter id) fun a => ?_
  refine leavesFiles_bind (leavesFiles_mappingsFor a) fun mappings => ?_
  have hexport :=
    a.leavesFiles_attempt (.exportProducts (products.map (mapCategory mappings)) signal)
  exact leavesFiles_bind (leavesFiles_ofAttempt hexport) fun result =>
    leavesFiles_record_bind (leavesFiles_pure result)

theorem leavesFiles_importOrders (id : MarketplaceId) (since : Option Timestamp)
    (signal : Signal) :
    (importOrders id since signal : Operation Etsy.Adapter τ _).LeavesFiles := by
  refine leavesFiles_bind (leavesFiles_readyAdapter id) fun a => ?_
  dsimp only
  cases since
  -- what follows is the same wherever the import starts
  case' some since => refine leavesFiles_bind (leavesFiles_pure since) fun start => ?_
  case' none => refine leavesFiles_bind (leavesFiles_defaultSince id) fun start => ?_
  all_goals
    refine leavesFiles_moment_bind fun started => ?_
    have himport := a.leavesFiles_attempt (.importOrders start signal)
    refine leavesFiles_bind (leavesFiles_ofAttempt himport) fun orders => ?_
    refine leavesFiles_freshId_bind fun resultId => ?_
    refine leavesFiles_bind (leavesFiles_saveOrders orders) fun newOrders => ?_
    refine leavesFiles_moment_bind fun now => leavesFiles_moment_bind fun ended => ?_
    exact leavesFiles_record_bind (leavesFiles_pure _)

theorem leavesFiles_updateOrderStatus (id : MarketplaceId) (orderId status : String) :
    (updateOrderStatus id orderId status : Operation Etsy.Adapter τ _).LeavesFiles :=
  leavesFiles_bind (leavesFiles_readyAdapter id) fun a =>
    leavesFiles_bind
      (leavesFiles_ofAttempt (a.leavesFiles_attempt (.updateOrderStatus orderId status)))
      fun _ => leavesFiles_setStoredStatus id orderId status

theorem leavesFiles_markAsShipped (id : MarketplaceId) (orderId : String) (shipment : Shipment) :
    (markAsShipped id orderId shipment : Operation Etsy.Adapter τ _).LeavesFiles :=
  leavesFiles_bind (leavesFiles_readyAdapter id) fun a =>
    leavesFiles_bind
      (leavesFiles_ofAttempt (a.leavesFiles_attempt (.markAsShipped orderId shipment)))
      fun _ => leavesFiles_setStoredStatus id orderId shippedStatus

end Stores

/-! ### Reports -/

section Reports

variable (service : Service α MemoryStore)

/-- How things stand with the marketplace of an adapter, from what is in the store. -/
def standingOf [Marketplace α] (a : α) : MarketplaceStatus :=
  let last :=
    if Marketplace.isConfigured a then service.store.lastResult? (Marketplace.id a) .outbound
    else none
  { marketplace := Marketplace.id a
    configured := Marketplace.isConfigured a
    enabled := Marketplace.isEnabled a
    capabilities := (Marketplace.capabilities a).supported
    lastSync := last.bind SyncResult.completedAt
    lastSyncStatus := last.map SyncResult.status
    productCount := (last.map SyncResult.total).getD 0 }

theorem on_statusOf [Marketplace α] (a : α) :
    (statusOf a : Operation α MemoryStore _).on service =
      pure (.ok (service.standingOf a), service) := by
  unfold statusOf standingOf
  rw [on_get_bind]
  dsimp only
  cases Marketplace.isConfigured a with
  | true => rfl
  | false => rfl

theorem on_mapM_statusOf [Marketplace α] (adapters : List α) :
    (adapters.mapM statusOf : Operation α MemoryStore _).on service =
      pure (.ok (adapters.map service.standingOf), service) := by
  induction adapters with
  | nil => rfl
  | cons a adapters ih =>
    rw [List.mapM_cons, on_bind, on_statusOf, pure_bind]
    dsimp only
    rw [on_bind, ih]
    rfl

theorem on_status [Marketplace α] :
    ∃ found, (status : Operation α MemoryStore _).on service = pure (.ok found, service) :=
  ⟨_, on_mapM_statusOf service service.registry.adapters⟩

theorem on_history_eq (id : MarketplaceId) (limit : Nat) :
    (history id limit : Operation α MemoryStore _).on service =
      pure (((service.registry.find id).map fun _ => service.store.history id limit).mapError
        .market, service) := by
  have hadapter : (adapter id : Operation α MemoryStore α).on service =
      pure ((service.registry.find id).mapError .market, service) := rfl
  unfold history
  rw [on_bind, hadapter, pure_bind]
  cases service.registry.find id with
  | ok a => rfl
  | error e => rfl

theorem on_history {id : MarketplaceId} (hid : (service.registry.adapter? id).isSome)
    (limit : Nat) :
    ∃ found, (history id limit : Operation α MemoryStore _).on service =
      pure (.ok found, service) := by
  obtain ⟨a, ha⟩ := Option.isSome_iff_exists.1 hid
  refine ⟨service.store.history id limit, ?_⟩
  rw [on_history_eq, Registry.find, ha]
  rfl

end Reports

end Service

end ShopSync
