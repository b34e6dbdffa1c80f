import Mathlib.Tactic
import ShopSync.Proofs.Etsy.Orders
import ShopSync.Proofs.Sync.Call
import ShopSync.Proofs.Sync.Maintain

/-!
The upkeep of the store.

A store is sound when its snapshot is.  Whatever the service is asked to do, a sound store stays
sound as long as the answers are in range, and no order without its totals comes in or goes away:
reports of batches count no more than there is, imported orders have their totals, and of an order
that is there only the status changes.
-/

namespace ShopSync

/-! ### Stores -/

namespace MemoryStore

/-- The snapshot is sound, and all orders have their totals exactly when `totals` holds. -/
structure IsSound (totals : Prop) (store : MemoryStore) : Prop where
  snapshot : store.snapshot.IsSound
  totals : (∀ order ∈ store.orders.toList, order.HasTotals) ↔ totals

variable {totals : Prop} {store : MemoryStore}

theorem isSound_ofSnapshot {snapshot : Snapshot} (h : snapshot.IsSound) :
    (ofSnapshot snapshot).IsSound
      (∀ order ∈ (OrderBook.ofList snapshot.orders).toList, order.HasTotals) where
  snapshot :=
    { results := h.results
      orders := (OrderBook.forall_foldl_insert_iff h.orders).2 (List.forall_mem_nil _)
      listed := h.listed }
  totals := Iff.rfl

theorem IsSound.saveResult (h : store.IsSound totals) {result : SyncResult}
    (hresult : result.IsSound) : (store.saveResult result).IsSound totals where
  snapshot :=
    { results := by
        intro other hother
        rcases Keyed.mem_upsertBy hother with rfl | hother
        · exact hresult
        · exact h.snapshot.results other hother
      orders := h.snapshot.orders
      listed := h.snapshot.listed }
  totals := h.totals

theorem IsSound.insertAll (h : store.IsSound totals) {orders : List Order}
    (horders : ∀ order ∈ orders, order.IsSound ∧ order.HasTotals) :
    IsSound totals { store with orders := orders.foldl OrderBook.insert store.orders } where
  snapshot :=
    { results := h.snapshot.results
      orders := (OrderBook.forall_foldl_insert_iff fun o ho => (horders o ho).1).2 h.snapshot.orders
      listed := h.snapshot.listed }
  totals := (OrderBook.forall_foldl_insert_iff fun o ho => (horders o ho).2).trans h.totals

/-- A status is no total. -/
theorem IsSound.setOrderStatus (h : store.IsSound totals) (id : MarketplaceId)
    (orderId status : String) : (store.setOrderStatus id orderId status).2.IsSound totals := by
  -- what does not look at the status does not change
  have hstatus {p : Order → Prop} (hp : ∀ order : Order, p { order with status } ↔ p order) :
      (∀ order ∈ (store.orders.setStatus (id, orderId) status).toList, p order) ↔
        ∀ order ∈ store.orders.toList, p order := by
    unfold OrderBook.setStatus
    rw [List.forall_mem_map]
    refine forall₂_congr fun order _ => ?_
    split
    · exact hp order
    · rfl
  have hsound (order : Order) : { order with status }.IsSound ↔ order.IsSound :=
    ⟨fun ⟨h₁, h₂, h₃⟩ => ⟨h₁, h₂, h₃⟩, fun ⟨h₁, h₂, h₃⟩ => ⟨h₁, h₂, h₃⟩⟩
  constructor
  · exact
      { results := h.snapshot.results
        orders := (hstatus hsound).2 h.snapshot.orders
        listed := h.snapshot.listed }
  · exact (hstatus fun _ => Iff.rfl).trans h.totals

end MemoryStore

/-! ### Results -/

namespace SyncResult

theorem isSound_ofImport (resultId : Uuid) (id : MarketplaceId) {count : Nat}
    {started ended : Timestamp} (reason : Option Interruption) (hcount : count < UInt64.size)
    (hstarted : started.HasForm) (hended : ended.HasForm) :
    (ofImport resultId id count started ended reason).IsSound where
  counts := by
    simp only [counts, ofImport, List.forall_mem_cons]
    exact ⟨hcount, hcount, hcount, by decide, List.forall_mem_nil _⟩
  times := by
    simp only [times, ofImport, Option.toList_some, List.forall_mem_cons]
    exact ⟨hstarted, hended, List.forall_mem_nil _⟩

/-- A result that is counting: no more than its total, and it has not ended. -/
structure IsCounting (n : Nat) (started : Timestamp) (result : SyncResult) : Prop where
  total : result.total = n
  processed : result.processed ≤ n
  success : result.success ≤ result.processed
  failed : result.failed ≤ result.processed
  startedAt : result.startedAt = started
  completedAt : result.completedAt = none

variable {n : Nat} {started : Timestamp} {result : SyncResult}

theorem isCounting_start (id : Uuid) (marketplace : MarketplaceId) (direction : Direction) :
    (start id marketplace direction n started).IsCounting n started :=
  ⟨rfl, Nat.zero_le n, le_refl 0, le_refl 0, rfl, rfl⟩

/-- Another item counts only as long as there is room. -/
theorem IsCounting.processed_lt (h : result.IsCounting n started)
    (haccepts : result.acceptsItems = true) : result.processed < n := by
  simp only [acceptsItems, Bool.and_eq_true, decide_eq_true_eq] at haccepts
  rw [← h.total]
  exact haccepts.2

theorem IsCounting.recordSuccess (h : result.IsCounting n started) :
    result.recordSuccess.IsCounting n started := by
  unfold SyncResult.recordSuccess
  split
  next haccepts =>
    exact
      { h with
        processed := h.processed_lt haccepts
        success := Nat.succ_le_succ h.success
        failed := h.failed.trans (Nat.le_succ _) }
  next => exact h

theorem IsCounting.recordFailure (h : result.IsCounting n started) (sku : String)
    (e : MarketError) : (result.recordFailure sku e).IsCounting n started := by
  unfold SyncResult.recordFailure
  split
  next haccepts =>
    exact
      { h with
        processed := h.processed_lt haccepts
        success := h.success.trans (Nat.le_succ _)
        failed := Nat.succ_le_succ h.failed }
  next => exact h

theorem IsCounting.interrupt (h : result.IsCounting n started) (reason : Interruption) :
    (result.interrupt reason).IsCounting n started := by
  unfold SyncResult.interrupt
  split
  · exact h
  · exact { h with }

theorem IsCounting.isSound_finish (h : result.IsCounting n started) {ended : Timestamp}
    (hn : n < UInt64.size) (hstarted : started.HasForm) (hended : ended.HasForm) :
    (result.finish ended).IsSound := by
  have hcounts : ∀ n ∈ result.counts, n < UInt64.size := by
    have hprocessed := h.processed.trans_lt hn
    simp only [counts, List.forall_mem_cons]
    exact ⟨h.total ▸ hn, hprocessed, h.success.trans_lt hprocessed,
      h.failed.trans_lt hprocessed, List.forall_mem_nil _⟩
  unfold SyncResult.finish
  split
  · refine ⟨hcounts, ?_⟩
    simp only [times, h.startedAt, h.completedAt, Option.toList_none, List.forall_mem_cons]
    exact ⟨hstarted, List.forall_mem_nil _⟩
  · refine ⟨hcounts, ?_⟩
    simp only [times, h.startedAt, Option.toList_some, List.forall_mem_cons]
    exact ⟨hstarted, hended, List.forall_mem_nil _⟩

end SyncResult

/-- The report of a batch is sound when a word can count the products. -/
theorem Batch.isSound_of_gives {signal : Signal} {upsert : Product → Attempt Unit}
    {marketplace : MarketplaceId} {products : List Product} {result : SyncResult}
    {t : List Answered} (hproducts : products.length < UInt64.size) (hrange : InRange t)
    (h : (exportProducts marketplace products signal upsert).run.Gives t (.ok result)) :
    result.IsSound := by
  obtain ⟨entry, id, start, during, final, ended, rfl, hloop, rfl⟩ :=
    gives_exportProducts signal upsert h
  have hfinal : final.IsCounting products.length start.wall := by
    refine keeps_exportRest signal upsert (SyncResult.IsCounting products.length start.wall)
      ?_ ?_ ?_ hloop (SyncResult.isCounting_start id marketplace .outbound)
    · exact fun _ hresult => hresult.recordSuccess
    · exact fun _ sku e hresult => hresult.recordFailure sku e
    · exact fun _ reason hresult => hresult.interrupt reason
  have hlooks := hrange.clock
  simp only [looksOf_moment, looksOf_freshId, looksOf_append, looksOf_nil, List.forall_mem_cons,
    List.forall_mem_append] at hlooks
  obtain ⟨-, hstart, -, hended, -⟩ := hlooks
  exact hfinal.isSound_finish hproducts (Timestamp.hasForm_of_year_nonneg hstart)
    (Timestamp.hasForm_of_year_nonneg hended)

/-! ### Operations -/

namespace Service

/-- The store is sound. -/
def HasSoundStore (totals : Prop) (service : EtsyService) : Prop := service.store.IsSound totals

variable {totals : Prop} {id : MarketplaceId} {signal : Signal}

section Readers

variable {β : Type}

theorem maintains_adapter (id : MarketplaceId) :
    Maintains (HasSoundStore totals) (adapter id).run (IfOk fun _ => True) :=
  maintains_get_bind fun _ _ => maintains_answer _

theorem maintains_readyAdapter (id : MarketplaceId) :
    Maintains (HasSoundStore totals) (readyAdapter id).run (IfOk fun _ => True) :=
  maintains_get_bind fun _ _ => maintains_answer _

theorem maintains_mappingsFor (a : Etsy.Adapter) :
    Maintains (HasSoundStore totals) (mappingsFor a).run (IfOk fun _ => True) :=
  maintains_get_bind fun _ _ =>
    maintains_run_bind (maintains_answer _) fun _ _ => maintains_run_pure trivial

theorem maintains_history (id : MarketplaceId) (limit : Nat) :
    Maintains (HasSoundStore totals) (history id limit).run (IfOk fun _ => True) :=
  maintains_run_bind (maintains_adapter id) fun _ _ =>
    maintains_get_bind fun _ _ => maintains_answer _

theorem maintains_statusOf (a : Etsy.Adapter) :
    Maintains (HasSoundStore totals) (statusOf a).run (IfOk fun _ => True) := by
  refine maintains_get_bind fun service _ => ?_
  dsimp only
  split
  · exact maintains_run_bind (maintains_answer _) fun _ _ => maintains_run_pure trivial
  · exact maintains_run_pure trivial

theorem maintains_status :
    Maintains (HasSoundStore totals) status.run (IfOk fun _ => True) :=
  maintains_get_bind fun _ _ => maintains_run_mapM maintains_statusOf _

theorem maintains_attempt {attempt : Attempt β} (h : attempt.LeavesFiles) :
    Maintains (HasSoundStore totals) (Operation.ofAttempt attempt).run (IfOk fun _ => True) :=
  maintains_ofAttempt (h.obtains fun _ _ _ _ => trivial)

theorem maintains_ready_attempt (id : MarketplaceId) {attempt : Etsy.Adapter → Attempt β}
    (h : ∀ a, (attempt a).LeavesFiles) :
    Maintains (HasSoundStore totals)
      (readyAdapter id >>= fun a => Operation.ofAttempt (attempt a)).run (IfOk fun _ => True) :=
  maintains_run_bind (maintains_readyAdapter id) fun a _ => maintains_attempt (h a)

theorem maintains_categories (id : MarketplaceId) :
    Maintains (HasSoundStore totals) (categories id).run (IfOk fun _ => True) :=
  maintains_run_bind (maintains_adapter id) fun a _ =>
    maintains_attempt (a.leavesFiles_attempt .categories)

end Readers

/-! ### Statuses -/

theorem maintains_setStoredStatus (id : MarketplaceId) (orderId text : String) :
    Maintains (HasSoundStore totals) (setStoredStatus id orderId text).run
      (IfOk fun _ => True) := by
  refine maintains_get_bind fun service hservice => ?_
  have hanswer : IfOk (fun found : Bool × MemoryStore => found.2.IsSound totals)
      (.ok (service.store.setOrderStatus id orderId text) : Except SyncError _) :=
    ifOk_ok (hservice.setOrderStatus id orderId text)
  exact maintains_run_bind (maintains_mk_pure hanswer) fun _ hstore => maintains_set hstore

theorem maintains_updateOrderStatus (id : MarketplaceId) (orderId text : String) :
    Maintains (HasSoundStore totals) (updateOrderStatus id orderId text).run
      (IfOk fun _ => True) :=
  maintains_run_bind (maintains_readyAdapter id) fun a _ =>
    maintains_run_bind (maintains_attempt (a.leavesFiles_attempt (.updateOrderStatus orderId text)))
      fun _ _ => maintains_setStoredStatus id orderId text

theorem maintains_markAsShipped (id : MarketplaceId) (orderId : String) (shipment : Shipment) :
    Maintains (HasSoundStore totals) (markAsShipped id orderId shipment).run
      (IfOk fun _ => True) :=
  maintains_run_bind (maintains_readyAdapter id) fun a _ =>
    maintains_run_bind (maintains_attempt (a.leavesFiles_attempt (.markAsShipped orderId shipment)))
      fun _ _ => maintains_setStoredStatus id orderId shippedStatus

/-! ### Batches -/

theorem maintains_record {result : SyncResult} (h : result.IsSound) :
    Maintains (HasSoundStore totals) (record result) fun _ => True :=
  maintains_modify fun _ hservice => hservice.saveResult h

/-- An export, of as many products as a word can count. -/
theorem maintains_exportProducts (id : MarketplaceId) {products : List Product}
    (signal : Signal) (hproducts : products.length < UInt64.size) :
    Maintains (HasSoundStore totals) (exportProducts id products signal).run
      (IfOk fun _ => True) := by
  refine maintains_run_bind (maintains_readyAdapter id) fun a _ => ?_
  refine maintains_run_bind (maintains_mappingsFor a) fun mappings _ => ?_
  have hexport : (a.exportProducts (products.map (mapCategory mappings)) signal).run.Obtains
      (IfOk SyncResult.IsSound) := by
    refine (a.leavesFiles_attempt (.exportProducts _ signal)).obtains ?_
    intro t result hgives hrange
    obtain ⟨session, hbatch⟩ := Etsy.Adapter.gives_withSession hgives
    exact Batch.isSound_of_gives (by rwa [List.length_map]) hrange hbatch
  refine maintains_run_bind (maintains_ofAttempt hexport) fun result hresult => ?_
  exact maintains_run_bind (maintains_lift (maintains_record hresult)) fun _ _ =>
    maintains_run_pure trivial

/-- Where an import starts is a time that can be written. -/
theorem obtains_startOf {service : EtsyService} (hservice : HasSoundStore totals service)
    (id : MarketplaceId) {since : Option Timestamp} (hsince : ∀ t, since = some t → t.HasForm) :
    (service.startOf id since).Obtains Timestamp.HasForm := by
  cases since with
  | some t => exact Dialogue.obtains_pure (hsince t rfl)
  | none =>
    unfold startOf
    cases hlast : service.store.lastUninterrupted? id .inbound with
    | some result =>
      have hmem : result ∈ service.store.results :=
        List.mem_reverse.1 (List.mem_of_find?_eq_some hlast)
      have hsound := hservice.snapshot.results result hmem
      exact Dialogue.obtains_pure (hsound.times _ List.mem_cons_self)
    | none =>
      refine Dialogue.obtains_moment.bind fun now _ => ?_
      exact Dialogue.obtains_pure (now.wall.hasForm_subDays _)

theorem obtains_importSince {service : EtsyService} (hservice : HasSoundStore totals service)
    (a : Etsy.Adapter) (id : MarketplaceId) (signal : Signal) {since : Timestamp}
    (hsince : since.HasForm) :
    (service.importSince a id signal since).Obtains fun found => HasSoundStore totals found.2 := by
  have himport : (a.importOrders since signal).run.Obtains (IfOk fun orders =>
      orders.length < UInt64.size ∧ ∀ order ∈ orders, order.IsSound ∧ order.HasTotals) := by
    refine (a.leavesFiles_attempt (.importOrders since signal)).obtains ?_
    intro t orders hgives hrange
    exact Etsy.Adapter.gives_importOrders hsince hrange hgives
  unfold importSince
  refine Dialogue.obtains_moment.bind fun started hstarted => ?_
  refine himport.bind fun outcome houtcome => ?_
  cases outcome with
  | error e => exact Dialogue.obtains_pure hservice
  | ok orders =>
    obtain ⟨hcount, horders⟩ := houtcome orders rfl
    refine Dialogue.obtains_freshId.bind fun resultId _ => ?_
    refine Dialogue.obtains_moment.bind fun now _ => ?_
    refine Dialogue.obtains_moment.bind fun ended hended => ?_
    refine Dialogue.obtains_pure ?_
    have hresult := SyncResult.isSound_ofImport resultId id (signal.interruption? now) hcount
      (Timestamp.hasForm_of_year_nonneg hstarted) (Timestamp.hasForm_of_year_nonneg hended)
    have hstore := (hservice.insertAll horders).saveResult hresult
    have hafter := store_imported service id since orders resultId started.wall ended.wall
      (signal.interruption? now)
    rw [← hafter] at hstore
    exact hstore

/-- An import from a time that can be written, or from where the store says. -/
theorem maintains_importOrders (id : MarketplaceId) {since : Option Timestamp} (signal : Signal)
    (hsince : ∀ t, since = some t → t.HasForm) :
    Maintains (HasSoundStore totals) (importOrders id since signal).run (IfOk fun _ => True) := by
  intro service hservice
  have hcourse : ((importOrders id since signal).on service).Obtains fun found =>
      HasSoundStore totals found.2 := by
    rw [on_importOrders]
    cases service.registry.findReady id with
    | error e => exact Dialogue.obtains_pure hservice
    | ok a =>
      refine (obtains_startOf hservice id hsince).bind fun start hstart => ?_
      exact obtains_importSince hservice a id signal hstart
  exact hcourse.mono fun _ hafter => ⟨hafter, fun _ _ => trivial⟩

end Service

end ShopSync
