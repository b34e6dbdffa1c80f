import Mathlib.Tactic
import ShopSync.Proofs.Sync.Files
import ShopSync.Proofs.Sync.Secrecy
import ShopSync.Proofs.Sync.Watermark

/-!
The history of a service.

What a call answers with says which batches it brought to an end: an export or an import that came
to something is one, and a failed one is none.  `batchLog` reads these off the answers of a run, in
the order of the calls.  Every call keeps exactly the results it answers with (`logs_perform`), so
what a store that was empty keeps after a run is its log (`performAll_history`), and what the
service reports of results is a view of it.
-/

namespace ShopSync

/-! ### The log of a run -/

/-- A batch that came to its end, as the call asked for it. -/
structure EndedBatch where
  marketplace : MarketplaceId
  direction : Direction
  result : SyncResult

/-- The result is that of a batch of this marketplace in this direction, which has ended with
counters that agree. -/
structure EndedBatch.IsSound (b : EndedBatch) : Prop where
  marketplace : b.result.marketplace = b.marketplace
  direction : b.result.direction = b.direction
  ended : b.result.status.isTerminal = true
  consistent : b.result.IsConsistent

/-- The batches of which these are the outcomes; one that failed has no result. -/
def endedBatches {β : Type} (direction : Direction) (view : β → SyncResult)
    (outcomes : FanOut β) : List EndedBatch :=
  outcomes.filterMap fun (id, outcome) =>
    match outcome with
    | .ok b => some { marketplace := id, direction, result := view b }
    | .error _ => none

/-- The store that is restored from the snapshot of a store. -/
def MemoryStore.reopened (store : MemoryStore) : MemoryStore := .ofSnapshot store.snapshot

namespace ServiceCall

/-- The batches that a call brought to an end, by what it answered. -/
def batches : ServiceCall → ServiceAnswer → List EndedBatch
  | .exportProducts id _ _, .exported outcome =>
    endedBatches .outbound (fun r => r) [(id, outcome)]
  | .exportAll _ _, .exportedAll outcomes => endedBatches .outbound (fun r => r) outcomes
  | .importOrders id _ _, .imported outcome =>
    endedBatches .inbound OrderImport.result [(id, outcome)]
  | .importAll _, .importedAll outcomes => endedBatches .inbound OrderImport.result outcomes
  | _, _ => []

/-- The batches of a run, in the order of the calls. -/
def batchLog (calls : List ServiceCall) (answers : List ServiceAnswer) : List EndedBatch :=
  (List.zipWith batches calls answers).flatten

end ServiceCall

/-- Between two services the results of these batches were kept, one after another, and no
others. -/
structure Logs (service : EtsyService) (batches : List EndedBatch) (after : EtsyService) :
    Prop where
  results : after.store.results =
    keepAll service.store.results (batches.map EndedBatch.result)
  sound : ∀ b ∈ batches, b.IsSound

namespace Logs

variable {service between after : EtsyService} {bs bs' : List EndedBatch}

theorem nothing (h : after.store.results = service.store.results) : Logs service [] after :=
  ⟨h, List.forall_mem_nil _⟩

theorem trans (h : Logs service bs between) (h' : Logs between bs' after) :
    Logs service (bs ++ bs') after := by
  constructor
  · rw [h'.results, h.results, keepAll, keepAll, keepAll, List.map_append, List.foldl_append]
  · rw [List.forall_mem_append]
    exact ⟨h.sound, h'.sound⟩

end Logs

/-! ### What one call keeps -/

/-- The report of an export that comes to one is sound. -/
theorem Etsy.Adapter.isSound_of_gives {adapter : Etsy.Adapter} {products : List Product}
    {signal : Signal} {t : List Answered} {result : SyncResult}
    (h : (adapter.exportProducts products signal).run.Gives t (.ok result)) :
    EndedBatch.IsSound { marketplace := .etsy, direction := .outbound, result } := by
  obtain ⟨id, started, ended, steps, -, hbatch, hresult⟩ := Etsy.Adapter.gives_exportProducts h
  obtain ⟨-, hmarketplace, hdirection⟩ := SyncResult.batch_eq_iff.1 hbatch
  set running := SyncResult.start id .etsy .outbound products.length started with hrunning
  have hbuilt : SyncResult.Built running := .start id .etsy .outbound products.length started
  refine { marketplace := hmarketplace, direction := hdirection, ended := ?_, consistent := ?_ }
  · change result.status.isTerminal = true
    rw [hresult]
    exact SyncResult.isTerminal_afterAll_finish running steps ended
  · change result.IsConsistent
    rw [hresult]
    exact hbuilt.isConsistent.afterAll (steps ++ [.finish ended])

theorem SyncResult.isSound_endedImport (resultId : Uuid) (id : MarketplaceId) (count : Nat)
    (started ended : Timestamp) (reason : Option Interruption) :
    EndedBatch.IsSound
      { marketplace := id
        direction := .inbound
        result := .ofImport resultId id count started ended reason } where
  marketplace := rfl
  direction := rfl
  ended := rfl
  consistent := ⟨rfl, Nat.le_refl count, rfl, rfl⟩

theorem endedBatches_cons {β : Type} (direction : Direction) (view : β → SyncResult)
    (first : MarketplaceId × Except SyncError β) (rest : FanOut β) :
    endedBatches direction view (first :: rest) =
      endedBatches direction view [first] ++ endedBatches direction view rest :=
  List.filterMap_append (l := [first])

theorem ServiceM.gives_map {α τ β γ : Type} {step : ServiceM α τ β} {view : β → γ}
    {service after : Service α τ} {t : List Answered} {c : γ}
    (h : ((view <$> step).run service).Gives t (c, after)) :
    ∃ b, c = view b ∧ (step.run service).Gives t (b, after) := by
  rw [map_eq_pure_bind, StateT.run_bind] at h
  obtain ⟨⟨b, between⟩, t₁, t₂, rfl, hstep, h⟩ := Dialogue.gives_bind_iff.1 h
  obtain ⟨rfl, heq⟩ := Dialogue.gives_pure_iff.1 h
  cases heq
  rw [List.append_nil]
  exact ⟨b, rfl, hstep⟩

namespace Service

variable {service after : EtsyService} {t : List Answered}

theorem logs_exportProducts {id : MarketplaceId} {products : List Product} {signal : Signal}
    {outcome : Except SyncError SyncResult}
    (h : ((exportProducts id products signal).on service).Gives t (outcome, after)) :
    Logs service (endedBatches .outbound (fun r => r) [(id, outcome)]) after := by
  rcases gives_exportProducts h with ⟨e, rfl, rfl⟩ | ⟨adapter, mapped, result, -, hexport, rfl, rfl⟩
  · exact .nothing rfl
  · refine ⟨rfl, List.forall_mem_singleton.2 ?_⟩
    cases id
    exact Etsy.Adapter.isSound_of_gives hexport

theorem logs_importOrders {id : MarketplaceId} {since : Option Timestamp} {signal : Signal}
    {outcome : Except SyncError OrderImport}
    (h : ((importOrders id since signal).on service).Gives t (outcome, after)) :
    Logs service (endedBatches .inbound OrderImport.result [(id, outcome)]) after := by
  rcases gives_importOrders h with ⟨e, rfl, rfl⟩ | ⟨adapter, start, before, during, orders,
    resultId, started, now, ended, -, -, -, -, rfl, rfl⟩
  · exact .nothing rfl
  · refine ⟨?_, List.forall_mem_singleton.2 ?_⟩
    · rw [store_imported]
      rfl
    · exact SyncResult.isSound_endedImport resultId id orders.length started.wall ended.wall
        (signal.interruption? now)

theorem logs_forActive {β : Type} {f : Etsy.Adapter → Operation Etsy.Adapter MemoryStore β}
    {direction : Direction} {view : β → SyncResult}
    (hstep : ∀ ⦃adapter service t outcome after⦄,
      ((f adapter).on service).Gives t (outcome, after) →
      Logs service (endedBatches direction view [(Marketplace.id adapter, outcome)]) after)
    {outcomes : FanOut β} (h : ((forActive f).run service).Gives t (outcomes, after)) :
    Logs service (endedBatches direction view outcomes) after := by
  refine forActive_induction (R := fun service _ outcomes after =>
    Logs service (endedBatches direction view outcomes) after) (fun _ => .nothing rfl) ?_ h
  intro adapter service between after t t' outcome outcomes hfirst hrest
  rw [endedBatches_cons]
  exact (hstep hfirst).trans hrest

theorem results_forActive_attempt {β : Type} {attempt : Etsy.Adapter → Attempt β}
    {outcomes : FanOut β}
    (h : ((forActive fun a => Operation.ofAttempt (attempt a)).run service).Gives t
      (outcomes, after)) :
    after.store.results = service.store.results := by
  refine forActive_induction (R := fun service _ _ after =>
    after.store.results = service.store.results) (fun _ => rfl) ?_ h
  intro adapter service between after t t' outcome outcomes hfirst hrest
  have hkeeps : (Operation.ofAttempt (attempt adapter) : Operation Etsy.Adapter _ β).Keeps
      (HasResults service.store.results) := Operation.keeps_ofAttempt (attempt adapter)
  exact hrest.trans (hkeeps rfl hfirst)

end Service

namespace ServiceCall

open Service

variable {service after : EtsyService} {t : List Answered} {answer : ServiceAnswer}

theorem logs_of_keeps {β : Type} {operation : Operation Etsy.Adapter MemoryStore β}
    {view : Except SyncError β → ServiceAnswer}
    (hkeeps : ∀ results, operation.Keeps (HasResults results))
    (h : ((view <$> operation.run).run service).Gives t (answer, after)) :
    Logs service [] after := by
  obtain ⟨outcome, -, hstep⟩ := ServiceM.gives_map h
  exact .nothing (hkeeps service.store.results rfl hstep)

/-- **One call.**  It keeps the results that it answers with, one after another, and no others. -/
theorem logs_perform (call : ServiceCall)
    (h : ((call.perform MemoryStore.reopened).run service).Gives t (answer, after)) :
    Logs service (call.batches answer) after := by
  cases call with
  | configure config => exact logs_of_keeps (fun results => keeps_configure results config) h
  | exportProducts id products signal =>
    obtain ⟨outcome, rfl, hexport⟩ := ServiceM.gives_map h
    exact logs_exportProducts hexport
  | exportAll products signal =>
    obtain ⟨outcomes, rfl, hall⟩ := ServiceM.gives_map h
    exact logs_forActive (fun _ _ _ _ _ hexport => logs_exportProducts hexport) hall
  | importOrders id since signal =>
    obtain ⟨outcome, rfl, himport⟩ := ServiceM.gives_map h
    exact logs_importOrders himport
  | importAll signal =>
    obtain ⟨outcomes, rfl, hall⟩ := ServiceM.gives_map h
    exact logs_forActive (fun _ _ _ _ _ himport => logs_importOrders himport) hall
  | updateProduct id product => exact logs_of_keeps (fun _ => keeps_updateProduct _ id product) h
  | updateStock id sku quantity => exact logs_of_keeps (fun _ => keeps_ready_attempt _ id _) h
  | updateStockAll sku quantity =>
    obtain ⟨outcomes, rfl, hall⟩ := ServiceM.gives_map h
    exact .nothing (results_forActive_attempt hall)
  | updatePrice id sku price => exact logs_of_keeps (fun _ => keeps_ready_attempt _ id _) h
  | updatePriceAll sku price =>
    obtain ⟨outcomes, rfl, hall⟩ := ServiceM.gives_map h
    exact .nothing (results_forActive_attempt hall)
  | deleteProduct id sku => exact logs_of_keeps (fun _ => keeps_ready_attempt _ id _) h
  | updateOrderStatus id orderId text =>
    exact logs_of_keeps (fun results => keeps_updateOrderStatus results id orderId text) h
  | markAsShipped id orderId shipment =>
    exact logs_of_keeps (fun results => keeps_markAsShipped results id orderId shipment) h
  | categories id => exact logs_of_keeps (fun _ => keeps_categories _ id) h
  | saveMapping id mapping =>
    exact logs_of_keeps (fun results => keeps_saveMapping results id mapping) h
  | mappings id => exact logs_of_keeps (fun _ => keeps_mappings _ id) h
  | feed id products regenerate =>
    exact logs_of_keeps (fun results => keeps_feed results id products regenerate) h
  | invalidateFeed id =>
    obtain ⟨outcome, rfl, hstep⟩ := ServiceM.gives_map h
    obtain ⟨-, heq⟩ := Dialogue.gives_pure_iff.1 hstep
    cases heq
    exact .nothing rfl
  | status => exact logs_of_keeps (fun _ => keeps_status _) h
  | history id limit => exact logs_of_keeps (fun _ => keeps_history _ id limit) h
  | restore =>
    obtain ⟨-, heq⟩ := Dialogue.gives_pure_iff.1 h
    cases heq
    exact .nothing rfl

theorem logs_performAll (calls : List ServiceCall) {answers : List ServiceAnswer}
    (h : ((performAll MemoryStore.reopened calls).run service).Gives t (answers, after)) :
    Logs service (batchLog calls answers) after := by
  induction calls generalizing service t answers with
  | nil =>
    obtain ⟨-, heq⟩ := Dialogue.gives_pure_iff.1 h
    cases heq
    exact .nothing rfl
  | cons call calls ih =>
    rw [performAll, List.mapM_cons, StateT.run_bind] at h
    obtain ⟨⟨first, between⟩, t₁, t₂, rfl, hfirst, h⟩ := Dialogue.gives_bind_iff.1 h
    rw [StateT.run_bind] at h
    obtain ⟨⟨others, last⟩, t₃, t₄, rfl, hrest, h⟩ := Dialogue.gives_bind_iff.1 h
    obtain ⟨-, heq⟩ := Dialogue.gives_pure_iff.1 h
    cases heq
    exact (logs_perform call hfirst).trans (ih hrest)

end ServiceCall

/-! ### What is reported of results -/

/-- The batches of a marketplace. -/
def batchesOf (id : MarketplaceId) (log : List EndedBatch) : List EndedBatch :=
  log.filter fun b => b.marketplace = id

/-- The last export to a marketplace. -/
def lastExport? (id : MarketplaceId) (log : List EndedBatch) : Option EndedBatch :=
  ((batchesOf id log).filter fun b => b.direction = .outbound).getLast?

/-- The status shows when the last export ended, how, and how many products it had, or that there
was none. -/
def MarketplaceStatus.Shows (status : MarketplaceStatus) : Option EndedBatch → Prop
  | none => status.lastSync = none ∧ status.lastSyncStatus = none ∧ status.productCount = 0
  | some b =>
    (∃ ended, b.result.completedAt = some ended ∧ status.lastSync = some ended) ∧
      status.lastSyncStatus = some b.result.status ∧
      status.productCount = b.result.total

section Views

variable {log : List EndedBatch} {store : MemoryStore}

/-- Of sound batches, those that a view picks by their results are those it picks by what was asked
for. -/
theorem filter_results {p : EndedBatch → Bool} {q : SyncResult → Bool}
    (h : ∀ b ∈ log, q b.result = p b) :
    (log.map EndedBatch.result).filter q = (log.filter p).map EndedBatch.result := by
  rw [List.filter_map]
  exact congrArg _ (List.filter_congr h)

theorem history_of_log (hresults : store.results = log.map EndedBatch.result)
    (hsound : ∀ b ∈ log, b.IsSound) (id : MarketplaceId) (limit : Nat) :
    store.history id limit = ((batchesOf id log).map EndedBatch.result).reverse.take limit := by
  have hfilter : (log.map EndedBatch.result).filter (fun result => result.marketplace = id) =
      (batchesOf id log).map EndedBatch.result := by
    refine filter_results fun b hb => ?_
    rw [(hsound b hb).marketplace]
  rw [MemoryStore.history, hresults, List.filter_reverse, hfilter]

theorem lastResult?_of_log (hresults : store.results = log.map EndedBatch.result)
    (hsound : ∀ b ∈ log, b.IsSound) (id : MarketplaceId) :
    store.lastResult? id .outbound = (lastExport? id log).map EndedBatch.result := by
  have hfilter : (log.map EndedBatch.result).filter (MemoryStore.concerns id .outbound) =
      ((batchesOf id log).filter fun b => b.direction = .outbound).map EndedBatch.result := by
    rw [batchesOf, List.filter_filter]
    refine filter_results fun b hb => ?_
    rw [MemoryStore.concerns, (hsound b hb).marketplace, (hsound b hb).direction, Bool.and_comm]
  rw [MemoryStore.lastResult?, hresults, ← List.head?_filter, List.filter_reverse, hfilter,
    List.head?_reverse, List.getLast?_map]
  rfl

/-- What a service shows of a configured marketplace. -/
theorem shows_standingOf {service : EtsyService} {a : Etsy.Adapter}
    (hresults : service.store.results = log.map EndedBatch.result)
    (hsound : ∀ b ∈ log, b.IsSound) (hconfigured : Marketplace.isConfigured a = true) :
    (service.standingOf a).Shows (lastExport? (Marketplace.id a) log) := by
  have hlast := lastResult?_of_log hresults hsound (Marketplace.id a)
  unfold Service.standingOf
  rw [if_pos hconfigured, hlast]
  cases hexport : lastExport? (Marketplace.id a) log with
  | none => exact ⟨rfl, rfl, rfl⟩
  | some b =>
    have hmem : b ∈ log :=
      List.mem_of_mem_filter (List.mem_of_mem_filter (List.mem_of_getLast? hexport))
    have hended := (hsound b hmem).consistent.completed
    rw [(hsound b hmem).ended, Option.isSome_iff_exists] at hended
    obtain ⟨ended, hended⟩ := hended
    exact ⟨⟨ended, hended, hended⟩, rfl, rfl⟩

end Views

/-- **History is a log.**  After any calls of a service with an empty store, the store keeps exactly
the results that exports and imports answered with, in the order of the calls; each is of the
marketplace and the direction that was asked for, has ended, and has counters that agree.  The
history of a marketplace is the newest of them, and its status shows the last export, whatever was
imported since. -/
theorem ServiceCall.performAll_history {σ : Type} (world : World σ) {service : EtsyService}
    (hempty : service.store = {}) (calls : List ServiceCall) (s : σ) :
    let course := (performAll MemoryStore.reopened calls).run service
    ∀ answers after, (course.run world s).1 = (answers, after) →
      let log := batchLog calls answers
      (log.map fun b => b.result.id).Nodup →
        after.store.results = log.map EndedBatch.result ∧
        (∀ b ∈ log, b.IsSound) ∧
        (∀ id limit,
          let newest := ((batchesOf id log).map EndedBatch.result).reverse.take limit
          after.store.history id limit = newest ∧
          (Service.history id limit).on after =
            pure (((after.registry.find id).map fun _ => newest).mapError .market, after)) ∧
        ∃ statuses, Service.status.on after = pure (.ok statuses, after) ∧
          List.Forall₂ (fun a (status : MarketplaceStatus) =>
            status.marketplace = Marketplace.id a ∧
            (Marketplace.isConfigured a = true →
              status.Shows (lastExport? (Marketplace.id a) log)))
            after.registry.adapters statuses := by
  intro course answers after hrun log hids
  have hgives := Dialogue.gives_transcript world course s
  rw [hrun] at hgives
  have hlogs : Logs service log after := logs_performAll calls hgives
  have hresults : after.store.results = log.map EndedBatch.result := by
    have hnew : (([] : List SyncResult).map SyncResult.id ++
        (log.map EndedBatch.result).map SyncResult.id).Nodup := by
      rw [List.map_map]
      exact hids
    rw [hlogs.results, hempty]
    exact keepAll_of_nodup hnew
  refine ⟨hresults, hlogs.sound, fun id limit => ?_, after.registry.adapters.map after.standingOf,
    Service.on_mapM_statusOf after after.registry.adapters, ?_⟩
  · have hhistory := history_of_log hresults hlogs.sound id limit
    refine ⟨hhistory, ?_⟩
    rw [Service.on_history_eq, hhistory]
  · rw [List.forall₂_map_right_iff]
    refine List.forall₂_same.2 fun a _ => ⟨rfl, fun hconfigured => ?_⟩
    exact shows_standingOf hresults hlogs.sound hconfigured

/-- An export that comes to a report, an import, an export that is cancelled before its first
product, another import, and a store that is restored. -/
def sampleHistoryCalls : List ServiceCall :=
  [.exportProducts .etsy
      [{ sku := ⟨"MUG", by decide⟩, name := "Mug", price := Number.Binary64.ofNat 20,
         quantity := 1 }]
      { token := 1 },
    .importOrders .etsy none { token := 1 }, .exportAll [] { token := 0 },
    .importAll { token := 1 }, .restore]

/-- The cancelled export is not in the log, and the status is that of the one before the imports. -/
theorem ServiceCall.performAll_history_sampleWorld :
    let course := (performAll MemoryStore.reopened sampleHistoryCalls).run Service.sampleService
    ∃ answers after,
      (course.run (Service.sampleWorld 0) 0).1 = (answers, after) ∧
      let log := batchLog sampleHistoryCalls answers
      Service.sampleService.store = {} ∧
        (log.map fun b => b.result.id).Nodup ∧
        (log.map fun b => (b.direction, b.result.total)) =
          [(.outbound, 1), (.inbound, 0), (.inbound, 0)] ∧
        (lastExport? .etsy log).map (fun b => b.result.total) = some 1 ∧
        after.store.results = log.map EndedBatch.result ∧
        ∃ statuses, Service.status.on after = pure (.ok statuses, after) ∧
          List.Forall₂ (fun a (status : MarketplaceStatus) =>
            status.marketplace = Marketplace.id a ∧
            (Marketplace.isConfigured a = true →
              status.Shows (lastExport? (Marketplace.id a) log)))
            after.registry.adapters statuses := by
  intro course
  have hfacts :
      let log := batchLog sampleHistoryCalls (course.run (Service.sampleWorld 0) 0).1.1
      (log.map fun b => b.result.id).Nodup ∧
        (log.map fun b => (b.direction, b.result.total)) =
          [(.outbound, 1), (.inbound, 0), (.inbound, 0)] ∧
        (lastExport? .etsy log).map (fun b => b.result.total) = some 1 := by
    decide +kernel
  have hempty : Service.sampleService.store = {} := rfl
  rcases hrun : (course.run (Service.sampleWorld 0) 0).1 with ⟨answers, after⟩
  rw [hrun] at hfacts
  obtain ⟨hids, hbatches, hlast⟩ := hfacts
  obtain ⟨hresults, -, -, hstatuses⟩ := performAll_history (Service.sampleWorld 0) hempty
    sampleHistoryCalls 0 answers after hrun hids
  exact ⟨answers, after, rfl, hempty, hids, hbatches, hlast, hresults, hstatuses⟩

end ShopSync
