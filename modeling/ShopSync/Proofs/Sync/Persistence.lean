import Mathlib.Tactic
import ShopSync.Proofs.Sync.Document
import ShopSync.Proofs.Sync.OrderBook

/-!
Stores across runs.

A store is asked one thing after another, and `answers` are what comes back.  A store that was
written as a document and restored from it is the store that was written: the orders are put back
in their order whatever they came from, and everything else is kept as it was.  So both give the
same answers from then on, and what is known, new or uninterrupted stays so across runs.
-/

namespace ShopSync

open Number (Binary64)
open Json (Decoder)

/-- What a store can be asked. -/
inductive StoreCall where
  | saveResult (result : SyncResult)
  | lastResult (id : MarketplaceId) (direction : Direction)
  | lastUninterrupted (id : MarketplaceId) (direction : Direction)
  | history (id : MarketplaceId) (limit : Nat)
  | saveOrder (order : Order)
  | order (id : MarketplaceId) (orderId : String)
  | setOrderStatus (id : MarketplaceId) (orderId status : String)
  | mappings (id : MarketplaceId)
  | saveMapping (id : MarketplaceId) (mapping : CategoryMapping)
  | snapshot

/-- What a store answers. -/
inductive StoreAnswer where
  | done
  | flag (b : Bool)
  | result (found : Option SyncResult)
  | results (found : List SyncResult)
  | order (found : Option Order)
  | mappings (found : List CategoryMapping)
  | snapshot (content : Snapshot)
deriving DecidableEq

namespace MemoryStore

/-! ### Runs -/

/-- What the store answers, and the store after that. -/
def ask (store : MemoryStore) : StoreCall → StoreAnswer × MemoryStore
  | .saveResult result => (.done, store.saveResult result)
  | .lastResult id direction => (.result (store.lastResult? id direction), store)
  | .lastUninterrupted id direction => (.result (store.lastUninterrupted? id direction), store)
  | .history id limit => (.results (store.history id limit), store)
  | .saveOrder order =>
    let (isNew, store) := store.saveOrder order
    (.flag isNew, store)
  | .order id orderId => (.order (store.order? id orderId), store)
  | .setOrderStatus id orderId status =>
    let (known, store) := store.setOrderStatus id orderId status
    (.flag known, store)
  | .mappings id => (.mappings (store.mappingsOf id), store)
  | .saveMapping id mapping => (.done, store.saveMapping id mapping)
  | .snapshot => (.snapshot store.snapshot, store)

/-- The store after calls. -/
def after (store : MemoryStore) (calls : List StoreCall) : MemoryStore :=
  calls.foldl (fun store call => (store.ask call).2) store

/-- What the store answers to calls, one after another. -/
def answers (store : MemoryStore) : List StoreCall → List StoreAnswer
  | [] => []
  | call :: calls => (store.ask call).1 :: (store.ask call).2.answers calls

/-- The store that is there before anything was kept, after some calls. -/
def Reachable (store : MemoryStore) : Prop := ∃ calls, after {} calls = store

/-! ### Mappings -/

theorem isListed_put {mappings : List (MarketplaceId × List CategoryMapping)}
    (h : Snapshot.IsListed mappings) (id : MarketplaceId) (list : List CategoryMapping) :
    Snapshot.IsListed (Keyed.put id list mappings) := by
  cases id
  -- there is one marketplace, so its mappings are all there are
  have hone : mappings = [] ∨ ∃ old, mappings = [(.etsy, old)] := by
    cases hget : Keyed.get? MarketplaceId.etsy mappings with
    | none =>
      left
      rw [← h]
      simp [hget]
    | some old =>
      right
      refine ⟨old, ?_⟩
      rw [← h]
      simp [MarketplaceId.all, hget]
  rcases hone with rfl | ⟨old, rfl⟩ <;> rfl

theorem isListed_ask {store : MemoryStore} (h : Snapshot.IsListed store.mappings)
    (call : StoreCall) : Snapshot.IsListed (store.ask call).2.mappings := by
  cases call with
  | saveMapping id mapping => exact isListed_put h id _
  | _ => exact h

theorem isListed_after {store : MemoryStore} (h : Snapshot.IsListed store.mappings)
    (calls : List StoreCall) : Snapshot.IsListed (store.after calls).mappings := by
  induction calls generalizing store with
  | nil => exact h
  | cons call calls ih => exact ih (isListed_ask h call)

theorem Reachable.isListed {store : MemoryStore} (h : store.Reachable) :
    Snapshot.IsListed store.mappings := by
  obtain ⟨calls, rfl⟩ := h
  have hempty : Snapshot.IsListed ({} : MemoryStore).mappings := rfl
  exact isListed_after hempty calls

/-! ### Restoring -/

theorem ofSnapshot_snapshot (store : MemoryStore) : ofSnapshot store.snapshot = store := by
  rw [ofSnapshot, snapshot, OrderBook.ofList_toList]

/-- A store that was restored from its document answers whatever it is asked as the store that was
written would have.  Counts are words of 64 bits, and the numeral of a floating-point number has to
stand for it. -/
theorem answers_restored {store : MemoryStore} (hreached : store.Reachable)
    (hfinite : ∀ x ∈ store.snapshot.floats, x.isFinite = true)
    (hnumerals : ∀ x ∈ store.snapshot.floats, (Json.Number.real x).ReadsBack)
    (htimes : ∀ t ∈ store.snapshot.times, t.HasForm)
    (hcounts : ∀ n ∈ store.snapshot.counts, n < UInt64.size)
    {layout : Json.Layout} (hlayout : layout.IsPlain) :
    ∃ snapshot : Snapshot,
      Decoder.decode? Snapshot.decoder
          (String.ofList (store.snapshot.toJson.write layout 0)) = some snapshot ∧
        ∀ calls, (ofSnapshot snapshot).answers calls = store.answers calls := by
  have hrestores : Snapshot.decoder.Restores 5 store.snapshot.toJson store.snapshot :=
    Snapshot.restores hreached.isListed hcounts htimes fun x hx => ⟨hfinite x hx, hnumerals x hx⟩
  refine ⟨store.snapshot, hrestores.decode?_write (by decide) hlayout 0, ?_⟩
  intro calls
  rw [ofSnapshot_snapshot]

/-- A result that was stopped early, the same one when it was kept again, an order with its lines,
another one with the same key, a new status, and a mapping. -/
def sampleCalls : List StoreCall :=
  let result : SyncResult :=
    { id := ⟨0x550e8400e29b41d4a716446655440000⟩, marketplace := .etsy, direction := .inbound,
      status := .running, total := 3, processed := 1, success := 0, failed := 1,
      errors := [{ sku := "A \"1\"", message := "no\nlisting", code := "marketplace.not_found" }],
      startedAt := ⟨1709251199, 999000000, by decide, by decide, by decide⟩, completedAt := none,
      interruption := none }
  let order : Order :=
    { externalId := "1001", marketplace := .etsy, status := "paid",
      total := Binary64.ofDecimal false 1245 (-1), customerName := "Zoë", deliveryAddress := "",
      deliveryCity := "Kraków",
      items := [{ externalId := "7", name := "Mug", quantity := 5,
                  price := Binary64.ofDecimal false 249 (-1) }],
      createdAt := ⟨-62167219200, 1, by decide, by decide, by decide⟩ }
  [.saveResult result,
    .saveResult
      { result with
        status := .failed
        completedAt := some .last
        interruption := some (.halted "marketplace.authentication") },
    .saveOrder order, .saveOrder { order with status := "open" },
    .setOrderStatus .etsy "1001" "completed",
    .saveMapping .etsy { shopCategoryId := "mugs", marketplaceCategoryId := "1062" }]

/-- The order is known after the store was restored, with its new status, and the result that was
stopped early is not one to go on from. -/
theorem answers_restored_sampleCalls :
    let store := after {} sampleCalls
    (∀ x ∈ store.snapshot.floats, x.isFinite = true) ∧
      (∀ x ∈ store.snapshot.floats, (Json.Number.real x).ReadsBack) ∧
      (∀ t ∈ store.snapshot.times, t.HasForm) ∧
      (∀ n ∈ store.snapshot.counts, n < UInt64.size) ∧
      ∃ snapshot : Snapshot,
        Decoder.decode? Snapshot.decoder store.snapshot.toJson.renderIndented = some snapshot ∧
          (∀ order : Order, ((ofSnapshot snapshot).answers
              [.saveOrder { order with externalId := "1001", marketplace := .etsy },
                .setOrderStatus .etsy "1001" "closed", .setOrderStatus .etsy "1002" "closed",
                .lastUninterrupted .etsy .inbound]) =
            [.flag false, .flag true, .flag false, .result none]) := by
  have hreached : Reachable (after {} sampleCalls) := ⟨sampleCalls, rfl⟩
  have hfinite : ∀ x ∈ (after {} sampleCalls).snapshot.floats, x.isFinite = true := by
    decide +kernel
  have hnumerals : ∀ x ∈ (after {} sampleCalls).snapshot.floats,
      (Json.Number.real x).ReadsBack := by
    decide +kernel
  have htimes : ∀ t ∈ (after {} sampleCalls).snapshot.times, t.HasForm := by decide +kernel
  have hcounts : ∀ n ∈ (after {} sampleCalls).snapshot.counts, n < UInt64.size := by decide +kernel
  obtain ⟨snapshot, hdecoded, hanswers⟩ :=
    answers_restored hreached hfinite hnumerals htimes hcounts Json.Layout.isPlain_indented
  refine ⟨hfinite, hnumerals, htimes, hcounts, snapshot, hdecoded, ?_⟩
  intro order
  rw [hanswers]
  rfl

end MemoryStore

end ShopSync
