import Mathlib.Tactic
import ShopSync.Proofs.Server
import ShopSync.Proofs.Sync.Failure
import ShopSync.Proofs.Sync.OrderBook

/-!
What an import takes in.

Of the orders that a marketplace gives, those are new whose key is neither in the store nor carried
by an earlier one of them.  An import gives exactly these and puts exactly these into the store; the
orders that were there stay as they are, and the result counts all that came
(`importOrders_accounts`).
-/

namespace ShopSync

/-! ### New orders -/

namespace OrderBook

/-- The order has a key that is neither in the book nor carried by an earlier order. -/
def isNew (book : OrderBook) (earlier : List Order) (order : Order) : Bool :=
  !book.contains order.key && earlier.all fun o => decide (o.key ≠ order.key)

/-- The orders of a list that are new to a book. -/
def newAmong (book : OrderBook) (orders : List Order) : List Order :=
  (orders.zipIdx.filter fun (order, n) => book.isNew (orders.take n) order).map Prod.fst

variable {book : OrderBook} {order : Order} {orders : List Order}

theorem contains_foldl_insert (book : OrderBook) (orders : List Order)
    (key : MarketplaceId × String) :
    (orders.foldl insert book).contains key =
      (book.contains key || orders.any fun o => decide (o.key = key)) := by
  have hfound : (orders.find? fun o => decide (o.key = key)).isSome =
      orders.any fun o => decide (o.key = key) := by
    rw [Bool.eq_iff_iff, List.find?_isSome, List.any_eq_true]
  rw [contains, get?_foldl_insert, Option.isSome_or, hfound, contains]

theorem not_contains_foldl_insert (book : OrderBook) (earlier : List Order) (order : Order) :
    (!(earlier.foldl insert book).contains order.key) = book.isNew earlier order := by
  rw [contains_foldl_insert, isNew, Bool.not_or, List.not_any_eq_all_not]
  simp only [decide_not]

theorem insert_of_contains (h : book.contains order.key = true) : book.insert order = book := by
  obtain ⟨o, ho⟩ := Option.isSome_iff_exists.1 h
  refine ext_get? fun key => ?_
  rw [get?_insert]
  by_cases hkey : order.key = key
  · rw [← hkey, ho, Option.some_or]
  · rw [if_neg hkey, Option.or_none]

theorem perm_insert (h : book.contains order.key = false) :
    (book.insert order).toList.Perm (order :: book.toList) := by
  have hall : ∀ orders : List Order, (∀ o ∈ orders, o.key ≠ order.key) →
      (order.insertNew orders).Perm (order :: orders) := by
    intro orders
    induction orders with
    | nil => exact fun _ => .refl _
    | cons o rest ih =>
      intro hne
      rw [List.forall_mem_cons] at hne
      rw [Order.insertNew, if_neg hne.1]
      split
      · exact .refl _
      · exact ((ih hne.2).cons o).trans (.swap order o rest)
  refine hall book.toList fun o ho hkey => ?_
  have hfound := mem_toList_iff.1 ho
  rw [contains, ← hkey, hfound] at h
  cases h

theorem isNew_iff {earlier : List Order} :
    book.isNew earlier order = true ↔
      book.contains order.key = false ∧ ∀ o ∈ earlier, o.key ≠ order.key := by
  rw [isNew, Bool.and_eq_true, Bool.not_eq_true', List.all_eq_true]
  simp only [decide_eq_true_eq]

theorem newAmong_sublist (book : OrderBook) (orders : List Order) :
    (book.newAmong orders).Sublist orders := by
  have h : (book.newAmong orders).Sublist (orders.zipIdx.map Prod.fst) :=
    List.filter_sublist.map Prod.fst
  rwa [List.zipIdx_map_fst] at h

/-- As many orders are new as there are when none of their keys is in the book and no two of them
have the same. -/
theorem length_newAmong_eq_iff :
    (book.newAmong orders).length = orders.length ↔
      (∀ o ∈ orders, book.contains o.key = false) ∧ orders.Pairwise fun a b => a.key ≠ b.key := by
  have hall : (book.newAmong orders).length = orders.length ↔
      ∀ x ∈ orders.zipIdx, book.isNew (orders.take x.2) x.1 = true := by
    rw [← List.length_filter_eq_length_iff, newAmong, List.length_map, List.length_zipIdx]
  rw [hall, List.forall_mem_zipIdx', List.forall_mem_iff_getElem, List.pairwise_iff_getElem]
  simp only [isNew_iff, List.mem_take_iff_getElem]
  constructor
  · intro h
    refine ⟨fun i hi => (h i hi).1, fun i j hi hj hlt => ?_⟩
    exact (h j hj).2 _ ⟨i, Nat.lt_min.2 ⟨hlt, hi⟩, rfl⟩
  · rintro ⟨hfree, hdistinct⟩ j hj
    refine ⟨hfree j hj, ?_⟩
    rintro o ⟨i, hi, rfl⟩
    exact hdistinct i j (Nat.lt_min.1 hi).2 hj (Nat.lt_min.1 hi).1

theorem newAmong_of_contains (h : ∀ o ∈ orders, book.contains o.key = true) :
    book.newAmong orders = [] := by
  rw [newAmong, List.map_eq_nil_iff, List.filter_eq_nil_iff]
  rintro ⟨o, n⟩ hmem
  have ho : o ∈ orders := List.mem_of_getElem? (List.mem_zipIdx_iff_getElem?.1 hmem)
  simp [isNew, h o ho]

theorem foldl_insert_of_contains (h : ∀ o ∈ orders, book.contains o.key = true) :
    orders.foldl insert book = book := by
  induction orders with
  | nil => rfl
  | cons o rest ih =>
    rw [List.forall_mem_cons] at h
    rw [List.foldl_cons, insert_of_contains h.1, ih h.2]

end OrderBook

namespace MemoryStore

open OrderBook

variable (store : MemoryStore)

/-- The orders that are new when they are taken in one after another. -/
theorem saveOrders_fst (orders : List Order) :
    (store.saveOrders orders).1 = store.orders.newAmong orders := by
  -- behind some orders the book is the one into which those were taken
  have hbehind : ∀ (rest earlier : List Order) (store' : MemoryStore),
      store'.orders = earlier.foldl insert store.orders →
      (store'.saveOrders rest).1 = ((rest.zipIdx earlier.length).filter fun (order, n) =>
        store.orders.isNew ((earlier ++ rest).take n) order).map Prod.fst := by
    intro rest
    induction rest with
    | nil => exact fun _ _ _ => rfl
    | cons order rest ih =>
      intro earlier store' hbook
      have hrest := ih (earlier ++ [order]) (store'.saveOrder order).2
        (by rw [List.foldl_append, ← hbook]; rfl)
      rw [List.length_append, List.length_singleton, List.append_assoc,
        List.singleton_append] at hrest
      have hnew : (store'.saveOrder order).1 = store.orders.isNew earlier order := by
        rw [← not_contains_foldl_insert, ← hbook]
        rfl
      rw [saveOrders]
      dsimp only
      rw [hrest, hnew, List.zipIdx_cons, List.filter_cons]
      dsimp only
      rw [List.take_left]
      cases store.orders.isNew earlier order <;> rfl
  exact hbehind orders [] store rfl

theorem perm_saveOrders (orders : List Order) :
    (store.saveOrders orders).2.orders.toList.Perm
      (store.orders.toList ++ (store.saveOrders orders).1) := by
  induction orders generalizing store with
  | nil => simp [saveOrders]
  | cons order rest ih =>
    have hrest := ih (store.saveOrder order).2
    rw [saveOrders]
    dsimp only
    cases hknown : store.orders.contains order.key with
    | true =>
      have hsame : (store.saveOrder order).2.orders = store.orders := insert_of_contains hknown
      have hold : (store.saveOrder order).1 = false := by simp [saveOrder, hknown]
      rw [hsame] at hrest
      rwa [hold]
    | false =>
      have hnew : (store.saveOrder order).1 = true := by simp [saveOrder, hknown]
      rw [hnew, if_pos rfl]
      refine hrest.trans ?_
      exact ((perm_insert hknown).append_right _).trans List.perm_middle.symm

end MemoryStore

/-! ### Imports -/

/-- All of so many items were taken in. -/
structure SyncResult.IsFull (result : SyncResult) (count : Nat) : Prop where
  status : result.status = .completed
  total : result.total = count
  processed : result.processed = count
  success : result.success = count
  failed : result.failed = 0
  errors : result.errors = []

namespace Service

variable {α σ : Type} (service : Service α MemoryStore)

section Imported

variable (id : MarketplaceId) (since : Timestamp) (orders : List Order) (resultId : Uuid)
  (started ended : Timestamp) (reason : Option Interruption)

theorem contains_imported {key : MarketplaceId × String} (h : ∃ o ∈ orders, o.key = key) :
    (service.imported id since orders resultId started ended reason).2.store.orders.contains key =
      true := by
  have hkey : (orders.any fun o => decide (o.key = key)) = true := by simpa using h
  rw [store_imported, MemoryStore.saveResult, OrderBook.contains_foldl_insert, hkey, Bool.or_true]

/-- Under an id that no result has, the result comes behind those that are there. -/
theorem imported_of_fresh (h : resultId ∉ service.store.results.map SyncResult.id) :
    (service.imported id since orders resultId started ended reason).2 =
      { service with
        store := { service.store with
          orders :=
            (service.imported id since orders resultId started ended reason).2.store.orders
          results := service.store.results ++
            [(service.imported id since orders resultId started ended reason).1.result] } } := by
  have hresults : Keyed.upsertBy SyncResult.id
      (SyncResult.ofImport resultId id orders.length started ended reason) service.store.results =
        service.store.results ++ [.ofImport resultId id orders.length started ended reason] :=
    Keyed.upsertBy_of_notMem h
  have hstore := service.store_imported id since orders resultId started ended reason
  rw [MemoryStore.saveResult, hresults] at hstore
  calc (service.imported id since orders resultId started ended reason).2
      = { service with store :=
          (service.imported id since orders resultId started ended reason).2.store } := rfl
    _ = _ := by
      rw [hstore]
      rfl

end Imported

variable [Marketplace α] (world : World σ)

/-- What the adapter gives to an import, which asks it once it found where to start and looked at
the clocks. -/
def fetched (adapter : α) (id : MarketplaceId) (since : Option Timestamp) (signal : Signal)
    (s : σ) : Except MarketError (List Order) :=
  let found := (service.startOf id since).run world s
  let looked := Dialogue.moment.run world found.2
  ((Marketplace.importOrders adapter found.1 signal).run.run world looked.2).1

variable {service world} {adapter : α} {id : MarketplaceId} {since : Option Timestamp}
  {signal : Signal} {s : σ} {orders : List Order}

theorem run_importOrders (hready : service.registry.findReady id = .ok adapter)
    (hfetched : service.fetched world adapter id since signal s = .ok orders) :
    ∃ (start : Timestamp) (resultId : Uuid) (started ended : Timestamp)
      (reason : Option Interruption) (s' : σ),
      ((importOrders id since signal).on service).run world s =
        ((.ok (service.imported id start orders resultId started ended reason).1,
          (service.imported id start orders resultId started ended reason).2), s') := by
  rw [on_importOrders, hready]
  dsimp only
  rw [Dialogue.run_bind]
  dsimp only [fetched] at hfetched
  unfold importSince
  rw [Dialogue.run_bind, Dialogue.run_bind, hfetched]
  exact ⟨_, _, _, _, _, _, rfl⟩

theorem run_importOrders_of_contains (hready : service.registry.findReady id = .ok adapter)
    (hfetched : service.fetched world adapter id since signal s = .ok orders)
    (hknown : ∀ o ∈ orders, service.store.orders.contains o.key = true) :
    ∃ (i : OrderImport) (after : Service α MemoryStore) (s' : σ),
      ((importOrders id since signal).on service).run world s = ((.ok i, after), s') ∧
      i.newOrders = [] ∧ i.duplicates = orders.length ∧
      after.store.orders = service.store.orders := by
  obtain ⟨start, resultId, started, ended, reason, s', hrun⟩ := run_importOrders hready hfetched
  have hnone : (service.store.saveOrders orders).1 = [] := by
    rw [MemoryStore.saveOrders_fst, OrderBook.newAmong_of_contains hknown]
  have hstore := service.store_imported id start orders resultId started ended reason
  rw [OrderBook.foldl_insert_of_contains hknown] at hstore
  refine ⟨_, _, s', hrun, hnone, ?_, ?_⟩
  · change orders.length - (service.store.saveOrders orders).1.length = orders.length
    rw [hnone, List.length_nil, Nat.sub_zero]
  · rw [hstore]
    rfl

/-- **What an import takes in.**  For every store and all orders that an adapter gives, an import
gives those that are new, in their order, and counts the others; its result is a full one.  The
store has the orders it had and the new ones, and its results are followed by this one when its id
is fresh; nothing else changes.  A later import of orders with the same keys gives none and leaves
the orders as they are. -/
theorem importOrders_accounts (world : World σ) (service : Service α MemoryStore) (adapter : α)
    (id : MarketplaceId) (since : Option Timestamp) (signal : Signal) (s : σ) (orders : List Order)
    (hready : service.registry.findReady id = .ok adapter)
    (hfetched : service.fetched world adapter id since signal s = .ok orders) :
    ∃ (i : OrderImport) (after : Service α MemoryStore) (s' : σ),
      ((importOrders id since signal).on service).run world s = ((.ok i, after), s') ∧
      i.newOrders = service.store.orders.newAmong orders ∧
      i.duplicates + i.newOrders.length = orders.length ∧
      i.result.IsFull orders.length ∧
      after.store.orders.toList.Perm (service.store.orders.toList ++ i.newOrders) ∧
      (i.result.id ∉ service.store.results.map SyncResult.id →
        after = { service with
          store := { service.store with
            orders := after.store.orders
            results := service.store.results ++ [i.result] } }) ∧
      ∀ (since' : Option Timestamp) (signal' : Signal) (t : σ) (orders' : List Order),
        after.fetched world adapter id since' signal' t = .ok orders' →
        (∀ o' ∈ orders', ∃ o ∈ orders, o.key = o'.key) →
        ∃ (i' : OrderImport) (after' : Service α MemoryStore) (t' : σ),
          ((importOrders id since' signal').on after).run world t = ((.ok i', after'), t') ∧
          i'.newOrders = [] ∧ i'.duplicates = orders'.length ∧
          after'.store.orders = after.store.orders := by
  obtain ⟨start, resultId, started, ended, reason, s', hrun⟩ := run_importOrders hready hfetched
  have hnew := service.store.saveOrders_fst orders
  refine ⟨_, _, s', hrun, hnew, ?_, ⟨rfl, rfl, rfl, rfl, rfl, rfl⟩,
    service.store.perm_saveOrders orders,
    service.imported_of_fresh id start orders resultId started ended reason, ?_⟩
  · have hle : (service.store.saveOrders orders).1.length ≤ orders.length := by
      rw [hnew]
      exact (service.store.orders.newAmong_sublist orders).length_le
    exact Nat.sub_add_cancel hle
  · intro since' signal' t orders' hfetched' hkeys
    have hready' : (service.imported id start orders resultId started ended
        reason).2.registry.findReady id = .ok adapter := hready
    refine run_importOrders_of_contains hready' hfetched' fun o' ho' => ?_
    exact service.contains_imported id start orders resultId started ended reason (hkeys o' ho')

/-- A world in which every page has the receipts 7, 8 and once more 8. -/
def repeatingWorld : World (Visit Unit) :=
  let receipt (id : String) := "\x7b\"receipt_id\":" ++ id ++ "\x7d"
  let receipts := String.intercalate "," (["7", "8", "8"].map receipt)
  Server.world (fun _ s => (.ok (.ok ("\x7b\"results\":[" ++ receipts ++ "]\x7d")), s))
    (still fun _ => [])

/-- A service that sent order 7 takes order 8 in once, and the second time nothing. -/
theorem importOrders_accounts_repeatingWorld :
    let start : Visit Unit := { state := (), past := [] }
    let course (service : EtsyService) :=
      ((importOrders .etsy (some .epoch) { token := 0 }).on service).run repeatingWorld start
    ∃ i after s', course ServiceCall.soldService = ((.ok i, after), s') ∧
      i.newOrders.map Order.externalId = ["8"] ∧ i.duplicates = 2 ∧
      ServiceCall.soldService.store.orders.toList ⊆ after.store.orders.toList ∧
      ∃ i' after' s'', course after = ((.ok i', after'), s'') ∧
        i'.newOrders = [] ∧ i'.duplicates = 3 ∧ after'.store.orders = after.store.orders := by
  intro start course
  have hfacts : (ServiceCall.soldService.fetched repeatingWorld { config := some Etsy.sampleConfig }
      .etsy (some .epoch) { token := 0 } start).toOption.map
        (fun orders => (orders.length,
          (ServiceCall.soldService.store.orders.newAmong orders).map Order.externalId)) =
            some (3, ["8"]) := by
    decide +kernel
  rcases hfetched : ServiceCall.soldService.fetched repeatingWorld
      { config := some Etsy.sampleConfig } .etsy (some .epoch) { token := 0 } start with e | orders
  · rw [hfetched] at hfacts
    cases hfacts
  rw [hfetched] at hfacts
  obtain ⟨hlength, hids⟩ := Prod.mk.inj (Option.some.inj hfacts)
  obtain ⟨i, after, s', hrun, hnew, hduplicates, -, hperm, -, hagain⟩ :=
    importOrders_accounts repeatingWorld ServiceCall.soldService
      { config := some Etsy.sampleConfig } .etsy (some .epoch) { token := 0 } start orders rfl
      hfetched
  rw [← hnew] at hids
  obtain ⟨i', after', s'', hrun', hnone, hduplicates', horders⟩ :=
    hagain (some .epoch) { token := 0 } start orders hfetched fun o ho => ⟨o, ho, rfl⟩
  have hcount : i.newOrders.length = 1 := by
    rw [← List.length_map Order.externalId, hids]
    rfl
  refine ⟨i, after, s', hrun, hids, by omega, ?_, i', after', s'', hrun', hnone,
    hduplicates'.trans hlength, horders⟩
  intro o ho
  exact hperm.mem_iff.2 (List.mem_append_left _ ho)

end Service

end ShopSync
