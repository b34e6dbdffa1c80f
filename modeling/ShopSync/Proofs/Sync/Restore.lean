import ShopSync.Proofs.Sync.Persistence

/-!
Snapshots that were put together elsewhere.

The orders of a snapshot may stand in any order and share their keys.  The store that is restored
from it holds the first order of every key, and its own snapshot lists them by their keys, in
whatever order a table of them would list them; results and mappings stay as they were.  That
snapshot is in its final form: restoring from it changes nothing more (`snapshot_ofSnapshot`).
-/

namespace ShopSync.MemoryStore

/-- **A snapshot is put in order once.**  Restoring from a snapshot keeps its results and mappings,
and of its orders the first one of every key, in the strict order of the keys; a table of these
orders, however it lists them, gives the same list when it is sorted.  Restoring once more changes
nothing. -/
theorem snapshot_ofSnapshot (given : Snapshot) :
    let settled := (ofSnapshot given).snapshot
    settled.results = given.results ∧ settled.mappings = given.mappings ∧
      settled.orders.Pairwise (fun a b => Order.KeyLt a.key b.key) ∧
      (∀ order, order ∈ settled.orders ↔ Keyed.IsFirst Order.key given.orders order) ∧
      (∀ table : List Order, table.Nodup →
        (∀ order, order ∈ table ↔ Keyed.IsFirst Order.key given.orders order) →
          table.mergeSort Order.keyLE = settled.orders) ∧
      (ofSnapshot settled).snapshot = settled := by
  intro settled
  have hmem (order : Order) :
      order ∈ settled.orders ↔ Keyed.IsFirst Order.key given.orders order :=
    OrderBook.mem_ofList_iff
  refine ⟨rfl, rfl, (OrderBook.ofList given.orders).sorted, hmem, ?_, ?_⟩
  · intro table hnodup htable
    refine OrderBook.mergeSort_eq_toList hnodup fun order => ?_
    rw [htable]
    exact (hmem order).symm
  · rw [ofSnapshot_snapshot]

/-- An order that says nothing but its identifier and its status. -/
def plainOrder (externalId status : String) : Order where
  externalId
  marketplace := .etsy
  status
  total := Number.Binary64.zero
  customerName := ""
  deliveryAddress := ""
  deliveryCity := ""
  items := []
  createdAt := .epoch

/-- Two orders that stand the wrong way round, and the first one again with another status. -/
def repeatedOrders : List Order :=
  [plainOrder "2" "paid", plainOrder "1" "open", plainOrder "2" "open"]

/-- The later order with the identifier is left out and the other two are put in order, as they are
when a table lists them the other way round. -/
theorem snapshot_ofSnapshot_repeatedOrders :
    let table := [plainOrder "2" "paid", plainOrder "1" "open"]
    let settled := (ofSnapshot { orders := repeatedOrders }).snapshot
    settled.orders = [plainOrder "1" "open", plainOrder "2" "paid"] ∧ table.Nodup ∧
      (∀ order, order ∈ table ↔ Keyed.IsFirst Order.key repeatedOrders order) ∧
      table.mergeSort Order.keyLE = settled.orders ∧
      (ofSnapshot settled).snapshot = settled := by
  intro table settled
  have hsettled : settled.orders = [plainOrder "1" "open", plainOrder "2" "paid"] := by
    decide +kernel
  have hnodup : table.Nodup := by decide +kernel
  obtain ⟨-, -, -, hmem, hsort, hagain⟩ := snapshot_ofSnapshot { orders := repeatedOrders }
  have htable (order : Order) :
      order ∈ table ↔ Keyed.IsFirst Order.key repeatedOrders order := by
    rw [← hmem order]
    change _ ↔ order ∈ settled.orders
    rw [hsettled]
    simp only [table, List.mem_cons, List.not_mem_nil, or_false]
    exact or_comm
  exact ⟨hsettled, hnodup, htable, hsort table hnodup htable, hagain⟩

end ShopSync.MemoryStore
