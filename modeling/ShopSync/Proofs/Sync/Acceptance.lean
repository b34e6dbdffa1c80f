import Mathlib.Tactic
import ShopSync.Proofs.Json.Accept
import ShopSync.Proofs.Json.Yield
import ShopSync.Proofs.Sync.Persistence

/-!
Documents that are accepted.

A snapshot is sound when its counts are words, its times have a form and the numbers that it keeps
are finite.  The document of a sound snapshot is read as a snapshot again exactly when every line
total is finite: totals are not kept but written, and there is no numeral for one that is not
finite.  Whatever a document is read as is sound.
-/

namespace ShopSync

open Json (Decoder Value)
open Json.Decoder (Fields)

variable {size : Nat}

theorem Timestamp.yields_decoder : Timestamp.decoder.Yields size HasForm :=
  Decoder.yields_parsed fun _ _ h => hasForm_of_parse h

/-! ### Results -/

/-- The counts are words and the times have a form. -/
structure SyncResult.IsSound (result : SyncResult) : Prop where
  counts : ∀ n ∈ result.counts, n < UInt64.size
  times : ∀ t ∈ result.times, t.HasForm

theorem SyncResult.yields_decoder : SyncResult.decoder.Yields size SyncResult.IsSound := by
  apply Decoder.yields_record
  intro fs result hfs h
  simp only [Option.bind_eq_bind, Option.bind_eq_some_iff] at h
  obtain ⟨id, -, marketplace, -, direction, -, status, -, total, htotal, processed, hprocessed,
    success, hsuccess, failed, hfailed, errors, -, startedAt, hstarted, completedAt, hcompleted,
    interruption, -, heq⟩ := h
  cases heq
  constructor
  · have hcount {name : String} {n : Nat} (h : fs.required name Decoder.count = some n) :
        n < UInt64.size := by
      have := hfs.required Decoder.yields_count h
      exact this
    simp only [counts, List.forall_mem_cons]
    exact ⟨hcount htotal, hcount hprocessed, hcount hsuccess, hcount hfailed,
      List.forall_mem_nil _⟩
  · refine List.forall_mem_cons.2 ⟨hfs.required Timestamp.yields_decoder hstarted, ?_⟩
    intro t ht
    exact hfs.optional Timestamp.yields_decoder hcompleted t (Option.mem_toList.1 ht)

/-! ### Orders -/

theorem OrderItem.accepts {item : OrderItem} (hprice : item.price.isFinite = true) :
    OrderItem.decoder.Accepts 1 item.toJson (item.total.isFinite = true) := by
  have hquantity := Decoder.restores_uint32 item.quantity
  have hpriceAccepts := Decoder.accepts_real item.price
  have htotal := Decoder.accepts_real item.total
  refine Decoder.accepts_record (by simp) ?_ ?_
  · simp [hquantity.accepts.numerals, hpriceAccepts.numerals, htotal.numerals, Value.HasNumerals]
  · intro room hroom
    rw [Fields.required_ofWritten rfl (Decoder.restores_text item.externalId) rfl hroom,
      Fields.required_ofWritten rfl (Decoder.restores_text item.name) rfl hroom,
      Fields.required_ofWritten rfl hquantity rfl hroom]
    simp only [Option.bind_eq_bind, Option.bind_some]
    refine Decoder.isSome_bind_of_isSome
      ((Fields.isSome_required_ofWritten rfl hpriceAccepts rfl hroom).2 hprice) fun _ => ?_
    exact Decoder.isSome_bind_of_forall
      (Fields.isSome_withDefault_ofWritten _ rfl htotal rfl hroom) fun _ => rfl

theorem OrderItem.yields_decoder :
    OrderItem.decoder.Yields size fun item => item.price.isFinite = true := by
  apply Decoder.yields_record
  intro fs item hfs h
  simp only [Option.bind_eq_bind, Option.bind_eq_some_iff] at h
  obtain ⟨externalId, -, name, -, quantity, -, price, hprice, total, -, heq⟩ := h
  have hfinite := hfs.required Decoder.yields_real hprice
  cases heq
  exact hfinite

namespace Order

/-- Every line total is finite. -/
def HasTotals (order : Order) : Prop := ∀ item ∈ order.items, item.total.isFinite = true

instance (order : Order) : Decidable order.HasTotals := by unfold HasTotals; infer_instance

/-- The total and the prices are finite, and the time has a form. -/
structure IsSound (order : Order) : Prop where
  total : order.total.isFinite = true
  prices : ∀ item ∈ order.items, item.price.isFinite = true
  createdAt : order.createdAt.HasForm

theorem accepts {order : Order} (h : order.IsSound) :
    Order.decoder.Accepts 3 order.toJson order.HasTotals := by
  have htotal := Decoder.accepts_real order.total
  have hitems : (Decoder.list OrderItem.decoder).Accepts 2
      (.ofList OrderItem.toJson order.items) order.HasTotals :=
    Decoder.accepts_list fun item hitem => OrderItem.accepts (h.prices item hitem)
  refine Decoder.accepts_record (by simp) ?_ ?_
  · simp [htotal.numerals, hitems.numerals, Value.HasNumerals, MarketplaceId.toJson, Timestamp.toJson]
  · intro room hroom
    rw [Fields.required_ofWritten rfl (Decoder.restores_text order.externalId) rfl (by omega),
      Fields.required_ofWritten rfl order.marketplace.restores rfl (by omega),
      Fields.required_ofWritten rfl (Decoder.restores_text order.status) rfl (by omega),
      Fields.required_ofWritten rfl (Decoder.restores_text order.customerName) rfl (by omega),
      Fields.required_ofWritten rfl (Decoder.restores_text order.deliveryAddress) rfl (by omega),
      Fields.required_ofWritten rfl (Decoder.restores_text order.deliveryCity) rfl (by omega),
      Fields.required_ofWritten rfl (Timestamp.restores h.createdAt) rfl (by omega)]
    simp only [Option.bind_eq_bind, Option.bind_some]
    refine Decoder.isSome_bind_of_isSome
      ((Fields.isSome_required_ofWritten rfl htotal rfl (by omega)).2 h.total) fun _ => ?_
    exact Decoder.isSome_bind_of_forall
      (Fields.isSome_required_ofWritten rfl hitems rfl (by omega)) fun _ => rfl

theorem yields_decoder : Order.decoder.Yields size IsSound := by
  apply Decoder.yields_record
  intro fs order hfs h
  simp only [Option.bind_eq_bind, Option.bind_eq_some_iff] at h
  obtain ⟨externalId, -, marketplace, -, status, -, total, htotal, customerName, -,
    deliveryAddress, -, deliveryCity, -, items, hitems, createdAt, hcreated, heq⟩ := h
  have hfinite := hfs.required Decoder.yields_real htotal
  have hprices := hfs.required OrderItem.yields_decoder.list hitems
  have htime := hfs.required Timestamp.yields_decoder hcreated
  cases heq
  exact ⟨hfinite, hprices.2, htime⟩

end Order

/-! ### Snapshots -/

namespace Snapshot

/-- The results and the orders are sound, and the mappings are listed. -/
structure IsSound (snapshot : Snapshot) : Prop where
  results : ∀ result ∈ snapshot.results, result.IsSound
  orders : ∀ order ∈ snapshot.orders, order.IsSound
  listed : IsListed snapshot.mappings

theorem accepts {snapshot : Snapshot} (h : snapshot.IsSound) :
    Snapshot.decoder.Accepts 5 snapshot.toJson (∀ order ∈ snapshot.orders, order.HasTotals) := by
  have hresults : (Decoder.list SyncResult.decoder).Restores 4
      (.ofList SyncResult.toJson snapshot.results) snapshot.results :=
    Decoder.restores_list fun result hresult =>
      SyncResult.restores (h.results result hresult).counts (h.results result hresult).times
  have horders : (Decoder.list Order.decoder).Accepts 4
      (.ofList Order.toJson snapshot.orders) (∀ order ∈ snapshot.orders, order.HasTotals) :=
    Decoder.accepts_list fun order horder => Order.accepts (h.orders order horder)
  have hmappings := restores_mappings h.listed
  refine Decoder.accepts_record (by simp) ?_ ?_
  · simp [hresults.accepts.numerals, horders.numerals, hmappings.accepts.numerals]
  · intro room hroom
    rw [Fields.withDefault_ofWritten _ rfl hresults rfl hroom,
      Fields.withDefault_ofWritten _ rfl hmappings rfl (by omega)]
    simp only [Option.bind_eq_bind, Option.bind_some]
    exact Decoder.isSome_bind_of_forall
      (Fields.isSome_withDefault_ofWritten _ rfl horders rfl hroom) fun _ => rfl

/-- The document of a sound snapshot is read as a snapshot exactly when every line total is
finite. -/
theorem isSome_decode?_renderIndented {snapshot : Snapshot} (h : snapshot.IsSound) :
    (Decoder.decode? Snapshot.decoder snapshot.toJson.renderIndented).isSome ↔
      ∀ order ∈ snapshot.orders, order.HasTotals :=
  (accepts h).isSome_decode?_write (by decide) Json.Layout.isPlain_indented 0

/-- Of a tag that is repeated the last mappings count, so they stay listed. -/
theorem yields_mappingsDecoder : mappingsDecoder.Yields size IsListed := by
  have hfold {room : Nat} (ms : List (Option String × Json.Tree))
      {found mappings : List (MarketplaceId × List CategoryMapping)} (hfound : IsListed found)
      (h : (ms.foldlM (fun found m => do
        let id ← MarketplaceId.ofTag? (← m.1)
        let list ← Decoder.list CategoryMapping.decoder room m.2
        pure (Keyed.put id list found)) found) = some mappings) : IsListed mappings := by
    induction ms generalizing found with
    | nil =>
      cases h
      exact hfound
    | cons m ms ih =>
      rw [List.foldlM_cons] at h
      obtain ⟨next, hnext, h⟩ := Option.bind_eq_some_iff.1 h
      obtain ⟨key, -, hnext⟩ := Option.bind_eq_some_iff.1 hnext
      obtain ⟨id, -, hnext⟩ := Option.bind_eq_some_iff.1 hnext
      obtain ⟨list, -, hnext⟩ := Option.bind_eq_some_iff.1 hnext
      cases hnext
      exact ih (MemoryStore.isListed_put hfound id list) h
  intro room t mappings _ h
  unfold mappingsDecoder at h
  split at h
  · have hempty : IsListed [] := rfl
    exact hfold _ hempty h
  · cases h

theorem yields_decoder : Snapshot.decoder.Yields size IsSound := by
  apply Decoder.yields_record
  intro fs snapshot hfs h
  simp only [Option.bind_eq_bind, Option.bind_eq_some_iff] at h
  obtain ⟨results, hresults, orders, horders, mappings, hmappings, heq⟩ := h
  have hresultsSound := hfs.withDefault ⟨Nat.zero_le size, List.forall_mem_nil _⟩
    SyncResult.yields_decoder.list hresults
  have hordersSound := hfs.withDefault ⟨Nat.zero_le size, List.forall_mem_nil _⟩
    Order.yields_decoder.list horders
  have hempty : IsListed [] := rfl
  have hlisted := hfs.withDefault hempty yields_mappingsDecoder hmappings
  cases heq
  exact ⟨hresultsSound.2, hordersSound.2, hlisted⟩

theorem isSound_of_decode? {text : String} {snapshot : Snapshot}
    (h : Decoder.decode? Snapshot.decoder text = some snapshot) : snapshot.IsSound :=
  yields_decoder.of_decode? h

end Snapshot

end ShopSync
