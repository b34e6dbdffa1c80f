import Mathlib.Tactic
import ShopSync.Proofs.Json.Restore
import ShopSync.Proofs.Timestamp
import ShopSync.Proofs.Uuid
import ShopSync.Sync.Store

/-!
The document of a snapshot.

A snapshot is restored from its document when its numbers and times are ones a document has room
for: times in the years 0 to 9999, counts of 64 bits, and finite floating-point numbers, whose
numerals have to stand for them.  Line totals are among the latter, since they are written although
nothing reads them.
-/

namespace ShopSync

open Number (Binary64)
open Json (Decoder Value)
open Json.Decoder (Fields)

/-- A number that is written and reads back. -/
def Number.Binary64.IsWritable (x : Binary64) : Prop :=
  x.isFinite = true ∧ (Json.Number.real x).ReadsBack

theorem Number.Binary64.IsWritable.restores {x : Binary64} (h : x.IsWritable) :
    Decoder.real.Restores 0 (.ofReal x) x :=
  Decoder.restores_real h.1 h.2

/-! ### Names and texts -/

theorem Uuid.restores (id : Uuid) : Uuid.decoder.Restores 0 id.toJson id where
  readable := trivial
  reads _ _ := by
    change (some id.text).bind parse? = some id
    rw [Option.bind_some, parse?_text]

theorem Timestamp.restores {t : Timestamp} (h : t.HasForm) :
    Timestamp.decoder.Restores 0 t.toJson t :=
  Decoder.restores_parsed (Timestamp.parse_text h)

theorem Timestamp.toJson_ne_null (t : Timestamp) : t.toJson ≠ .null := nofun

theorem MarketplaceId.restores (id : MarketplaceId) :
    MarketplaceId.decoder.Restores 0 id.toJson id :=
  Decoder.restores_choice (by cases id; rfl)

theorem Direction.restores (direction : Direction) :
    Direction.decoder.Restores 0 direction.toJson direction :=
  Decoder.restores_choice (by cases direction <;> rfl)

theorem SyncStatus.restores (status : SyncStatus) :
    SyncStatus.decoder.Restores 0 status.toJson status :=
  Decoder.restores_choice (by cases status <;> rfl)

/-! ### Results -/

theorem ItemError.restores (e : ItemError) : ItemError.decoder.Restores 1 e.toJson e := by
  refine Decoder.restores_record (by simp) (by simp [Value.Readable]) ?_
  intro room hroom
  rw [Fields.required_ofMembers rfl (Decoder.restores_text e.sku) rfl hroom,
    Fields.required_ofMembers rfl (Decoder.restores_text e.message) rfl hroom,
    Fields.required_ofMembers rfl (Decoder.restores_text e.code) rfl hroom]
  rfl

theorem Interruption.restores (interruption : Interruption) :
    Interruption.decoder.Restores 1 interruption.toJson interruption := by
  apply Decoder.restores_succ
  · cases interruption <;> simp [toJson, Value.Readable, Json.ReadableMembers]
  · intro room _
    cases interruption <;> rfl

theorem Interruption.toJson_ne_null (interruption : Interruption) :
    interruption.toJson ≠ .null := by
  cases interruption <;> exact nofun

namespace SyncResult

/-- The counts of a result. -/
def counts (result : SyncResult) : List Nat :=
  [result.total, result.processed, result.success, result.failed]

/-- The times of a result. -/
def times (result : SyncResult) : List Timestamp :=
  result.startedAt :: result.completedAt.toList

/-- A result is restored when its counts are words and its times have a form. -/
theorem restores {result : SyncResult} (hcounts : ∀ n ∈ result.counts, n < UInt64.size)
    (htimes : ∀ t ∈ result.times, t.HasForm) :
    SyncResult.decoder.Restores 3 result.toJson result := by
  obtain ⟨id, marketplace, direction, status, total, processed, success, failed, errors, startedAt,
    completedAt, interruption⟩ := result
  simp only [counts, times, List.forall_mem_cons] at hcounts htimes
  obtain ⟨htotal, hprocessed, hsuccess, hfailed, -⟩ := hcounts
  have hcompleted (t : Timestamp) (h : completedAt = some t) : t.HasForm :=
    htimes.2 t (by simp [h])
  have herrors := Decoder.restores_list fun e (_ : e ∈ errors) => e.restores
  refine Decoder.restores_record ?_ ?_ ?_
  · cases completedAt <;> cases interruption <;> simp [Value.optionalMember]
  · have hreason (i : Interruption) := i.restores.readable
    have hcount {n : Nat} (h : n < UInt64.size) := (Decoder.restores_count h).readable
    cases completedAt <;> cases interruption <;>
      simp [Value.optionalMember, hcount, htotal, hprocessed, hsuccess, hfailed, herrors.readable,
        hreason, Value.Readable, Uuid.toJson, MarketplaceId.toJson, Direction.toJson,
        SyncStatus.toJson, Timestamp.toJson]
  · intro room hroom
    rw [Fields.required_ofMembers rfl id.restores rfl (by omega),
      Fields.required_ofMembers rfl marketplace.restores rfl (by omega),
      Fields.required_ofMembers rfl direction.restores rfl (by omega),
      Fields.required_ofMembers rfl status.restores rfl (by omega),
      Fields.required_ofMembers rfl (Decoder.restores_count htotal) rfl (by omega),
      Fields.required_ofMembers rfl (Decoder.restores_count hprocessed) rfl (by omega),
      Fields.required_ofMembers rfl (Decoder.restores_count hsuccess) rfl (by omega),
      Fields.required_ofMembers rfl (Decoder.restores_count hfailed) rfl (by omega),
      Fields.required_ofMembers rfl herrors rfl (by omega),
      Fields.required_ofMembers rfl (Timestamp.restores htimes.1) rfl (by omega),
      Fields.optional_ofMembers rfl (fun t ht => Timestamp.restores (hcompleted t ht))
        Timestamp.toJson_ne_null (by cases completedAt <;> cases interruption <;> rfl)
        (Nat.zero_le room),
      Fields.optional_ofMembers rfl (fun i (_ : interruption = some i) => i.restores)
        Interruption.toJson_ne_null (by cases completedAt <;> cases interruption <;> rfl)
        (by omega)]
    rfl

end SyncResult

/-! ### Orders -/

namespace OrderItem

/-- The floating-point numbers of a line, with its total. -/
def floats (item : OrderItem) : List Binary64 := [item.price, item.total]

theorem restores {item : OrderItem} (h : ∀ x ∈ item.floats, x.IsWritable) :
    OrderItem.decoder.Restores 1 item.toJson item := by
  have hquantity := Decoder.restores_uint32 item.quantity
  have hprice := (h item.price (by simp [floats])).restores
  have htotal := (h item.total (by simp [floats])).restores
  refine Decoder.restores_record (by simp) ?_ ?_
  · simp [hquantity.readable, hprice.readable, htotal.readable, Value.Readable]
  · intro room hroom
    rw [Fields.required_ofMembers rfl (Decoder.restores_text item.externalId) rfl hroom,
      Fields.required_ofMembers rfl (Decoder.restores_text item.name) rfl hroom,
      Fields.required_ofMembers rfl hquantity rfl hroom,
      Fields.required_ofMembers rfl hprice rfl hroom,
      Fields.withDefault_ofMembers _ rfl htotal rfl hroom]
    rfl

end OrderItem

namespace Order

/-- The floating-point numbers of an order and its lines. -/
def floats (order : Order) : List Binary64 :=
  order.total :: order.items.flatMap OrderItem.floats

/-- An order is restored when its numbers can be written and its time has a form. -/
theorem restores {order : Order} (hfloats : ∀ x ∈ order.floats, x.IsWritable)
    (htime : order.createdAt.HasForm) : Order.decoder.Restores 3 order.toJson order := by
  have htotal := (hfloats order.total List.mem_cons_self).restores
  have hitems : (Decoder.list OrderItem.decoder).Restores 2
      (.ofList OrderItem.toJson order.items) order.items := by
    apply Decoder.restores_list
    intro item hitem
    apply OrderItem.restores
    intro x hx
    exact hfloats x (List.mem_cons_of_mem _ (List.mem_flatMap.2 ⟨item, hitem, hx⟩))
  refine Decoder.restores_record (by simp) ?_ ?_
  · simp [htotal.readable, hitems.readable, Value.Readable, MarketplaceId.toJson, Timestamp.toJson]
  · intro room hroom
    rw [Fields.required_ofMembers rfl (Decoder.restores_text order.externalId) rfl (by omega),
      Fields.required_ofMembers rfl order.marketplace.restores rfl (by omega),
      Fields.required_ofMembers rfl (Decoder.restores_text order.status) rfl (by omega),
      Fields.required_ofMembers rfl htotal rfl (by omega),
      Fields.required_ofMembers rfl (Decoder.restores_text order.customerName) rfl (by omega),
      Fields.required_ofMembers rfl (Decoder.restores_text order.deliveryAddress) rfl (by omega),
      Fields.required_ofMembers rfl (Decoder.restores_text order.deliveryCity) rfl (by omega),
      Fields.required_ofMembers rfl hitems rfl (by omega),
      Fields.required_ofMembers rfl (Timestamp.restores htime) rfl (by omega)]
    rfl

end Order

/-! ### Category mappings -/

theorem CategoryMapping.restores (mapping : CategoryMapping) :
    CategoryMapping.decoder.Restores 1 mapping.toJson mapping := by
  refine Decoder.restores_record (by simp) (by simp [Value.Readable]) ?_
  intro room hroom
  rw [Fields.required_ofMembers rfl (Decoder.restores_text mapping.shopCategoryId) rfl hroom,
    Fields.required_ofMembers rfl (Decoder.restores_text mapping.marketplaceCategoryId) rfl hroom]
  rfl

namespace Snapshot

/-- The mappings are listed in the order of the marketplaces, at most once for each. -/
def IsListed (mappings : List (MarketplaceId × List CategoryMapping)) : Prop :=
  (MarketplaceId.all.filterMap fun id => (Keyed.get? id mappings).map (id, ·)) = mappings

theorem nodup_of_isListed {mappings : List (MarketplaceId × List CategoryMapping)}
    (h : IsListed mappings) : (mappings.map Prod.fst).Nodup := by
  rw [← h, List.map_filterMap]
  refine List.Nodup.filterMap ?_ (by decide)
  intro id id' key hid hid'
  obtain ⟨m, hm, rfl⟩ := Option.map_eq_some_iff.1 hid
  obtain ⟨m', hm', heq⟩ := Option.map_eq_some_iff.1 hid'
  obtain ⟨_, -, rfl⟩ := Option.map_eq_some_iff.1 hm
  obtain ⟨_, -, rfl⟩ := Option.map_eq_some_iff.1 hm'
  exact heq.symm

theorem mappingMembers_eq {mappings : List (MarketplaceId × List CategoryMapping)}
    (h : IsListed mappings) :
    mappingMembers mappings =
      mappings.map fun m => (m.1.tag, .ofList CategoryMapping.toJson m.2) := by
  conv_rhs => rw [← h]
  rw [List.map_filterMap, mappingMembers]
  refine congrArg (List.filterMap · _) (funext ?_)
  intro id
  rw [Option.map_map]
  rfl

theorem restores_mappings {mappings : List (MarketplaceId × List CategoryMapping)}
    (h : IsListed mappings) :
    mappingsDecoder.Restores 3 (.object (mappingMembers mappings)) mappings := by
  have hlist (list : List CategoryMapping) :
      (Decoder.list CategoryMapping.decoder).Restores 2 (.ofList CategoryMapping.toJson list)
        list :=
    Decoder.restores_list fun mapping _ => mapping.restores
  rw [mappingMembers_eq h]
  apply Decoder.restores_succ
  · apply (Json.readableMembers_iff _).2
    intro member hmember
    obtain ⟨m, -, rfl⟩ := List.mem_map.1 hmember
    exact (hlist m.2).readable
  · intro room hroom
    rw [Value.toTree, Value.memberTreesOf_eq, List.map_map]
    refine Keyed.foldlM_put [] ?_ (nodup_of_isListed h)
    intro found m _
    have hid : MarketplaceId.ofTag? m.1.tag = some m.1 := by cases m.1; rfl
    change ((MarketplaceId.ofTag? m.1.tag).bind fun id =>
      (Decoder.list CategoryMapping.decoder room
        (Value.ofList CategoryMapping.toJson m.2).toTree).bind fun list =>
          some (Keyed.put id list found)) = _
    rw [hid, Option.bind_some, (hlist m.2).reads room hroom, Option.bind_some]

/-! ### Snapshots -/

/-- The counts of the results. -/
def counts (snapshot : Snapshot) : List Nat :=
  snapshot.results.flatMap SyncResult.counts

/-- The times of the results and the orders. -/
def times (snapshot : Snapshot) : List Timestamp :=
  snapshot.results.flatMap SyncResult.times ++ snapshot.orders.map Order.createdAt

/-- The floating-point numbers of the orders. -/
def floats (snapshot : Snapshot) : List Binary64 :=
  snapshot.orders.flatMap Order.floats

/-- A snapshot whose numbers and times a document has room for is restored from its document. -/
theorem restores {snapshot : Snapshot} (hlisted : IsListed snapshot.mappings)
    (hcounts : ∀ n ∈ snapshot.counts, n < UInt64.size)
    (htimes : ∀ t ∈ snapshot.times, t.HasForm)
    (hfloats : ∀ x ∈ snapshot.floats, x.IsWritable) :
    Snapshot.decoder.Restores 5 snapshot.toJson snapshot := by
  have hresults : (Decoder.list SyncResult.decoder).Restores 4
      (.ofList SyncResult.toJson snapshot.results) snapshot.results := by
    apply Decoder.restores_list
    intro result hresult
    apply SyncResult.restores
    · intro n hn
      exact hcounts n (List.mem_flatMap.2 ⟨result, hresult, hn⟩)
    · intro t ht
      exact htimes t (List.mem_append_left _ (List.mem_flatMap.2 ⟨result, hresult, ht⟩))
  have horders : (Decoder.list Order.decoder).Restores 4
      (.ofList Order.toJson snapshot.orders) snapshot.orders := by
    apply Decoder.restores_list
    intro order horder
    apply Order.restores
    · intro x hx
      exact hfloats x (List.mem_flatMap.2 ⟨order, horder, hx⟩)
    · exact htimes _ (List.mem_append_right _ (List.mem_map_of_mem horder))
  have hmappings := restores_mappings hlisted
  refine Decoder.restores_record (by simp) ?_ ?_
  · simp [hresults.readable, horders.readable, hmappings.readable]
  · intro room hroom
    rw [Fields.withDefault_ofMembers _ rfl hresults rfl hroom,
      Fields.withDefault_ofMembers _ rfl horders rfl hroom,
      Fields.withDefault_ofMembers _ rfl hmappings rfl (by omega)]
    rfl

end Snapshot

end ShopSync
