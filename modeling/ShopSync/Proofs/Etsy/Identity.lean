import Mathlib.Tactic
import ShopSync.Proofs.Etsy.Import
import ShopSync.Proofs.Etsy.Requests
import ShopSync.Proofs.Sync.Intake

/-!
What makes two receipts one order.

The store keeps one order for an identifier.  A receipt says its identifier as a text, whose blanks
at the ends do not count, or as a number, of which the whole part counts; a receipt that says none
has the empty one.  So receipts stay apart exactly when no two of them say the same identifier
(`importOrders_apart_iff`).
-/

namespace ShopSync.Etsy

open Json (Value)
open Json.Loose (Members identifier identifierOf integerOf objectOf)
open Number (Binary64 int64Limit integerText)

/-! ### Identifiers -/

/-- The identifier that a field says, if it is a text, or a number whose whole part is a signed
number of 64 bits, or anything else. -/
inductive Identifies : Option Value → String → Prop
  | text (s : String) : Identifies (some (.string s)) (Text.trim s)
  | number {n : Json.Number} {k : Int} (hwhole : wholePart? n = some k) (hword : IsInt64 k) :
      Identifies (some (.number n)) (String.ofList (integerText k))
  | nothing {field : Option Value} (htext : ∀ s, field ≠ some (.string s))
      (hnumber : ∀ n, field ≠ some (.number n)) : Identifies field ""

theorem externalId_orderOf {ms : Members} {id : String}
    (h : Identifies (Keyed.get? "receipt_id" ms) id) : (orderOf ms).externalId = id := by
  change ((Keyed.get? "receipt_id" ms).bind identifierOf).getD "" = id
  generalize Keyed.get? "receipt_id" ms = field at h
  cases h with
  | text s =>
    rw [Option.bind_some, identifierOf]
    split
    case isTrue hblank => rw [Text.trim_eq_empty_iff.2 hblank, Option.getD_none]
    case isFalse => rw [Option.getD_some]
  | number hwhole hword =>
    rw [Option.bind_some, identifierOf, integerOf_of_wholePart? hwhole hword, Option.map_some,
      Option.getD_some]
  | nothing htext hnumber =>
    have hnone : field.bind identifierOf = none := by
      rw [Option.bind_eq_none_iff]
      rintro v rfl
      cases v with
      | string s => exact absurd rfl (htext s)
      | number n => exact absurd rfl (hnumber n)
      | _ => rfl
    rw [hnone, Option.getD_none]

/-- Two receipts say the same identifier. -/
def SameId (a b : Members) : Prop :=
  ∃ id, Identifies (Keyed.get? "receipt_id" a) id ∧ Identifies (Keyed.get? "receipt_id" b) id

/-- Receipts that say identifiers say the same when their orders have the same key. -/
theorem sameId_iff {a b : Members} {i j : String}
    (ha : Identifies (Keyed.get? "receipt_id" a) i)
    (hb : Identifies (Keyed.get? "receipt_id" b) j) :
    SameId a b ↔ (orderOf a).key = (orderOf b).key := by
  constructor
  · rintro ⟨id, ha', hb'⟩
    exact congrArg (Prod.mk _) ((externalId_orderOf ha').trans (externalId_orderOf hb').symm)
  · intro h
    have hid : i = j := by
      rw [← externalId_orderOf ha, ← externalId_orderOf hb]
      exact congrArg Prod.snd h
    exact ⟨i, ha, hid ▸ hb⟩

/-! ### Imports of receipts -/

theorem exists_lastPage_objects (receipts : List Members) :
    ∃ n, (∀ k < n, GoesOn (receipts.map .object) (fun _ => false) k) ∧
      ¬GoesOn (receipts.map .object) (fun _ => false) n ∧
      ((receipts.map Value.object).take (100 * (n + 1))).filterMap objectOf = receipts := by
  obtain ⟨n, hgoes, hlast, hread⟩ := exists_lastPage (receipts.map Value.object)
  have hstray : firstStray (receipts.map Value.object) = (receipts.map Value.object).length := by
    rw [firstStray, List.findIdx_eq_length]
    intro v hv
    obtain ⟨ms, -, rfl⟩ := List.mem_map.1 hv
    rfl
  have hall : (receipts.map Value.object).length ≤ endOfStray (receipts.map Value.object) := by
    rw [endOfStray, hstray]
    omega
  refine ⟨n, hgoes, hlast, ?_⟩
  rw [hread, List.take_of_length_le hall, filterMap_objectOf_map]

section Imports

variable {service : EtsyService} {adapter : Adapter} {session : Session} {receipts : List Members}
variable {elsewhere : Elsewhere} {signal : Signal}

theorem requestsOf_startOf {server : Server Unit} (since : Option Timestamp) (v : Visit Unit) :
    requestsOf ((service.startOf .etsy since).run (server.world elsewhere) v).2.past =
      requestsOf v.past := by
  cases since with
  | some since => rfl
  | none =>
    unfold Service.startOf
    cases service.store.lastUninterrupted? .etsy .inbound with
    | some result => rfl
    | none =>
      change requestsOf (v.past ++ [.moment]) = requestsOf v.past
      rw [requestsOf_append, requestsOf_moment, List.append_nil]

section

variable (hready : service.registry.findReady .etsy = .ok adapter)
  (hsession : adapter.session = .ok session) (hcount : receipts.length ≤ lastOffset)
  (pages : ReceiptPages (receipts.map .object)) (hfires : signal.FiresBy elsewhere fun _ => false)
  (since : Option Timestamp)
  (hdue :
    let start := ((service.startOf .etsy since).run
      ((pages.server session.shopRoot).world elsewhere) { state := (), past := [] }).1
    ∀ ms ∈ receipts, isDue start.unixSeconds ms = true)

include hsession hcount hfires hdue

/-- An import that nothing stops is given the orders of all receipts, when none of them is too
old. -/
theorem fetched_receipts :
    service.fetched ((pages.server session.shopRoot).world elsewhere) adapter .etsy since signal
      { state := (), past := [] } = .ok (receipts.map orderOf) := by
  have hcount' : (receipts.map Value.object).length ≤ lastOffset := by rwa [List.length_map]
  obtain ⟨n, hgoes, hlast, hread⟩ := exists_lastPage_objects receipts
  set found := (service.startOf .etsy since).run
    ((pages.server session.shopRoot).world elsewhere) { state := (), past := [] } with hfound
  have hasked : requestsOf (found.2.past ++ [.moment]) = [] := by
    rw [requestsOf_append, hfound, requestsOf_startOf]
    rfl
  obtain ⟨past, hrun, -⟩ := runIn_importOrders_from hsession pages found.1 hcount' hfires rfl hgoes
    hlast (v := { found.2 with past := found.2.past ++ [.moment] }) hasked
  rw [hread, ordersSince_eq, List.filter_eq_self.2 hdue] at hrun
  exact congrArg Prod.fst hrun

include hready in
theorem run_importOrders_receipts :
    ∃ (i : OrderImport) (after : EtsyService) (v : Visit Unit),
      ((Service.importOrders .etsy since signal).on service).run
          ((pages.server session.shopRoot).world elsewhere) { state := (), past := [] } =
        ((.ok i, after), v) ∧
      i.newOrders = service.store.orders.newAmong (receipts.map orderOf) ∧
      i.duplicates = receipts.length - i.newOrders.length ∧
      after.store.orders.toList.Perm (service.store.orders.toList ++ i.newOrders) := by
  have hfetched := fetched_receipts hsession hcount pages hfires since hdue
  obtain ⟨start, resultId, started, ended, reason, v, hrun⟩ :=
    Service.run_importOrders hready hfetched
  refine ⟨_, _, v, hrun, service.store.saveOrders_fst (receipts.map orderOf), ?_,
    service.store.perm_saveOrders (receipts.map orderOf)⟩
  rw [← List.length_map orderOf]
  rfl

end

/-- **Receipts that stay apart.**  An import that nothing stops, of receipts none of which is too
old, into a store without orders: all of them are stored and none counts as known already exactly
when no two of them say the same identifier.  Numbers past the signed ones of 64 bits say none. -/
theorem importOrders_apart_iff (service : EtsyService) (adapter : Adapter) (session : Session)
    (hready : service.registry.findReady .etsy = .ok adapter)
    (hsession : adapter.session = .ok session) (hempty : service.store.orders = .empty)
    (receipts : List Members) (hcount : receipts.length ≤ lastOffset)
    (pages : ReceiptPages (receipts.map .object)) (elsewhere : Elsewhere) (signal : Signal)
    (hfires : signal.FiresBy elsewhere fun _ => false) (since : Option Timestamp)
    (hdue :
      let start := ((service.startOf .etsy since).run
        ((pages.server session.shopRoot).world elsewhere) { state := (), past := [] }).1
      ∀ ms ∈ receipts, isDue start.unixSeconds ms = true)
    (hids : ∀ ms ∈ receipts, ∃ id, Identifies (Keyed.get? "receipt_id" ms) id) :
    ∃ (i : OrderImport) (after : EtsyService) (v : Visit Unit),
      ((Service.importOrders .etsy since signal).on service).run
          ((pages.server session.shopRoot).world elsewhere) { state := (), past := [] } =
        ((.ok i, after), v) ∧
      ((i.duplicates = 0 ∧ after.store.orders.toList.Perm (receipts.map orderOf)) ↔
        receipts.Pairwise fun a b => ¬SameId a b) := by
  obtain ⟨i, after, v, hrun, hnew, hduplicates, hperm⟩ :=
    run_importOrders_receipts hready hsession hcount pages hfires since hdue
  refine ⟨i, after, v, hrun, ?_⟩
  rw [hempty] at hnew hperm
  have hsublist := OrderBook.empty.newAmong_sublist (receipts.map orderOf)
  have hapart : (receipts.map orderOf).Pairwise (fun a b => a.key ≠ b.key) ↔
      receipts.Pairwise fun a b => ¬SameId a b := by
    rw [List.pairwise_map]
    have hsame {a b : Members} (ha : a ∈ receipts) (hb : b ∈ receipts) :
        SameId a b ↔ (orderOf a).key = (orderOf b).key := by
      obtain ⟨_, ha⟩ := hids a ha
      obtain ⟨_, hb⟩ := hids b hb
      exact sameId_iff ha hb
    constructor
    · exact List.Pairwise.imp_of_mem fun ha hb hne => (hsame ha hb).not.2 hne
    · exact List.Pairwise.imp_of_mem fun ha hb hne => (hsame ha hb).not.1 hne
  have hall : i.newOrders.length = (receipts.map orderOf).length ↔
      receipts.Pairwise fun a b => ¬SameId a b := by
    rw [hnew, OrderBook.length_newAmong_eq_iff, hapart]
    exact and_iff_right fun _ _ => rfl
  rw [← hall, List.length_map]
  constructor
  · rintro ⟨hzero, -⟩
    have hle := hsublist.length_le
    rw [← hnew, List.length_map] at hle
    omega
  · intro hlength
    refine ⟨by omega, ?_⟩
    rw [hnew] at hlength hperm
    rwa [hsublist.eq_of_length (hlength.trans (List.length_map orderOf).symm)] at hperm

end Imports

/-! ### Samples -/

/-- A receipt with a field for its identifier or without one. -/
def receiptWith (field : Option Value) : Members :=
  Value.optionalMember "receipt_id" (fun v => v) field

/-- The pages of such receipts, in compact form. -/
def pagesWith (fields : List (Option Value)) (hcount : fields.length < UInt64.size)
    (h : ∀ field ∈ fields, ∀ v ∈ field, v.Readable ∧ ∀ room, v.Fits room) :
    ReceiptPages ((fields.map receiptWith).map .object) :=
  .rendered _ (by simpa using hcount)
    (by
      intro v hv
      simp only [List.map_map, List.mem_map] at hv
      obtain ⟨field, hfield, rfl⟩ := hv
      cases field with
      | none => trivial
      | some v => exact ⟨(h _ hfield v rfl).1, trivial⟩)
    (by
      intro v hv
      simp only [List.map_map, List.mem_map] at hv
      obtain ⟨field, hfield, rfl⟩ := hv
      cases field with
      | none => exact ⟨List.nodup_nil, trivial⟩
      | some v => exact ⟨List.nodup_singleton _, (h _ hfield v rfl).2 _, trivial⟩)

/-- A number, a text, nothing, and the largest signed number of 64 bits. -/
def apartFields : List (Option Value) :=
  [some (.number (.integer 41)), some (.string " 42 "), none,
    some (.number (.integer 9223372036854775807))]

/-- The pages of their receipts. -/
def apartPages : ReceiptPages ((apartFields.map receiptWith).map .object) :=
  pagesWith apartFields (by decide) (by
    have hword (n : Int) (h : Json.IsWord n) : (Value.number (.integer n)).Readable :=
      Json.Number.readsBack_integer h
    rintro field hfield v rfl
    simp only [apartFields, List.mem_cons, Option.some.injEq, List.not_mem_nil, or_false,
      reduceCtorEq, false_or] at hfield
    rcases hfield with rfl | rfl | rfl
    · exact ⟨hword 41 ⟨by decide, by decide⟩, fun _ => trivial⟩
    · exact ⟨trivial, fun _ => trivial⟩
    · exact ⟨hword 9223372036854775807 ⟨by decide, by decide⟩, fun _ => trivial⟩)

/-- Receipts with these fields are all stored, even the one without an identifier. -/
theorem importOrders_apart_apartFields :
    let world := (apartPages.server (Session.ofConfig sampleConfig).shopRoot).world
      (still fun _ => [])
    ∃ (i : OrderImport) (after : EtsyService) (v : Visit Unit),
      ((Service.importOrders .etsy none { token := 0 }).on Service.sampleService).run world
          { state := (), past := [] } = ((.ok i, after), v) ∧
      i.duplicates = 0 ∧
      after.store.orders.toList.Perm ((apartFields.map receiptWith).map orderOf) := by
  have hids : ∀ ms ∈ apartFields.map receiptWith,
      ∃ id, Identifies (Keyed.get? "receipt_id" ms) id := by
    simp only [apartFields, List.map_cons, List.map_nil, List.forall_mem_cons]
    refine ⟨⟨_, .number rfl ⟨by decide, by decide⟩⟩, ⟨_, .text " 42 "⟩,
      ⟨_, .nothing (fun s h => by cases h) fun n h => by cases h⟩,
      ⟨_, .number rfl ⟨by decide, by decide⟩⟩, List.forall_mem_nil _⟩
  have hkeys : (apartFields.map receiptWith).Pairwise fun a b =>
      (orderOf a).key ≠ (orderOf b).key := by
    decide +kernel
  obtain ⟨i, after, v, hrun, hapart⟩ :=
    importOrders_apart_iff Service.sampleService { config := some sampleConfig }
      (Session.ofConfig sampleConfig) rfl session_sampleConfig rfl (apartFields.map receiptWith)
      (by decide) apartPages (still fun _ => []) { token := 0 } (firesBy_still 0 fun _ => false)
      none (by decide +kernel) hids
  refine ⟨i, after, v, hrun, hapart.2 (hkeys.imp_of_mem fun {a b} ha hb hne hsame => hne ?_)⟩
  obtain ⟨_, ha⟩ := hids a ha
  obtain ⟨_, hb⟩ := hids b hb
  exact (sameId_iff ha hb).1 hsame

/-- A number and its numeral as a text, nothing, and a null. -/
def mergedFields : List (Option Value) :=
  [some (.number (.integer 42)), some (.string "42"), none, some .null]

/-- The pages of their receipts. -/
def mergedPages : ReceiptPages ((mergedFields.map receiptWith).map .object) :=
  pagesWith mergedFields (by decide) (by
    rintro field hfield v rfl
    simp only [mergedFields, List.mem_cons, Option.some.injEq, List.not_mem_nil, or_false,
      reduceCtorEq, false_or] at hfield
    rcases hfield with rfl | rfl | rfl
    · exact ⟨Json.Number.readsBack_integer ⟨by decide, by decide⟩, fun _ => trivial⟩
    · exact ⟨trivial, fun _ => trivial⟩
    · exact ⟨trivial, fun _ => trivial⟩)

/-- The fields hold the same whole number, or texts that are the same without the blanks around
them. -/
def carrySame : Option Value → Option Value → Bool
  | some (.number (.integer m)), some (.number (.integer n)) => m = n
  | some (.string s), some (.string t) => Text.trim s = Text.trim t
  | _, _ => false

/-- Receipts of which no two carry the same number or text are merged all the same: a number with
its numeral, and two receipts without an identifier. -/
theorem importOrders_merges :
    let world := (mergedPages.server (Session.ofConfig sampleConfig).shopRoot).world
      (still fun _ => [])
    (mergedFields.Pairwise fun a b => carrySame a b = false) ∧
      ∃ (i : OrderImport) (after : EtsyService) (v : Visit Unit),
        ((Service.importOrders .etsy none { token := 0 }).on Service.sampleService).run world
            { state := (), past := [] } = ((.ok i, after), v) ∧
        i.duplicates = 2 ∧ after.store.orders.toList.length = 2 := by
  refine ⟨by decide +kernel, ?_⟩
  have hready : Service.sampleService.registry.findReady .etsy =
      .ok { config := some sampleConfig } := rfl
  obtain ⟨i, after, v, hrun, hnew, hduplicates, hperm⟩ :=
    run_importOrders_receipts hready session_sampleConfig (by decide) mergedPages
      (firesBy_still 0 fun _ => false) none (by decide +kernel)
  have hcount : i.newOrders.length = 2 := by
    rw [hnew]
    decide +kernel
  refine ⟨i, after, v, hrun, ?_, ?_⟩
  · rw [hduplicates, hcount]
    rfl
  · exact hperm.length_eq.trans hcount

end ShopSync.Etsy
