import ShopSync.Proofs.Keyed
import ShopSync.Proofs.Sync.Agreement
import ShopSync.Proofs.Sync.Persistence

/-!
Under which category a product is handed over.

Of mappings in a list the last one for a category counts, and those of a store count before those of
a configuration.  A store keeps one mapping for each category, in the place where the first one came
and with the target that came last; so what it says of a category is what the last of all mappings
that were ever kept says.  A target is taken as it is: it is not looked up again (`ListedUnder`).
-/

namespace ShopSync

open Service (targetOf?)

/-! ### Lists of mappings -/

/-- The last mapping for a category leads to this target. -/
def LastLeads (mappings : List CategoryMapping) (categoryId target : String) : Prop :=
  ∃ before behind,
    mappings = before ++
      { shopCategoryId := categoryId, marketplaceCategoryId := target } :: behind ∧
    ∀ m ∈ behind, m.shopCategoryId ≠ categoryId

/-- There is no mapping for the category. -/
def IsUnmapped (mappings : List CategoryMapping) (categoryId : String) : Prop :=
  ∀ m ∈ mappings, m.shopCategoryId ≠ categoryId

/-- What a category of the shop becomes: the target that was saved last for it or, when none was,
that of the last own mapping for it or, when there is none either, the category itself. -/
inductive ListedUnder (own saved : List CategoryMapping) (categoryId : String) : String → Prop
  | saved {target : String} (hlast : LastLeads saved categoryId target) :
      ListedUnder own saved categoryId target
  | own {target : String} (hnone : IsUnmapped saved categoryId)
      (hlast : LastLeads own categoryId target) : ListedUnder own saved categoryId target
  | unmapped (hnone : IsUnmapped saved categoryId) (hown : IsUnmapped own categoryId) :
      ListedUnder own saved categoryId categoryId

/-- A product that is handed over is the one that was given, under what its category becomes. -/
def HandedAs (own saved : List CategoryMapping) (product handed : Product) : Prop :=
  ∃ target, ListedUnder own saved product.categoryId target ∧
    handed = { product with categoryId := target }

section Lists

variable {mappings own saved : List CategoryMapping} {m : CategoryMapping}
variable {categoryId target : String}

theorem targetOf?_append (first second : List CategoryMapping) (categoryId : String) :
    targetOf? (first ++ second) categoryId =
      (targetOf? second categoryId).or (targetOf? first categoryId) := by
  rw [targetOf?, List.reverse_append, List.find?_append, targetOf?, targetOf?, Option.map_or]

theorem targetOf?_singleton (m : CategoryMapping) (categoryId : String) :
    targetOf? [m] categoryId =
      if m.shopCategoryId = categoryId then some m.marketplaceCategoryId else none := by
  rw [targetOf?, List.reverse_singleton, List.find?_singleton]
  by_cases hkey : m.shopCategoryId = categoryId
  · rw [if_pos hkey, if_pos (decide_eq_true hkey), Option.map_some]
  · rw [if_neg hkey, if_neg (by simpa using hkey), Option.map_none]

theorem lastLeads_concat_iff :
    LastLeads (mappings ++ [m]) categoryId target ↔
      m.shopCategoryId = categoryId ∧ m.marketplaceCategoryId = target ∨
        m.shopCategoryId ≠ categoryId ∧ LastLeads mappings categoryId target := by
  constructor
  · rintro ⟨before, behind, hsplit, hbehind⟩
    rcases List.eq_nil_or_concat' behind with rfl | ⟨behind, last, rfl⟩
    · obtain ⟨-, rfl⟩ := List.append_singleton_inj.1 hsplit
      exact .inl ⟨rfl, rfl⟩
    · rw [← List.cons_append, ← List.append_assoc] at hsplit
      obtain ⟨rfl, rfl⟩ := List.append_singleton_inj.1 hsplit
      exact .inr
        ⟨hbehind m (by simp), before, behind, rfl, fun m' hm' => hbehind m' (by simp [hm'])⟩
  · rintro (⟨rfl, rfl⟩ | ⟨hne, before, behind, rfl, hbehind⟩)
    · exact ⟨mappings, [], rfl, by simp⟩
    · refine ⟨before, behind ++ [m], by simp, fun m' hm' => ?_⟩
      rcases List.mem_append.1 hm' with hm' | hm'
      · exact hbehind m' hm'
      · exact List.mem_singleton.1 hm' ▸ hne

/-- The search from the end finds the last mapping. -/
theorem targetOf?_eq_some_iff :
    targetOf? mappings categoryId = some target ↔ LastLeads mappings categoryId target := by
  induction mappings using List.reverseRecOn with
  | nil =>
    constructor
    · rintro ⟨⟩
    · rintro ⟨before, behind, hsplit, -⟩
      simp at hsplit
  | append_singleton mappings m ih =>
    rw [targetOf?_append, targetOf?_singleton, lastLeads_concat_iff, ← ih]
    by_cases hkey : m.shopCategoryId = categoryId
    · simp [hkey]
    · simp [hkey]

theorem targetOf?_eq_none_iff :
    targetOf? mappings categoryId = none ↔ IsUnmapped mappings categoryId := by
  rw [targetOf?, Option.map_eq_none_iff, List.find?_eq_none]
  simp [IsUnmapped]

theorem listedUnder_iff :
    ListedUnder own saved categoryId target ↔
      ((targetOf? saved categoryId).or (targetOf? own categoryId)).getD categoryId = target := by
  constructor
  · rintro (hlast | ⟨hnone, hlast⟩ | ⟨hnone, hown⟩)
    · rw [targetOf?_eq_some_iff.2 hlast, Option.some_or, Option.getD_some]
    · rw [targetOf?_eq_none_iff.2 hnone, targetOf?_eq_some_iff.2 hlast, Option.none_or,
        Option.getD_some]
    · rw [targetOf?_eq_none_iff.2 hnone, targetOf?_eq_none_iff.2 hown, Option.none_or,
        Option.getD_none]
  · rintro rfl
    cases hsaved : targetOf? saved categoryId with
    | some target => exact .saved (targetOf?_eq_some_iff.1 hsaved)
    | none =>
      have hnone := targetOf?_eq_none_iff.1 hsaved
      cases hown : targetOf? own categoryId with
      | some target => exact .own hnone (targetOf?_eq_some_iff.1 hown)
      | none => exact .unmapped hnone (targetOf?_eq_none_iff.1 hown)

end Lists

/-! ### Mappings that are kept -/

/-- Keeps mappings one after another, each in the place of the one for the same category. -/
def keepMappings (kept saved : List CategoryMapping) : List CategoryMapping :=
  saved.foldl (fun kept m => Keyed.upsertBy CategoryMapping.shopCategoryId m kept) kept

section Keep

variable {kept saved : List CategoryMapping} {m : CategoryMapping} {categoryId : String}

theorem keepMappings_concat (kept saved : List CategoryMapping) (m : CategoryMapping) :
    keepMappings kept (saved ++ [m]) =
      Keyed.upsertBy CategoryMapping.shopCategoryId m (keepMappings kept saved) :=
  Keyed.upsertAll_concat _ kept saved m

/-- The categories stand in the order in which they first came. -/
theorem map_keepMappings (saved : List CategoryMapping) :
    (keepMappings [] saved).map CategoryMapping.shopCategoryId =
      (saved.map CategoryMapping.shopCategoryId).eraseDups :=
  Keyed.map_upsertAll _ saved

theorem nodup_keepMappings (saved : List CategoryMapping) :
    ((keepMappings [] saved).map CategoryMapping.shopCategoryId).Nodup :=
  Keyed.nodup_upsertAll _ saved

/-- A mapping that is kept decides for its category, and for no other one. -/
theorem targetOf?_upsertBy (hkept : (kept.map CategoryMapping.shopCategoryId).Nodup)
    (m : CategoryMapping) (categoryId : String) :
    targetOf? (Keyed.upsertBy CategoryMapping.shopCategoryId m kept) categoryId =
      (targetOf? [m] categoryId).or (targetOf? kept categoryId) := by
  induction kept with
  | nil => exact (Option.or_none).symm
  | cons old rest ih =>
    obtain ⟨hold, hrest⟩ := List.nodup_cons.1 hkept
    have hcons (m : CategoryMapping) : targetOf? (m :: rest) categoryId =
        (targetOf? rest categoryId).or (targetOf? [m] categoryId) :=
      targetOf?_append [m] rest categoryId
    rw [Keyed.upsertBy]
    split
    case isTrue hsame =>
      rw [hcons, hcons, targetOf?_singleton, targetOf?_singleton, hsame]
      by_cases hkey : m.shopCategoryId = categoryId
      · -- no other mapping is for the category
        have hnone : targetOf? rest categoryId = none := by
          refine targetOf?_eq_none_iff.2 fun m' hm' heq => hold ?_
          rw [hsame, hkey, ← heq]
          exact List.mem_map_of_mem hm'
        rw [hnone, if_pos hkey, Option.none_or, Option.some_or]
      · rw [if_neg hkey, if_neg hkey, Option.none_or]
    case isFalse hother =>
      have hcons' : targetOf? (old :: Keyed.upsertBy CategoryMapping.shopCategoryId m rest)
          categoryId = (targetOf? (Keyed.upsertBy CategoryMapping.shopCategoryId m rest)
            categoryId).or (targetOf? [old] categoryId) :=
        targetOf?_append [old] _ categoryId
      rw [hcons', hcons, ih hrest, Option.or_assoc]

/-- What is kept says of a category what the last mapping says that came. -/
theorem targetOf?_keepMappings (saved : List CategoryMapping) (categoryId : String) :
    targetOf? (keepMappings [] saved) categoryId = targetOf? saved categoryId := by
  induction saved using List.reverseRecOn with
  | nil => rfl
  | append_singleton saved m ih =>
    rw [keepMappings_concat, targetOf?_upsertBy (nodup_keepMappings saved), ih, targetOf?_append]

theorem mem_iff_targetOf? (hkept : (kept.map CategoryMapping.shopCategoryId).Nodup) :
    m ∈ kept ↔ targetOf? kept m.shopCategoryId = some m.marketplaceCategoryId := by
  rw [targetOf?_eq_some_iff]
  constructor
  · intro hm
    obtain ⟨before, behind, rfl⟩ := List.append_of_mem hm
    refine ⟨before, behind, rfl, fun m' hm' heq => ?_⟩
    rw [List.map_append, List.map_cons] at hkept
    have hnotMem := (List.nodup_cons.1 (List.nodup_append.1 hkept).2.1).1
    exact hnotMem (heq ▸ List.mem_map_of_mem hm')
  · rintro ⟨before, behind, rfl, -⟩
    exact List.mem_append_right before List.mem_cons_self

theorem mem_keepMappings_iff :
    m ∈ keepMappings [] saved ↔ LastLeads saved m.shopCategoryId m.marketplaceCategoryId := by
  rw [mem_iff_targetOf? (nodup_keepMappings saved), targetOf?_keepMappings, targetOf?_eq_some_iff]

end Keep

/-! ### Stores -/

/-- The mapping that a call saves for a marketplace. -/
def StoreCall.mappingFor? (id : MarketplaceId) : StoreCall → Option CategoryMapping
  | .saveMapping id' mapping => if id' = id then some mapping else none
  | _ => none

/-- The mappings that calls save for a marketplace, in their order. -/
def savedMappings (id : MarketplaceId) (calls : List StoreCall) : List CategoryMapping :=
  calls.filterMap (StoreCall.mappingFor? id)

namespace MemoryStore

theorem mappingsOf_ask (store : MemoryStore) (call : StoreCall) (id : MarketplaceId) :
    (store.ask call).2.mappingsOf id =
      keepMappings (store.mappingsOf id) (call.mappingFor? id).toList := by
  cases call with
  | saveMapping id' mapping =>
    change (Keyed.get? id (Keyed.put id' _ store.mappings)).getD [] = _
    rw [Keyed.get?_put, StoreCall.mappingFor?]
    by_cases hid : id' = id
    · subst hid
      rw [if_pos rfl, if_pos rfl]
      rfl
    · rw [if_neg hid, if_neg hid]
      rfl
  | _ => rfl

theorem mappingsOf_after (store : MemoryStore) (calls : List StoreCall) (id : MarketplaceId) :
    (store.after calls).mappingsOf id =
      keepMappings (store.mappingsOf id) (savedMappings id calls) := by
  induction calls generalizing store with
  | nil => rfl
  | cons call calls ih =>
    refine (ih _).trans ?_
    rw [mappingsOf_ask, savedMappings, savedMappings, List.filterMap_cons]
    cases call.mappingFor? id <;> rfl

end MemoryStore

/-! ### What is handed to an adapter -/

namespace Service

open Operation

variable {α : Type} [Marketplace α] {service : Service α MemoryStore} {id : MarketplaceId}
variable {adapter : α} {start : MemoryStore} {calls : List StoreCall}

/-- The mappings of the configuration that is in force. -/
def ownMappings (adapter : α) : List CategoryMapping :=
  ((Marketplace.config? adapter).map Config.categoryMappings).getD []

/-- There is one product that is handed over for each: mappings that were saved count as if they
stood behind the own ones, and were all still there. -/
theorem handedAs_iff {own saved : List CategoryMapping} {product handed : Product} :
    HandedAs own saved product handed ↔ mapCategory (own ++ saved) product = handed := by
  rw [mapCategory, targetOf?_append]
  constructor
  · rintro ⟨target, hunder, rfl⟩
    rw [listedUnder_iff.1 hunder]
  · rintro rfl
    exact ⟨_, listedUnder_iff.2 rfl, rfl⟩

/-- To keep only the last mapping for each category makes no difference. -/
theorem handedAs_mapCategory {own saved : List CategoryMapping} (product : Product) :
    HandedAs own saved product (mapCategory (own ++ keepMappings [] saved) product) := by
  rw [handedAs_iff, mapCategory, mapCategory, targetOf?_append, targetOf?_append,
    targetOf?_keepMappings]

theorem mappings_eq (hstart : ∀ id, start.mappingsOf id = [])
    (hstore : service.store = start.after calls) :
    SyncStore.mappings service.store (Marketplace.id adapter) =
      .ok (keepMappings [] (savedMappings (Marketplace.id adapter) calls)) := by
  rw [hstore, ← hstart (Marketplace.id adapter), ← MemoryStore.mappingsOf_after]
  rfl

/-- What an export hands over: the products in their order, each under what its category becomes. -/
theorem on_exportProducts_handed (hstart : ∀ id, start.mappingsOf id = [])
    (hstore : service.store = start.after calls)
    (hready : service.registry.findReady id = .ok adapter) (products : List Product)
    (signal : Signal) :
    ∃ handed,
      List.Forall₂
        (HandedAs (ownMappings adapter) (savedMappings (Marketplace.id adapter) calls))
        products handed ∧
      (exportProducts id products signal).on service =
        (Marketplace.exportProducts adapter handed signal).run >>= fun outcome =>
          pure (outcome.mapError .market, service.afterBatch outcome) := by
  set saved := savedMappings (Marketplace.id adapter) calls with hsaved
  refine ⟨products.map (mapCategory (mappingsWith adapter (keepMappings [] saved))),
    List.forall₂_map_right_iff.2 (List.forall₂_same.2 fun product _ =>
      handedAs_mapCategory product), ?_⟩
  refine (on_mapped hready fun adapter mappings => do
    let result ← Operation.ofAttempt
      (Marketplace.exportProducts adapter (products.map (mapCategory mappings)) signal)
    ExceptT.lift (record result)
    pure result).trans ?_
  rw [mappings_eq hstart hstore]
  exact on_record _ service

theorem on_updateProduct_handed (hstart : ∀ id, start.mappingsOf id = [])
    (hstore : service.store = start.after calls)
    (hready : service.registry.findReady id = .ok adapter) (product : Product) :
    ∃ handed,
      HandedAs (ownMappings adapter) (savedMappings (Marketplace.id adapter) calls) product
        handed ∧
      (updateProduct id product).on service =
        (Marketplace.updateProduct adapter handed).run >>= fun outcome =>
          pure (outcome.mapError .market, service) := by
  set saved := savedMappings (Marketplace.id adapter) calls with hsaved
  refine ⟨mapCategory (mappingsWith adapter (keepMappings [] saved)) product,
    handedAs_mapCategory product, ?_⟩
  refine (on_mapped hready fun adapter mappings =>
    Operation.ofAttempt (Marketplace.updateProduct adapter (mapCategory mappings product))).trans ?_
  rw [mappings_eq hstart hstore]
  exact on_ofAttempt service _

end Service

end ShopSync
