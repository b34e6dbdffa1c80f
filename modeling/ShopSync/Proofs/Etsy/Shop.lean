import Mathlib.Tactic
import ShopSync.Json.Loose

/-!
A shop with listings.

A listing has an id, a SKU, fields and images.  An offer is written to the first listing of its
SKU, whose fields it overwrites; when there is none, a listing with a fresh id is added first.
Main statements, about offers that are written one after another: there is one listing more of a
SKU exactly when it was offered and had none (`count_sku_upsertAll`), listings of other SKUs stay as
they are (`filter_sku_upsertAll`), and writing the same offers again changes nothing
(`upsertAll_upsertAll`).
-/

namespace ShopSync.Etsy

open Json (Value)
open Json.Loose (Members)
open Number (int64Limit)

/-! ### Listings -/

/-- A listing of a shop. -/
structure ShopListing where
  id : Int
  sku : String
  fields : String → Option Value
  images : List String

/-- The fields with those that are sent in the place of the old ones. -/
def overwrite (fields : String → Option Value) (sent : Members) : String → Option Value :=
  fun key => (Keyed.get? key sent).or (fields key)

/-- The SKU that fields name. -/
def skuIn (sent : Members) : Option String :=
  match Keyed.get? "sku" sent with
  | some (.array (.string sku :: _)) => some sku
  | _ => none

/-- What is offered under a SKU. -/
structure Offer where
  sku : String
  fields : Members
  images : List String
  skuIn_fields : skuIn fields = some sku

/-- The listings with fields of the first one of a SKU overwritten. -/
def patchFirst (sku : String) (sent : Members) : List ShopListing → List ShopListing
  | [] => []
  | l :: ls =>
    if l.sku = sku then { l with fields := overwrite l.fields sent } :: ls
    else l :: patchFirst sku sent ls

/-- The id of the first listing of a SKU. -/
def firstId (sku : String) (ls : List ShopListing) : Option Int :=
  (ls.find? fun l => l.sku = sku).map ShopListing.id

@[simp] theorem map_sku_patchFirst (sku : String) (sent : Members) (ls : List ShopListing) :
    (patchFirst sku sent ls).map ShopListing.sku = ls.map ShopListing.sku := by
  induction ls with
  | nil => rfl
  | cons l ls ih =>
    rw [patchFirst]
    split
    · rfl
    · rw [List.map_cons, ih, List.map_cons]

@[simp] theorem firstId_patchFirst (sku other : String) (sent : Members) (ls : List ShopListing) :
    firstId sku (patchFirst other sent ls) = firstId sku ls := by
  induction ls with
  | nil => rfl
  | cons l ls ih =>
    rw [firstId] at ih
    rw [patchFirst]
    split
    · by_cases h : l.sku = sku <;> simp [firstId, h]
    · by_cases h : l.sku = sku
      · simp [firstId, h]
      · simp only [firstId, List.find?_cons, h, decide_false, ih]

theorem filter_sku_patchFirst {sku other : String} (h : other ≠ sku) (sent : Members)
    (ls : List ShopListing) :
    (patchFirst sku sent ls).filter (fun l => l.sku = other) =
      ls.filter fun l => l.sku = other := by
  induction ls with
  | nil => rfl
  | cons l ls ih =>
    rw [patchFirst]
    split
    case isTrue hl =>
      have hne : ¬l.sku = other := fun heq => h (heq.symm.trans hl)
      simp [hne]
    case isFalse =>
      rw [List.filter_cons, List.filter_cons, ih]

theorem patchFirst_concat {sku : String} {l : ShopListing} (h : l.sku ≠ sku) (sent : Members)
    (ls : List ShopListing) : patchFirst sku sent (ls ++ [l]) = patchFirst sku sent ls ++ [l] := by
  induction ls with
  | nil => simp [patchFirst, h]
  | cons l' ls ih =>
    rw [List.cons_append, patchFirst, patchFirst]
    split
    · rfl
    · rw [ih, List.cons_append]

theorem patchFirst_append {sku : String} {ls : List ShopListing}
    (h : sku ∉ ls.map ShopListing.sku) (sent : Members) (ls' : List ShopListing) :
    patchFirst sku sent (ls ++ ls') = ls ++ patchFirst sku sent ls' := by
  induction ls with
  | nil => rfl
  | cons l ls ih =>
    rw [List.map_cons, List.mem_cons, not_or] at h
    rw [List.cons_append, patchFirst, if_neg (Ne.symm h.1), ih h.2, List.cons_append]

/-! ### Offers one after another -/

/-- The listings after several offers to listings that are there. -/
def patchAll (offers : List Offer) (ls : List ShopListing) : List ShopListing :=
  offers.foldl (fun ls offer => patchFirst offer.sku offer.fields ls) ls

/-- The fields after several offers. -/
def overwriteAll (fields : String → Option Value) (offers : List Offer) :
    String → Option Value :=
  offers.foldl (fun fields offer => overwrite fields offer.fields) fields

/-- What the offers say of a key counts; when they say nothing, the old field stays. -/
theorem overwriteAll_apply (fields : String → Option Value) (offers : List Offer) (key : String) :
    overwriteAll fields offers key = (overwriteAll (fun _ => none) offers key).or (fields key) := by
  induction offers using List.reverseRecOn with
  | nil => rfl
  | append_singleton offers offer ih =>
    rw [overwriteAll, overwriteAll, List.foldl_concat, List.foldl_concat, ← overwriteAll,
      ← overwriteAll, overwrite, overwrite, ih, Option.or_assoc]

theorem overwriteAll_overwriteAll (fields : String → Option Value) (offers : List Offer) :
    overwriteAll (overwriteAll fields offers) offers = overwriteAll fields offers := by
  funext key
  rw [overwriteAll_apply, overwriteAll_apply fields, ← Option.or_assoc, Option.or_self]

theorem patchAll_nil (offers : List Offer) : patchAll offers [] = [] := by
  induction offers with
  | nil => rfl
  | cons offer offers ih => exact ih

/-- The first listing takes the offers of its SKU, and the others are left to the rest. -/
theorem patchAll_cons (offers : List Offer) (l : ShopListing) (ls : List ShopListing) :
    patchAll offers (l :: ls) =
      { l with fields := overwriteAll l.fields (offers.filter fun offer => offer.sku = l.sku) } ::
        patchAll (offers.filter fun offer => offer.sku ≠ l.sku) ls := by
  induction offers generalizing l ls with
  | nil => rfl
  | cons offer offers ih =>
    rw [patchAll, List.foldl_cons, patchFirst, ← patchAll]
    by_cases h : l.sku = offer.sku
    · rw [if_pos h, ih]
      simp [h, overwriteAll]
    · rw [if_neg h, ih]
      simp [Ne.symm h, patchAll]

/-- The same offers a second time change nothing. -/
theorem patchAll_patchAll (offers : List Offer) (ls : List ShopListing) :
    patchAll offers (patchAll offers ls) = patchAll offers ls := by
  induction ls generalizing offers with
  | nil => rw [patchAll_nil, patchAll_nil]
  | cons l ls ih =>
    rw [patchAll_cons, patchAll_cons]
    simp only [overwriteAll_overwriteAll, ih]

@[simp] theorem map_sku_patchAll (offers : List Offer) (ls : List ShopListing) :
    (patchAll offers ls).map ShopListing.sku = ls.map ShopListing.sku := by
  induction offers generalizing ls with
  | nil => rfl
  | cons offer offers ih => exact (ih _).trans (map_sku_patchFirst _ _ ls)

theorem patchAll_concat {offers : List Offer} {l : ShopListing}
    (h : l.sku ∉ offers.map Offer.sku) (ls : List ShopListing) :
    patchAll offers (ls ++ [l]) = patchAll offers ls ++ [l] := by
  induction offers generalizing ls with
  | nil => rfl
  | cons offer offers ih =>
    rw [List.map_cons, List.mem_cons, not_or] at h
    rw [patchAll, List.foldl_cons, patchFirst_concat h.1, ← patchAll, ih h.2]
    rfl

/-! ### Stocks -/

/-- Listings, and the ids that those to come will have. -/
structure Stock where
  listings : List ShopListing
  unused : List Int

namespace Stock

variable (stock : Stock) (offer : Offer) (offers : List Offer)

/-- The SKUs of the listings. -/
def skus : List String := stock.listings.map ShopListing.sku

/-- The stock with a listing for an offer: a new one, still without fields, when there is none. -/
def ensure : Stock :=
  if offer.sku ∈ stock.skus then stock
  else
    match stock.unused with
    | [] => stock
    | id :: rest =>
      { listings := stock.listings ++
          [{ id, sku := offer.sku, fields := fun _ => none, images := offer.images }]
        unused := rest }

/-- The stock after an offer. -/
def upsert : Stock :=
  { stock.ensure offer with
    listings := patchFirst offer.sku offer.fields (stock.ensure offer).listings }

/-- The stock after several offers. -/
def upsertAll : Stock := offers.foldl upsert stock

theorem upsertAll_cons :
    stock.upsertAll (offer :: offers) = (stock.upsert offer).upsertAll offers := rfl

variable {stock offer offers}

theorem ensure_of_mem (h : offer.sku ∈ stock.skus) : stock.ensure offer = stock := if_pos h

theorem upsert_of_mem (h : offer.sku ∈ stock.skus) :
    stock.upsert offer =
      { stock with listings := patchFirst offer.sku offer.fields stock.listings } := by
  rw [upsert, ensure_of_mem h]

theorem upsert_of_notMem {id : Int} {rest : List Int} (h : offer.sku ∉ stock.skus)
    (hunused : stock.unused = id :: rest) :
    stock.upsert offer =
      { listings := stock.listings ++
          [{ id, sku := offer.sku, fields := overwrite (fun _ => none) offer.fields
             images := offer.images }]
        unused := rest } := by
  rw [upsert, ensure, if_neg h, hunused]
  simp only [patchFirst_append h, patchFirst, reduceIte]

/-! ### SKUs -/

theorem skus_upsert_of_mem (h : offer.sku ∈ stock.skus) :
    (stock.upsert offer).skus = stock.skus := by
  rw [upsert_of_mem h]
  exact map_sku_patchFirst _ _ _

theorem skus_upsert_of_notMem (h : offer.sku ∉ stock.skus) (hunused : stock.unused ≠ []) :
    (stock.upsert offer).skus = stock.skus ++ [offer.sku] := by
  obtain ⟨id, rest, hunused⟩ := List.exists_cons_of_ne_nil hunused
  rw [upsert_of_notMem h hunused, skus, skus, List.map_append]
  rfl

theorem skus_subset_upsert (stock : Stock) (offer : Offer) :
    stock.skus ⊆ (stock.upsert offer).skus := by
  by_cases h : offer.sku ∈ stock.skus
  · rw [skus_upsert_of_mem h]
    exact List.Subset.refl _
  · cases hunused : stock.unused with
    | nil =>
      rw [upsert, ensure, if_neg h, hunused, skus, skus, map_sku_patchFirst]
      exact List.Subset.refl _
    | cons id rest =>
      rw [skus_upsert_of_notMem h (by simp [hunused])]
      exact List.subset_append_left _ _

theorem mem_skus_upsert (hunused : stock.unused ≠ []) : offer.sku ∈ (stock.upsert offer).skus := by
  by_cases h : offer.sku ∈ stock.skus
  · exact skus_subset_upsert stock offer h
  · rw [skus_upsert_of_notMem h hunused]
    exact List.mem_append_right _ (List.mem_singleton_self _)

/-- An offer takes at most one of the ids. -/
theorem length_unused_upsert (stock : Stock) (offer : Offer) :
    stock.unused.length ≤ (stock.upsert offer).unused.length + 1 := by
  by_cases h : offer.sku ∈ stock.skus
  · rw [upsert_of_mem h]
    exact Nat.le_succ _
  · cases hunused : stock.unused with
    | nil => exact Nat.zero_le _
    | cons id rest =>
      rw [upsert_of_notMem h hunused]
      exact Nat.le_refl _

theorem count_sku_upsert (hunused : stock.unused ≠ []) (sku : String) :
    (stock.upsert offer).skus.count sku =
      if sku = offer.sku then max 1 (stock.skus.count sku) else stock.skus.count sku := by
  by_cases h : offer.sku ∈ stock.skus
  · rw [skus_upsert_of_mem h]
    split
    case isTrue heq =>
      rw [heq, Nat.max_eq_right (List.count_pos_iff.2 h)]
    case isFalse => rfl
  · rw [skus_upsert_of_notMem h hunused, List.count_append]
    split
    case isTrue heq =>
      rw [heq, List.count_eq_zero_of_not_mem h, List.count_singleton_self]
      rfl
    case isFalse hne =>
      rw [List.count_singleton, if_neg (by simpa using Ne.symm hne), Nat.add_zero]

theorem filter_sku_upsert {sku : String} (h : sku ≠ offer.sku) :
    (stock.upsert offer).listings.filter (fun l => l.sku = sku) =
      stock.listings.filter fun l => l.sku = sku := by
  rw [upsert, filter_sku_patchFirst h, ensure]
  split
  · rfl
  · split
    · rfl
    · simp [Ne.symm h]

/-! ### All offers -/

theorem skus_subset_upsertAll (stock : Stock) (offers : List Offer) :
    stock.skus ⊆ (stock.upsertAll offers).skus := by
  induction offers generalizing stock with
  | nil => exact List.Subset.refl _
  | cons offer offers ih => exact List.Subset.trans (skus_subset_upsert stock offer) (ih _)

theorem mem_skus_upsertAll (hunused : offers.length ≤ stock.unused.length) :
    ∀ offer ∈ offers, offer.sku ∈ (stock.upsertAll offers).skus := by
  induction offers generalizing stock with
  | nil => simp
  | cons first offers ih =>
    have hne : stock.unused ≠ [] := by
      rintro h
      simp [h] at hunused
    have hlength := length_unused_upsert stock first
    rw [List.length_cons] at hunused
    intro offer hoffer
    rcases List.mem_cons.1 hoffer with rfl | hoffer
    · exact skus_subset_upsertAll _ offers (mem_skus_upsert hne)
    · exact ih (by omega) offer hoffer

/-- There is one listing more of a SKU exactly when it was offered and had none. -/
theorem count_sku_upsertAll (hunused : offers.length ≤ stock.unused.length) (sku : String) :
    (stock.upsertAll offers).skus.count sku =
      if sku ∈ offers.map Offer.sku then max 1 (stock.skus.count sku)
      else stock.skus.count sku := by
  induction offers generalizing stock with
  | nil => rfl
  | cons offer offers ih =>
    have hne : stock.unused ≠ [] := by
      rintro h
      simp [h] at hunused
    have hlength := length_unused_upsert stock offer
    rw [List.length_cons] at hunused
    rw [upsertAll_cons, ih (by omega), count_sku_upsert hne]
    by_cases hsku : sku = offer.sku <;> by_cases hmem : sku ∈ offers.map Offer.sku <;>
      simp [hsku, hmem]

theorem filter_sku_upsertAll {sku : String} (h : sku ∉ offers.map Offer.sku) :
    (stock.upsertAll offers).listings.filter (fun l => l.sku = sku) =
      stock.listings.filter fun l => l.sku = sku := by
  induction offers generalizing stock with
  | nil => rfl
  | cons offer offers ih =>
    rw [List.map_cons, List.mem_cons, not_or] at h
    rw [upsertAll_cons, ih h.2, filter_sku_upsert h.1]

/-! ### Offers that are made again -/

/-- The stock with a listing for each of several offers. -/
def ensureAll (stock : Stock) (offers : List Offer) : Stock := offers.foldl ensure stock

theorem ensureAll_concat (stock : Stock) (offers : List Offer) (offer : Offer) :
    stock.ensureAll (offers ++ [offer]) = (stock.ensureAll offers).ensure offer :=
  List.foldl_concat _ _ _ _

theorem upsertAll_concat (stock : Stock) (offers : List Offer) (offer : Offer) :
    stock.upsertAll (offers ++ [offer]) = (stock.upsertAll offers).upsert offer :=
  List.foldl_concat _ _ _ _

/-- Whether there has to be a new listing does not depend on what was written to the others. -/
theorem ensure_patchAll (h : ∀ other ∈ offers, other.sku ∈ stock.skus) (offer : Offer) :
    ensure { stock with listings := patchAll offers stock.listings } offer =
      { stock.ensure offer with listings := patchAll offers (stock.ensure offer).listings } := by
  unfold ensure
  rw [show skus { stock with listings := patchAll offers stock.listings } = stock.skus from
    map_sku_patchAll offers stock.listings]
  split
  case isTrue => rfl
  case isFalse hnew =>
    have hother : offer.sku ∉ offers.map Offer.sku := by
      intro hmem
      obtain ⟨other, hother, heq⟩ := List.mem_map.1 hmem
      exact hnew (heq ▸ h other hother)
    obtain ⟨listings, unused⟩ := stock
    cases unused with
    | nil => rfl
    | cons id rest =>
      rw [Stock.mk.injEq]
      exact ⟨(patchAll_concat hother listings).symm, rfl⟩

/-- The listings for several offers may all be added before any of them is written. -/
theorem upsertAll_eq (hunused : offers.length ≤ stock.unused.length) :
    stock.upsertAll offers =
      { stock.ensureAll offers with
        listings := patchAll offers (stock.ensureAll offers).listings } := by
  induction offers using List.reverseRecOn with
  | nil => rfl
  | append_singleton offers offer ih =>
    rw [List.length_append, List.length_singleton] at hunused
    have hbefore := ih (by omega)
    have hlisted : ∀ other ∈ offers, other.sku ∈ (stock.ensureAll offers).skus := by
      intro other hother
      have hmem : other.sku ∈ (stock.upsertAll offers).skus :=
        mem_skus_upsertAll (by omega) other hother
      rwa [hbefore, skus, map_sku_patchAll] at hmem
    rw [upsertAll_concat, ensureAll_concat, hbefore, upsert, ensure_patchAll hlisted, patchAll,
      patchAll, List.foldl_concat]

theorem upsertAll_of_mem (h : ∀ offer ∈ offers, offer.sku ∈ stock.skus) :
    stock.upsertAll offers = { stock with listings := patchAll offers stock.listings } := by
  induction offers generalizing stock with
  | nil => rfl
  | cons offer offers ih =>
    have hfirst := h offer List.mem_cons_self
    have hrest : ∀ other ∈ offers, other.sku ∈ (stock.upsert offer).skus := by
      intro other hother
      rw [skus_upsert_of_mem hfirst]
      exact h other (List.mem_cons_of_mem _ hother)
    rw [upsertAll_cons, ih hrest, upsert_of_mem hfirst]
    rfl

/-- The same offers a second time change nothing. -/
theorem upsertAll_upsertAll (hunused : offers.length ≤ stock.unused.length) :
    (stock.upsertAll offers).upsertAll offers = stock.upsertAll offers := by
  rw [upsertAll_of_mem (mem_skus_upsertAll hunused), upsertAll_eq hunused]
  simp only [patchAll_patchAll]

end Stock

end ShopSync.Etsy
