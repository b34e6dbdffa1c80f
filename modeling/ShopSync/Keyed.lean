/-!
Lists of keys and values with at most one value per key.  A new key goes to the end and a new
value for an old key to the old place, so the order is that in which the keys first came.  Lists of
records that hold their keys are treated the same way by `upsertBy`.
-/

namespace ShopSync.Keyed

variable {κ α : Type} [DecidableEq κ]

/-- The value of a key. -/
def get? (key : κ) : List (κ × α) → Option α
  | [] => none
  | (k, v) :: rest => if k = key then some v else get? key rest

/-- The list with the value of a key set. -/
def put (key : κ) (value : α) : List (κ × α) → List (κ × α)
  | [] => [(key, value)]
  | (k, v) :: rest => if k = key then (key, value) :: rest else (k, v) :: put key value rest

/-- The list without a key. -/
def erase (key : κ) (entries : List (κ × α)) : List (κ × α) :=
  entries.filter fun entry => entry.1 ≠ key

/-- The list with a record in the place of the first one that has its key, or else at the end. -/
def upsertBy {ρ : Type} (key : ρ → κ) (record : ρ) : List ρ → List ρ
  | [] => [record]
  | old :: rest => if key old = key record then record :: rest else old :: upsertBy key record rest

theorem get?_put (key other : κ) (value : α) (entries : List (κ × α)) :
    get? other (put key value entries) = if key = other then some value else get? other entries := by
  induction entries with
  | nil => simp [put, get?]
  | cons entry rest ih =>
    obtain ⟨k, v⟩ := entry
    by_cases hk : k = key <;> by_cases ho : k = other <;> by_cases hko : key = other <;>
      simp_all [put, get?]

/-- Setting a value adds its key at the end, unless it is there. -/
theorem map_fst_put (key : κ) (value : α) (entries : List (κ × α)) :
    (put key value entries).map Prod.fst =
      if key ∈ entries.map Prod.fst then entries.map Prod.fst
      else entries.map Prod.fst ++ [key] := by
  induction entries with
  | nil => simp [put]
  | cons entry rest ih =>
    obtain ⟨k, v⟩ := entry
    by_cases hk : k = key
    · simp [put, hk]
    · simp only [put, hk, if_false, List.map_cons, ih, List.mem_cons]
      by_cases hm : key ∈ rest.map Prod.fst
      · simp [hm]
      · simp [hm, Ne.symm hk]

theorem map_upsertBy {ρ : Type} (key : ρ → κ) (record : ρ) (records : List ρ) :
    (upsertBy key record records).map key =
      if key record ∈ records.map key then records.map key
      else records.map key ++ [key record] := by
  induction records with
  | nil => simp [upsertBy]
  | cons old rest ih =>
    by_cases hk : key old = key record
    · simp [upsertBy, hk]
    · simp only [upsertBy, hk, if_false, List.map_cons, ih, List.mem_cons]
      by_cases hm : key record ∈ rest.map key
      · simp [hm]
      · simp [hm, Ne.symm hk]

end ShopSync.Keyed
