import ShopSync.Proofs.Keyed
import ShopSync.Proofs.Sync.Persistence

/-!
What a store says of its results.

A store keeps one result for each id, in the place of the first one that was saved and as the last
one was.  All four questions about results are answered from that one list: the history of a
marketplace is what is kept of it, newest first, and the newest result of a direction is the first
one of it in the history, whatever was saved again in between (`queries_agree`).
-/

namespace ShopSync

namespace MemoryStore

/-- The results that calls save, in their order. -/
def savedResults (calls : List StoreCall) : List SyncResult :=
  calls.filterMap fun
    | .saveResult result => some result
    | _ => none

/-- The results of a marketplace, oldest first. -/
def entriesOf (store : MemoryStore) (id : MarketplaceId) : List SyncResult :=
  store.results.filter fun result => result.marketplace = id

/-- A store keeps what was saved: one result for each id, the ids in the order in which they were
saved first, and each result as it was saved last. -/
structure KeepsResults (store : MemoryStore) (saved : List SyncResult) : Prop where
  ids : store.results.map SyncResult.id = (saved.map SyncResult.id).eraseDups
  content : ∀ result, result ∈ store.results ↔ Keyed.IsLast SyncResult.id saved result

/-- What a store says of the results of a marketplace and a direction fits together. -/
structure IsConsistent (store : MemoryStore) (id : MarketplaceId) (direction : Direction) :
    Prop where
  nodup : ∀ limit, ((store.history id limit).map SyncResult.id).Nodup
  isPrefix : ∀ {limit limit'}, limit ≤ limit' →
    store.history id limit <+: store.history id limit'
  length : ∀ limit, (store.history id limit).length = min limit (store.entriesOf id).length
  last : ∀ {limit}, (store.entriesOf id).length ≤ limit →
    store.lastResult? id direction =
      (store.history id limit).find? fun result => result.direction = direction
  uninterrupted : ∀ {limit}, (store.entriesOf id).length ≤ limit →
    store.lastUninterrupted? id direction =
      (store.history id limit).find? fun result =>
        result.direction = direction ∧ result.status.isTerminal = true ∧
          result.interruption = none

/-! ### Results that are kept -/

theorem results_after (store : MemoryStore) (calls : List StoreCall) :
    (store.after calls).results =
      Keyed.upsertAll SyncResult.id store.results (savedResults calls) := by
  induction calls generalizing store with
  | nil => rfl
  | cons call calls ih =>
    rw [after, List.foldl_cons, ← after, ih]
    cases call <;> rfl

theorem keepsResults_after (calls : List StoreCall) :
    KeepsResults (after {} calls) (savedResults calls) := by
  have hresults := results_after {} calls
  refine ⟨?_, fun result => ?_⟩
  · rw [hresults]
    exact Keyed.map_upsertAll _ _
  · rw [hresults]
    exact Keyed.mem_upsertAll_iff

/-! ### Questions about results -/

section Questions

variable {store : MemoryStore} {id : MarketplaceId} {direction : Direction} {limit : Nat}

theorem history_eq (store : MemoryStore) (id : MarketplaceId) (limit : Nat) :
    store.history id limit = (store.entriesOf id).reverse.take limit := by
  rw [history, entriesOf, List.filter_reverse]

theorem history_of_le (h : (store.entriesOf id).length ≤ limit) :
    store.history id limit = (store.entriesOf id).reverse := by
  rw [history_eq, List.take_of_length_le]
  rwa [List.length_reverse]

/-- A search of all results of a marketplace is one of its whole history. -/
theorem find?_history (p : SyncResult → Bool) (h : (store.entriesOf id).length ≤ limit) :
    (store.history id limit).find? p =
      store.results.reverse.find? fun result => result.marketplace = id && p result := by
  rw [history_of_le h, entriesOf, ← List.filter_reverse, List.find?_filter]
  simp

theorem isConsistent_of_nodup (h : (store.results.map SyncResult.id).Nodup) (id : MarketplaceId)
    (direction : Direction) : IsConsistent store id direction where
  nodup limit := by
    have hentries : ((store.entriesOf id).map SyncResult.id).Nodup :=
      h.sublist (List.filter_sublist.map _)
    rw [history_eq]
    refine List.Nodup.sublist ((List.take_sublist _ _).map _) ?_
    rwa [List.map_reverse, List.nodup_reverse]
  isPrefix hle := by
    rw [history_eq, history_eq]
    exact List.take_prefix_take_left hle
  length limit := by rw [history_eq, List.length_take, List.length_reverse]
  last hle := by
    rw [find?_history _ hle]
    rfl
  uninterrupted hle := by
    rw [find?_history _ hle, lastUninterrupted?]
    congr 1
    funext result
    cases hinterruption : result.interruption <;>
      simp [concerns, SyncResult.isUninterrupted, hinterruption]

theorem find?_saveResult_of_new {result : SyncResult} {p : SyncResult → Bool}
    (hnew : result.id ∉ store.results.map SyncResult.id) (hp : p result = false) :
    (store.saveResult result).results.reverse.find? p = store.results.reverse.find? p := by
  rw [saveResult, Keyed.upsertBy_of_notMem hnew, List.reverse_append, List.reverse_singleton,
    List.singleton_append, List.find?_cons_of_neg (by rw [hp]; exact Bool.false_ne_true)]

/-- A new result changes nothing that is said of another marketplace or direction. -/
theorem last_saveResult_of_new {result : SyncResult}
    (hnew : result.id ∉ store.results.map SyncResult.id)
    (hother : result.marketplace ≠ id ∨ result.direction ≠ direction) :
    (store.saveResult result).lastResult? id direction = store.lastResult? id direction ∧
      (store.saveResult result).lastUninterrupted? id direction =
        store.lastUninterrupted? id direction := by
  have hforeign : concerns id direction result = false := by
    simpa [concerns, imp_iff_not_or] using hother
  exact ⟨find?_saveResult_of_new hnew hforeign,
    find?_saveResult_of_new hnew (by rw [hforeign, Bool.false_and])⟩

end Questions

/-- **Questions about results agree.**  Whatever a store was asked before, it keeps one result for
each id that was saved, what it says of a marketplace and a direction fits together, and a result
with a new id changes nothing that is said of another marketplace or direction. -/
theorem queries_agree (calls : List StoreCall) :
    KeepsResults (after {} calls) (savedResults calls) ∧
    (∀ id direction, IsConsistent (after {} calls) id direction) ∧
    ∀ result, result.id ∉ (after {} calls).results.map SyncResult.id →
      ∀ id direction, result.marketplace ≠ id ∨ result.direction ≠ direction →
        (after {} (calls ++ [.saveResult result])).lastResult? id direction =
          (after {} calls).lastResult? id direction ∧
        (after {} (calls ++ [.saveResult result])).lastUninterrupted? id direction =
          (after {} calls).lastUninterrupted? id direction := by
  have hkeeps := keepsResults_after calls
  have hnodup : ((after {} calls).results.map SyncResult.id).Nodup := by
    rw [results_after]
    exact Keyed.nodup_upsertAll _ _
  refine ⟨hkeeps, isConsistent_of_nodup hnodup, fun result hnew id direction hother => ?_⟩
  have hafter : after {} (calls ++ [.saveResult result]) =
      (after {} calls).saveResult result := List.foldl_concat _ _ _ _
  rw [hafter]
  exact last_saveResult_of_new hnew hother

/-- An import that ended, and an export; the import is saved again after it, as one that was
stopped early. -/
def resavedCalls : List StoreCall :=
  let imported : SyncResult :=
    { id := ⟨1⟩, marketplace := .etsy, direction := .inbound, status := .completed, total := 0,
      processed := 0, success := 0, failed := 0, errors := [], startedAt := .last,
      completedAt := some .last, interruption := none }
  [.saveResult imported,
    .saveResult { imported with id := ⟨2⟩, direction := .outbound },
    .saveResult { imported with interruption := some .cancelled }]

/-- The import keeps its place behind the export, and nothing to go on from is left of it; a new
export does not change that. -/
theorem queries_agree_resavedCalls :
    ((after {} resavedCalls).history .etsy 2).map (fun result => (result.id, result.interruption)) =
        [(⟨2⟩, none), (⟨1⟩, some .cancelled)] ∧
      ∀ result : SyncResult, result.id = ⟨3⟩ → result.direction = .outbound →
        ((after {} (resavedCalls ++ [.saveResult result])).lastResult? .etsy .inbound).map
            SyncResult.id = some ⟨1⟩ ∧
          (after {} (resavedCalls ++ [.saveResult result])).lastUninterrupted? .etsy .inbound =
            none := by
  refine ⟨by decide, fun result hid hdirection => ?_⟩
  have hnew : result.id ∉ (after {} resavedCalls).results.map SyncResult.id := by
    rw [hid]
    decide
  have hother : result.marketplace ≠ .etsy ∨ result.direction ≠ .inbound := by
    rw [hdirection]
    exact .inr (by decide)
  obtain ⟨hlast, huninterrupted⟩ :=
    (queries_agree resavedCalls).2.2 result hnew .etsy .inbound hother
  rw [hlast, huninterrupted]
  exact ⟨by decide, by decide⟩

end MemoryStore

end ShopSync
