import Mathlib.Tactic
import ShopSync.Proofs.Etsy.Session
import ShopSync.Proofs.Sync.Call

/-!
Where the next import starts.

The result of an import starts at a look at the clocks in front of the first request and notes what
the signal shows at a look behind the last one.  As a clock does not go back, a signal that made the
pages stop early still shows when it is looked at again, so the import is no clean one.  After that
the next import without a start of its own goes on from the last clean one, whatever was done in
between.
-/

namespace ShopSync

/-! ### Clocks that do not go back -/

/-- The first moment is not behind the second: the clock went on, and what was cancelled stays
cancelled. -/
def Moment.Precedes (first second : Moment) : Prop :=
  first.uptime ≤ second.uptime ∧ first.cancelled ⊆ second.cancelled

instance (first second : Moment) : Decidable (first.Precedes second) :=
  inferInstanceAs (Decidable (_ ∧ _))

theorem Signal.isStopped_of_precedes {signal : Signal} {first second : Moment}
    (h : first.Precedes second) (hfired : signal.isStopped first = true) :
    signal.isStopped second = true := by
  obtain ⟨huptime, hcancelled⟩ := h
  unfold isStopped interruption? at *
  by_cases htoken : signal.token ∈ second.cancelled
  · rw [if_pos htoken]
    rfl
  · have hbefore : signal.token ∉ first.cancelled := fun h => htoken (hcancelled h)
    rw [if_neg hbefore] at hfired
    rw [if_neg htoken]
    cases hdeadline : signal.deadline with
    | none =>
      rw [hdeadline] at hfired
      cases hfired
    | some deadline =>
      rw [hdeadline] at hfired
      dsimp only at hfired ⊢
      by_cases hlate : deadline ≤ first.uptime
      · rw [if_pos (hlate.trans huptime)]
        rfl
      · rw [if_neg hlate] at hfired
        cases hfired

/-! ### Clean imports -/

/-- The import of a marketplace that came to something and that no signal stopped. -/
def cleanImport? (id : MarketplaceId) :
    MarketplaceId × Except SyncError OrderImport → Option OrderImport
  | (_, .error _) => none
  | (of, .ok i) => if of = id ∧ i.result.interruption = none then some i else none

/-- The last clean import of a marketplace. -/
def lastClean? (id : MarketplaceId) (imports : FanOut OrderImport) : Option OrderImport :=
  imports.reverse.findSome? (cleanImport? id)

/-- Among the results of imports, those of clean imports are the ones to go on from. -/
theorem find?_importedResults {id : MarketplaceId} {imports : FanOut OrderImport}
    (hends : ∀ of i, (of, .ok i) ∈ imports →
      i.result.marketplace = of ∧ i.result.status.isTerminal = true)
    (hinbound : ∀ result ∈ importedResults imports, result.direction = .inbound) :
    ((importedResults imports).find? fun result =>
        MemoryStore.concerns id .inbound result && result.isUninterrupted) =
      (imports.findSome? (cleanImport? id)).map OrderImport.result := by
  induction imports with
  | nil => rfl
  | cons first rest ih =>
    obtain ⟨of, outcome⟩ := first
    have hrest := ih (fun of i hmem => hends of i (List.mem_cons_of_mem _ hmem))
    cases outcome with
    | error e => exact hrest hinbound
    | ok i =>
      obtain ⟨hmarketplace, hterminal⟩ := hends of i List.mem_cons_self
      have hcons : importedResults ((of, .ok i) :: rest) = i.result :: importedResults rest := rfl
      rw [hcons] at hinbound ⊢
      have hdirection := hinbound i.result List.mem_cons_self
      have hclean : (MemoryStore.concerns id .inbound i.result && i.result.isUninterrupted) =
          decide (of = id ∧ i.result.interruption = none) := by
        rw [MemoryStore.concerns, SyncResult.isUninterrupted, hmarketplace, hdirection, hterminal]
        cases i.result.interruption <;> simp
      rw [List.find?_cons, List.findSome?_cons, hclean, cleanImport?]
      split
      case h_1 htrue =>
        rw [if_pos (of_decide_eq_true htrue)]
        rfl
      case h_2 hfalse =>
        rw [if_neg (of_decide_eq_false hfalse)]
        exact hrest fun result hmem => hinbound result (List.mem_cons_of_mem _ hmem)

theorem keepAll_of_nodup {results added : List SyncResult}
    (h : (results.map SyncResult.id ++ added.map SyncResult.id).Nodup) :
    keepAll results added = results ++ added := by
  induction added generalizing results with
  | nil => exact (List.append_nil results).symm
  | cons result rest ih =>
    have hnew : result.id ∉ results.map SyncResult.id := by
      rw [List.map_cons, List.nodup_append] at h
      intro hmem
      exact h.2.2 result.id hmem result.id List.mem_cons_self rfl
    have hrest : keepAll (results ++ [result]) rest = results ++ [result] ++ rest := by
      apply ih
      rwa [List.map_append, List.append_assoc]
    rw [keepAll, List.foldl_cons, Keyed.upsertBy_of_notMem hnew]
    rw [keepAll, List.append_assoc, List.singleton_append] at hrest
    exact hrest

/-- After additions the last clean import among them is what the store goes on from. -/
theorem Adds.lastUninterrupted? {service after : EtsyService} {t : List Answered}
    {imports : FanOut OrderImport} (h : Adds service t imports after)
    (hids : (service.store.results.map SyncResult.id ++ issuedIn t).Nodup) (id : MarketplaceId) :
    after.store.lastUninterrupted? id .inbound =
      ((lastClean? id imports).map OrderImport.result).or
        (service.store.lastUninterrupted? id .inbound) := by
  obtain ⟨added, hresults, hissued, himports, hends⟩ := h
  have hadded : after.store.results = service.store.results ++ added := by
    rw [hresults]
    exact keepAll_of_nodup (hids.sublist ((List.Sublist.refl _).append hissued))
  have hreverse : importedResults imports.reverse = (importedResults imports).reverse :=
    List.filterMap_reverse
  have hfound : added.reverse.find? (fun result =>
      MemoryStore.concerns id .inbound result && result.isUninterrupted) =
        (lastClean? id imports).map OrderImport.result := by
    rw [lastClean?, ← find?_importedResults, hreverse, ← himports, ← List.filter_reverse,
      List.find?_filter]
    · congr 1
      funext result
      simp only [MemoryStore.concerns]
      cases result.direction <;> simp
    · intro of i hmem
      exact hends of i (List.mem_reverse.1 hmem)
    · intro result hmem
      rw [hreverse, List.mem_reverse, ← himports, List.mem_filter] at hmem
      simpa using hmem.2
  rw [MemoryStore.lastUninterrupted?, hadded, List.reverse_append, List.find?_append, hfound]
  rfl

/-! ### Where imports start -/

namespace Service

theorem query_of_gives_startOf {α : Type} {service : Service α MemoryStore} {id : MarketplaceId}
    {since : Option Timestamp} {t : List Answered} {start : Timestamp}
    (h : (service.startOf id since).Gives t start) : ∀ x ∈ t, x.query = .moment := by
  intro x hx
  cases since with
  | some since =>
    obtain ⟨rfl, -⟩ := Dialogue.gives_pure_iff.1 h
    cases hx
  | none =>
    unfold startOf at h
    cases hlast : service.store.lastUninterrupted? id .inbound with
    | some result =>
      rw [hlast] at h
      obtain ⟨rfl, -⟩ := Dialogue.gives_pure_iff.1 h
      cases hx
    | none =>
      rw [hlast] at h
      obtain ⟨now, rest, rfl, hrest⟩ := Dialogue.gives_moment_bind_iff.1 h
      obtain ⟨rfl, -⟩ := Dialogue.gives_pure_iff.1 hrest
      rw [List.mem_singleton] at hx
      rw [hx]

theorem mem_upsertBy (result : SyncResult) (results : List SyncResult) :
    result ∈ Keyed.upsertBy SyncResult.id result results := by
  induction results with
  | nil => exact List.mem_singleton_self result
  | cons old rest ih =>
    unfold Keyed.upsertBy
    split
    · exact List.mem_cons_self
    · exact List.mem_cons_of_mem old ih

/-- The course of an import that comes to something. -/
theorem importOrders_course {service after : EtsyService} {id : MarketplaceId}
    {since : Option Timestamp} {signal : Signal} {t : List Answered} {i : OrderImport}
    (h : ((importOrders id since signal).on service).Gives t (.ok i, after)) :
    ∃ (before during : List Answered) (resultId : Uuid) (started now ended : Moment),
      t = before ++ ⟨.moment, started⟩ :: (during ++
        [⟨.freshId, resultId⟩, ⟨.moment, now⟩, ⟨.moment, ended⟩]) ∧
      (∀ x ∈ before, x.query = .moment) ∧
      i.result.startedAt = started.wall ∧
      i.result.interruption = signal.interruption? now ∧
      i.result ∈ after.store.results ∧
      ((looksOf t).Pairwise Moment.Precedes →
        (∃ look ∈ looksOf t.dropLast, signal.isStopped look = true) →
        i.result.interruption.isSome = true) := by
  rcases gives_importOrders h with ⟨e, habsurd, -⟩ | ⟨adapter, start, before, during, orders,
    resultId, started, now, ended, rfl, -, hstart, -, heq, rfl⟩
  · cases habsurd
  · cases heq
    refine ⟨before, during, resultId, started, now, ended, rfl, query_of_gives_startOf hstart, rfl,
      rfl, ?_, ?_⟩
    · rw [store_imported]
      exact mem_upsertBy _ _
    · rintro hsteady ⟨look, hlook, hfired⟩
      set front := before ++ ⟨.moment, started⟩ :: (during ++ [⟨.freshId, resultId⟩]) with hfront
      have hsplit : before ++ ⟨.moment, started⟩ :: (during ++
          [⟨.freshId, resultId⟩, ⟨.moment, now⟩, ⟨.moment, ended⟩]) =
            front ++ [⟨.moment, now⟩] ++ [⟨.moment, ended⟩] := by
        simp [hfront]
      rw [hsplit] at hsteady hlook
      rw [List.dropLast_concat, looksOf_append, List.mem_append] at hlook
      rw [looksOf_append, looksOf_append, List.pairwise_append, List.pairwise_append] at hsteady
      rcases hlook with hlook | hlook
      · -- the look at the end comes behind all others
        have hprecedes : look.Precedes now := hsteady.1.2.2 look hlook now List.mem_cons_self
        exact Signal.isStopped_of_precedes hprecedes hfired
      · obtain rfl : look = now := by simpa using hlook
        exact hfired

/-- A world in which a second passes with every query, the token 0 is cancelled after ten, and every
page has the same number of receipts. -/
def sampleWorld (receipts : Nat) : World Nat where
  answer
    | .exchange _, n =>
      let results := String.intercalate "," (List.replicate receipts "\x7b\x7d")
      (.ok (.ok ("\x7b\"results\":[" ++ results ++ "]\x7d")), n + 1)
    | .moment, n =>
      ({ wall := .ofUnixNanos (1000000000 * n), uptime := 1000 * n,
         cancelled := if n < 10 then [] else [0] }, n + 1)
    | .freshId, n => (⟨BitVec.ofNat 128 n⟩, n + 1)
    | .pace _, n => ((), n)
    | .fileExists _, n => (false, n)
    | .readFile _, n => (.error .missing, n)
    | .writeFile _ _, n => (.error .denied, n)

/-- A service that kept nothing so far. -/
def sampleService : EtsyService where
  registry := Registry.empty.register { config := some Etsy.sampleConfig }
  store := {}

/-- An import that nothing stops, one that is cancelled while its page is sent, and a restored
store. -/
def sampleServiceCalls : List ServiceCall :=
  [.importOrders .etsy none { token := 1 }, .importOrders .etsy none { token := 0 }, .restore]

end Service

end ShopSync
