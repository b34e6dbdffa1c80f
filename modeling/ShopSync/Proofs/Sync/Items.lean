import ShopSync.Proofs.Http.Course
import ShopSync.Proofs.Sync.Batch

/-!
A batch, item by item.

The requests of a batch fall into stretches, one for each product that was tried.  Each stretch is
a run of the upsert of its product alone, and what these runs come to is all that the report of the
batch is made of.
-/

namespace ShopSync

open Http (Exchange)

namespace Batch

/-- What happened with a product of a batch, with the requests that were sent for it and what came
back. -/
structure Item extends Trial where
  exchanges : List Exchange

/-- The items are those of a batch over these products: first ones of them, each a run of its
upsert, and nothing else was sent. -/
structure AreRuns (upsert : Product → Attempt Unit) (products : List Product) (es : List Exchange)
    (items : List Item) : Prop where
  product_eq : (items.map fun item => item.product) <+: products
  hasRun : ∀ item ∈ items, (upsert item.product).HasRun item.exchanges item.outcome
  flatten_eq : es = (items.map Item.exchanges).flatten

section Items

variable {upsert : Product → Attempt Unit} {signal : Signal} {products : List Product}
variable {es : List Exchange} {items : List Item}

theorem areRuns_nil (upsert : Product → Attempt Unit) (products : List Product) :
    AreRuns upsert products [] [] where
  product_eq := List.nil_prefix
  hasRun _ hitem := absurd hitem List.not_mem_nil
  flatten_eq := rfl

theorem AreRuns.cons (h : AreRuns upsert products es items) (item : Item)
    (hrun : (upsert item.product).HasRun item.exchanges item.outcome) :
    AreRuns upsert (item.product :: products) (item.exchanges ++ es) (item :: items) where
  product_eq := List.cons_prefix_cons.2 ⟨rfl, h.product_eq⟩
  hasRun := List.forall_mem_cons.2 ⟨hrun, h.hasRun⟩
  flatten_eq := congrArg (item.exchanges ++ ·) h.flatten_eq

/-- The loop goes through items, and its report is what they add to the report before it. -/
theorem exists_areRuns_of_gives {running final : SyncResult} {t : List Answered}
    (h : (exportRest signal upsert products running).Gives t final) :
    ∃ items reason, AreRuns upsert products (exchangesIn t) items ∧
      final = stopped ((items.map Item.toTrial).foldl note running) reason := by
  induction products generalizing running t with
  | nil =>
    obtain ⟨rfl, rfl⟩ := Dialogue.gives_pure_iff.1 h
    exact ⟨[], none, areRuns_nil upsert [], rfl⟩
  | cons product rest ih =>
    rw [exportRest] at h
    obtain ⟨look, t', rfl, hlook⟩ := Dialogue.gives_moment_bind_iff.1 h
    cases hreason : signal.interruption? look with
    | some reason =>
      rw [hreason] at hlook
      obtain ⟨rfl, rfl⟩ := Dialogue.gives_pure_iff.1 hlook
      exact ⟨[], some reason, areRuns_nil upsert _, rfl⟩
    | none =>
      rw [hreason] at hlook
      obtain ⟨outcome, t₁, t₂, rfl, hupsert, htried⟩ := Dialogue.gives_bind_iff.1 hlook
      have hrun : (upsert product).HasRun (exchangesIn t₁) outcome :=
        Attempt.hasRun_iff.2 ⟨t₁, hupsert, rfl⟩
      let item : Item := { product, look, outcome, exchanges := exchangesIn t₁ }
      have hes : exchangesIn (⟨.moment, look⟩ :: (t₁ ++ t₂)) = item.exchanges ++ exchangesIn t₂ :=
        exchangesIn_append t₁ t₂
      -- the rest goes on from a report that notes the item
      have hgoes (hrest : (exportRest signal upsert rest (note running item.toTrial)).Gives t₂
          final) :
          ∃ items reason, AreRuns upsert (product :: rest)
            (exchangesIn (⟨.moment, look⟩ :: (t₁ ++ t₂))) items ∧
            final = stopped ((items.map Item.toTrial).foldl note running) reason := by
        obtain ⟨items, reason, hitems, hfinal⟩ := ih hrest
        rw [hes]
        exact ⟨item :: items, reason, hitems.cons item hrun, hfinal⟩
      cases outcome with
      | ok u => exact hgoes htried
      | error e =>
        dsimp only at htried
        split at htried
        · obtain ⟨rfl, rfl⟩ := Dialogue.gives_pure_iff.1 htried
          rw [hes]
          exact ⟨[item], some _, (areRuns_nil upsert rest).cons item hrun, rfl⟩
        · exact hgoes htried

/-- A batch that comes to a report went through items, and reports the errors of exactly these. -/
theorem exists_areRuns_of_report {marketplace : MarketplaceId} {result : SyncResult}
    (h : (exportProducts marketplace products signal upsert).HasRun es (.ok result)) :
    ∃ items, AreRuns upsert products es items ∧
      result.errors = (items.map Item.toTrial).filterMap Trial.failure? := by
  obtain ⟨t, hgives, rfl⟩ := Attempt.hasRun_iff.1 h
  obtain ⟨entry, id, start, during, final, ended, rfl, hloop, rfl⟩ :=
    gives_exportProducts signal upsert hgives
  obtain ⟨items, reason, hitems, rfl⟩ := exists_areRuns_of_gives hloop
  set running := SyncResult.start id marketplace .outbound products.length start.wall
  have hes : exchangesIn (⟨.moment, entry⟩ :: ⟨.freshId, id⟩ :: ⟨.moment, start⟩ ::
      (during ++ [⟨.moment, ended⟩])) = exchangesIn during := by
    refine (exchangesIn_append during _).trans ?_
    exact List.append_nil _
  -- not more items than products, so the report has room for each of them
  have hroom : ([] : List Trial).length + (items.map Item.toTrial).length ≤ running.total := by
    have hlength := hitems.product_eq.length_le
    rw [List.length_map] at hlength ⊢
    have htotal : running.total = products.length := rfl
    rwa [List.length_nil, Nat.zero_add, htotal]
  have hcounts : (items.map Item.toTrial).foldl note running =
      counting running (items.map Item.toTrial) := foldl_note rfl hroom
  refine ⟨items, hes ▸ hitems, ?_⟩
  rw [hcounts, finish_stopped_counting]
  rfl

theorem eq_nil_of_hasRun_error {marketplace : MarketplaceId} {e : MarketError}
    (h : (exportProducts marketplace products signal upsert).HasRun es (.error e)) : es = [] := by
  obtain ⟨t, hgives, rfl⟩ := Attempt.hasRun_iff.1 h
  rw [run_exportProducts] at hgives
  obtain ⟨entry, t₁, rfl, hentry⟩ := Dialogue.gives_moment_bind_iff.1 hgives
  split at hentry
  case isTrue =>
    obtain ⟨rfl, -⟩ := Dialogue.gives_pure_iff.1 hentry
    rfl
  case isFalse =>
    obtain ⟨id, t₂, rfl, hid⟩ := Dialogue.gives_freshId_bind_iff.1 hentry
    obtain ⟨start, t₃, rfl, hstart⟩ := Dialogue.gives_moment_bind_iff.1 hid
    obtain ⟨final, during, t₄, rfl, -, hfinal⟩ := Dialogue.gives_bind_iff.1 hstart
    obtain ⟨ended, t₅, rfl, hended⟩ := Dialogue.gives_moment_bind_iff.1 hfinal
    cases (Dialogue.gives_pure_iff.1 hended).2

theorem exists_areRuns_of_hasRun {marketplace : MarketplaceId}
    {outcome : Except MarketError SyncResult}
    (h : (exportProducts marketplace products signal upsert).HasRun es outcome) :
    ∃ items, AreRuns upsert products es items ∧ ∀ result, outcome = .ok result →
      result.errors = (items.map Item.toTrial).filterMap Trial.failure? := by
  cases outcome with
  | ok result =>
    obtain ⟨items, hitems, herrors⟩ := exists_areRuns_of_report h
    refine ⟨items, hitems, fun result' heq => ?_⟩
    cases heq
    exact herrors
  | error e =>
    obtain rfl := eq_nil_of_hasRun_error h
    exact ⟨[], areRuns_nil upsert products, fun result heq => by cases heq⟩

end Items

end Batch

end ShopSync
