import Mathlib.Tactic
import ShopSync.Proofs.Sync.Watermark

/-!
Where the import after one that was stopped starts.

Once an import ran to its end, the next ones start where it was started until another one does, so
what a stopped import missed is fetched again.  Before that there is nothing to go by but the clock:
every import looks back by the same number of days, and so the start moves on with the clock, past
what a stopped import missed.
-/

namespace ShopSync

/-! ### Looking back -/

namespace Timestamp

theorem isLE_compare_iff {a b : Timestamp} :
    (a.compare b).isLE = true ↔
      a.seconds < b.seconds ∨ a.seconds = b.seconds ∧ a.nanos ≤ b.nanos := by
  unfold compare
  rcases lt_trichotomy a.seconds b.seconds with hlt | heq | hgt
  · rw [compare_lt_iff_lt.2 hlt]
    simp [hlt]
  · rw [compare_eq_iff_eq.2 heq]
    simp [heq, Ordering.then, Nat.isLE_compare]
  · rw [compare_gt_iff_gt.2 hgt]
    simp only [Ordering.then, Ordering.isLE, Bool.false_eq_true, false_iff, not_or, not_lt,
      not_and, not_le]
    exact ⟨hgt.le, fun heq => absurd heq hgt.ne'⟩

theorem subDays_lookbackDays (t : Timestamp) :
    604800 ≤ t.seconds ∧ (t.subDays lookbackDays).seconds = t.seconds - 604800 ∧
        (t.subDays lookbackDays).nanos = t.nanos ∨
      t.seconds < 604800 ∧ t.subDays lookbackDays = epoch := by
  have hdays : lookbackDays * secondsPerDay = 604800 := rfl
  have hlast := t.le_last
  unfold subDays
  dsimp only
  split
  case isTrue hmoved =>
    have hroom : t.seconds - lookbackDays * (secondsPerDay : Int) ≤ lastSecond := by
      rw [hdays]
      omega
    rw [dif_pos hroom]
    rw [hdays] at hmoved
    exact .inl ⟨by omega, rfl, rfl⟩
  case isFalse hclamped =>
    rw [hdays] at hclamped
    exact .inr ⟨by omega, rfl⟩

/-- The end of the days that can only be looked back to the start of 1970. -/
def firstLookback : Timestamp := epoch.subDays (-lookbackDays)

/-- Looking back from a later time leads to a later time, unless both lead to the start of 1970. -/
theorem isLE_compare_lookback_iff {a b : Timestamp} :
    ((a.subDays lookbackDays).compare (b.subDays lookbackDays)).isLE = true ↔
      (a.compare b).isLE = true ∨ (a.compare firstLookback).isLE = true := by
  have hfirst : firstLookback.seconds = 604800 ∧ firstLookback.nanos = 0 := by decide
  have hepoch : epoch.seconds = 0 ∧ epoch.nanos = 0 := by decide
  obtain ⟨hfirstSeconds, hfirstNanos⟩ := hfirst
  obtain ⟨hepochSeconds, hepochNanos⟩ := hepoch
  rw [isLE_compare_iff, isLE_compare_iff, isLE_compare_iff, hfirstSeconds, hfirstNanos]
  rcases subDays_lookbackDays a with ⟨ha, has, han⟩ | ⟨ha, ha'⟩ <;>
    rcases subDays_lookbackDays b with ⟨hb, hbs, hbn⟩ | ⟨hb, hb'⟩
  · rw [has, han, hbs, hbn]
    omega
  · rw [has, han, hb', hepochSeconds, hepochNanos]
    omega
  · rw [ha', hbs, hbn, hepochSeconds, hepochNanos]
    omega
  · rw [ha', hb', hepochSeconds, hepochNanos]
    omega

end Timestamp

/-! ### Calls between imports -/

namespace ServiceCall

/-- Whether the call imports orders. -/
def isImport : ServiceCall → Bool
  | importOrders .. => true
  | importAll _ => true
  | _ => false

theorem eq_nil_of_gives_noImport {β : Type} {operation : Operation Etsy.Adapter MemoryStore β}
    {service after : EtsyService} {t : List Answered} {imports : FanOut OrderImport}
    (h : ((noImport operation).run service).Gives t (imports, after)) : imports = [] := by
  unfold noImport at h
  rw [StateT.run_bind] at h
  obtain ⟨first, t₁, t₂, rfl, -, hlast⟩ := Dialogue.gives_bind_iff.1 h
  obtain ⟨-, heq⟩ := Dialogue.gives_pure_iff.1 hlast
  cases heq
  rfl

theorem eq_nil_of_gives_noImports {β : Type}
    {step : ServiceM Etsy.Adapter MemoryStore (FanOut β)}
    {service after : EtsyService} {t : List Answered} {imports : FanOut OrderImport}
    (h : ((noImports step).run service).Gives t (imports, after)) : imports = [] := by
  unfold noImports at h
  rw [StateT.run_bind] at h
  obtain ⟨first, t₁, t₂, rfl, -, hlast⟩ := Dialogue.gives_bind_iff.1 h
  obtain ⟨-, heq⟩ := Dialogue.gives_pure_iff.1 hlast
  cases heq
  rfl

theorem eq_nil_of_gives_carryOut {call : ServiceCall} (hcall : call.isImport = false)
    {service after : EtsyService} {t : List Answered} {imports : FanOut OrderImport}
    (h : (call.carryOut.run service).Gives t (imports, after)) : imports = [] := by
  cases call with
  | importOrders id since signal => cases hcall
  | importAll signal => cases hcall
  | exportAll products signal => exact eq_nil_of_gives_noImports h
  | updateStockAll sku quantity => exact eq_nil_of_gives_noImports h
  | updatePriceAll sku price => exact eq_nil_of_gives_noImports h
  | invalidateFeed id =>
    obtain ⟨-, heq⟩ := Dialogue.gives_pure_iff.1 h
    cases heq
    rfl
  | restore =>
    obtain ⟨-, heq⟩ := Dialogue.gives_pure_iff.1 h
    cases heq
    rfl
  | _ => exact eq_nil_of_gives_noImport h

theorem eq_nil_of_gives_carryOutAll {calls : List ServiceCall}
    (hcalls : ∀ call ∈ calls, call.isImport = false) {service after : EtsyService}
    {t : List Answered} {imports : FanOut OrderImport}
    (h : ((carryOutAll calls).run service).Gives t (imports, after)) : imports = [] := by
  induction calls generalizing service t imports with
  | nil =>
    obtain ⟨-, heq⟩ := Dialogue.gives_pure_iff.1 h
    cases heq
    rfl
  | cons call calls ih =>
    unfold carryOutAll at h
    rw [StateT.run_bind] at h
    obtain ⟨⟨first, between⟩, t₁, t₂, rfl, hfirst, h⟩ := Dialogue.gives_bind_iff.1 h
    rw [StateT.run_bind] at h
    obtain ⟨⟨others, last⟩, t₃, t₄, rfl, hrest, h⟩ := Dialogue.gives_bind_iff.1 h
    obtain ⟨-, heq⟩ := Dialogue.gives_pure_iff.1 h
    cases heq
    rw [eq_nil_of_gives_carryOut (hcalls call List.mem_cons_self) hfirst,
      ih (fun call hmem => hcalls call (List.mem_cons_of_mem _ hmem)) hrest]
    rfl

end ServiceCall

/-! ### The next start -/

namespace Service

variable {σ : Type} (world : World σ)

/-- What the clock of a world shows. -/
def clock (s : σ) : Timestamp := (Dialogue.moment.run world s).1.wall

theorem run_defaultSince (service : EtsyService) (id : MarketplaceId) (s : σ) :
    (((defaultSince id).on service).run world s).1 =
      (.ok (match service.store.lastUninterrupted? id .inbound with
        | some result => result.startedAt
        | none => (clock world s).subDays lookbackDays), service) := by
  rw [on_defaultSince, Dialogue.run_bind]
  unfold startOf
  cases service.store.lastUninterrupted? id .inbound with
  | some result => rfl
  | none => rfl

theorem since_of_run_importOrders {service after : EtsyService} {id : MarketplaceId}
    {signal : Signal} {s : σ} {i : OrderImport}
    (h : (((importOrders id none signal).on service).run world s).1 = (.ok i, after)) :
    (((defaultSince id).on service).run world s).1 = (.ok i.since, service) := by
  rw [on_importOrders] at h
  rw [on_defaultSince, Dialogue.run_bind]
  cases hready : service.registry.findReady id with
  | error e =>
    rw [hready] at h
    cases h
  | ok adapter =>
    rw [hready] at h
    dsimp only at h
    rw [Dialogue.run_bind] at h
    have hgives := Dialogue.gives_transcript world
      (service.importSince adapter id signal ((service.startOf id none).run world s).1)
      ((service.startOf id none).run world s).2
    rw [h] at hgives
    rcases gives_importSince hgives with ⟨e, habsurd, -⟩ | ⟨during, orders, resultId, started, now,
      ended, -, -, hfound, -⟩
    · cases habsurd
    · cases hfound
      rfl

/-- A stopped import and calls that import nothing leave alone what the next import goes on from. -/
theorem lastUninterrupted?_after {service between after : EtsyService} {id : MarketplaceId}
    {signal : Signal} {t t' : List Answered} {outcome : Except SyncError OrderImport}
    {imports : FanOut OrderImport} {calls : List ServiceCall}
    (hfirst : ((importOrders id none signal).on service).Gives t (outcome, between))
    (hstopped : ∀ i, outcome = .ok i → i.result.interruption.isSome = true)
    (hcalls : ∀ call ∈ calls, call.isImport = false)
    (hothers : ((ServiceCall.carryOutAll calls).run between).Gives t' (imports, after))
    (hids : (service.store.results.map SyncResult.id ++ issuedIn (t ++ t')).Nodup) :
    after.store.lastUninterrupted? id .inbound = service.store.lastUninterrupted? id .inbound := by
  have hnone := ServiceCall.eq_nil_of_gives_carryOutAll hcalls hothers
  subst hnone
  have hadds := (adds_importOrders hfirst).trans (ServiceCall.adds_carryOutAll calls hothers)
  have hclean : lastClean? id ([(id, outcome)] ++ []) = none := by
    cases outcome with
    | error e => rfl
    | ok i =>
      have hreason : ¬i.result.interruption = none := by
        intro hnone
        have hsome := hstopped i rfl
        rw [hnone] at hsome
        cases hsome
      simp [lastClean?, cleanImport?, hreason]
  rw [hadds.lastUninterrupted? hids id, hclean]
  rfl

/-- **The window after a stopped import.**  When an import failed or was interrupted and no other
one came in between, the next one starts no later exactly when there is an import that nothing
stopped, and then both start where that was started, or when the clock did not move on, or when it
still is in the first days of 1970. -/
theorem importOrders_since_le_iff (service : EtsyService) (id : MarketplaceId) (signal : Signal)
    (calls : List ServiceCall) (hcalls : ∀ call ∈ calls, call.isImport = false) (s : σ) :
    let first := (importOrders id none signal).on service
    let ((outcome, between), s') := first.run world s
    let others := (ServiceCall.carryOutAll calls).run between
    let ((_, after), s'') := others.run world s'
    (∀ i, outcome = .ok i → i.result.interruption.isSome = true) →
    (service.store.results.map SyncResult.id ++
      issuedIn (first.transcript world s ++ others.transcript world s')).Nodup →
    ∃ since since' : Timestamp,
      (((defaultSince id).on service).run world s).1 = (.ok since, service) ∧
      (((defaultSince id).on after).run world s'').1 = (.ok since', after) ∧
      (∀ i, outcome = .ok i → i.since = since) ∧
      (∀ signal i last, (((importOrders id none signal).on after).run world s'').1 = (.ok i, last) →
        i.since = since') ∧
      ((service.store.lastUninterrupted? id .inbound).isSome = true → since' = since) ∧
      ((since'.compare since).isLE = true ↔
        (service.store.lastUninterrupted? id .inbound).isSome = true ∨
        ((clock world s'').compare (clock world s)).isLE = true ∨
        ((clock world s'').compare Timestamp.firstLookback).isLE = true) := by
  intro first
  rcases hfirst : first.run world s with ⟨⟨outcome, between⟩, s'⟩
  dsimp only
  rcases hothers : ((ServiceCall.carryOutAll calls).run between).run world s' with
    ⟨⟨imports, after⟩, s''⟩
  dsimp only
  intro hstopped hids
  have hgives := Dialogue.gives_transcript world first s
  rw [hfirst] at hgives
  have hgives' := Dialogue.gives_transcript world
    ((ServiceCall.carryOutAll calls).run between) s'
  rw [hothers] at hgives'
  have hlast := lastUninterrupted?_after hgives hstopped hcalls hgives' hids
  have hsince := run_defaultSince world service id s
  have hsince' := run_defaultSince world after id s''
  rw [hlast] at hsince'
  refine ⟨_, _, hsince, hsince', ?_, ?_, ?_, ?_⟩
  · rintro i rfl
    have hused := since_of_run_importOrders world (congrArg Prod.fst hfirst)
    rw [hsince] at hused
    exact (Except.ok.inj (congrArg Prod.fst hused)).symm
  · intro signal i last hsecond
    have hused := since_of_run_importOrders world hsecond
    rw [hsince'] at hused
    exact (Except.ok.inj (congrArg Prod.fst hused)).symm
  · intro hsome
    obtain ⟨result, hresult⟩ := Option.isSome_iff_exists.1 hsome
    rw [hresult]
  · cases service.store.lastUninterrupted? id .inbound with
    | some result =>
      have hrefl : (result.startedAt.compare result.startedAt).isLE = true :=
        Timestamp.isLE_compare_iff.2 (.inr ⟨rfl, Nat.le_refl _⟩)
      simp [hrefl]
    | none =>
      simp only [Option.isSome_none, Bool.false_eq_true, false_or]
      exact Timestamp.isLE_compare_lookback_iff

/-- A service whose last import was not stopped. -/
def sampleServiceWithImport : EtsyService :=
  { sampleService with
    store := { results := [.ofImport ⟨0⟩ .etsy 2 (.ofUnixNanos 5000000000) .last none] } }

/-- The signal of an import that is late before it is over. -/
def sampleDeadline : Signal := { token := 1, deadline := some 1000004000 }

/-- After an import that was late, both start where the one before that was started. -/
theorem importOrders_since_le_iff_sampleWorld :
    let first := (importOrders .etsy none sampleDeadline).on sampleServiceWithImport
    let ((outcome, between), s') := first.run (sampleWorld 0) 1000000
    let others := (ServiceCall.carryOutAll [.status, .restore]).run between
    let ((_, after), s'') := others.run (sampleWorld 0) s'
    (∀ call ∈ [ServiceCall.status, ServiceCall.restore], call.isImport = false) ∧
      outcome.isOk = true ∧
      (∀ i, outcome = .ok i → i.result.interruption.isSome = true) ∧
      (sampleServiceWithImport.store.results.map SyncResult.id ++
        issuedIn (first.transcript (sampleWorld 0) 1000000 ++
          others.transcript (sampleWorld 0) s')).Nodup ∧
      (((defaultSince .etsy).on after).run (sampleWorld 0) s'').1 =
        (.ok (.ofUnixNanos 5000000000), after) := by
  intro first
  have hcalls : ∀ call ∈ [ServiceCall.status, ServiceCall.restore], call.isImport = false := by
    decide
  have hfacts : (first.run (sampleWorld 0) 1000000).1.1.isOk = true ∧
      ((first.run (sampleWorld 0) 1000000).1.1.toOption.all fun i =>
        i.result.interruption.isSome) = true ∧
      (sampleServiceWithImport.store.results.map SyncResult.id ++
        issuedIn (first.transcript (sampleWorld 0) 1000000 ++
          ((ServiceCall.carryOutAll [.status, .restore]).run
            (first.run (sampleWorld 0) 1000000).1.2).transcript (sampleWorld 0)
              (first.run (sampleWorld 0) 1000000).2)).Nodup := by
    decide +kernel
  have hholds := importOrders_since_le_iff (sampleWorld 0) sampleServiceWithImport .etsy
    sampleDeadline [.status, .restore] hcalls 1000000
  rcases hfirst : first.run (sampleWorld 0) 1000000 with ⟨⟨outcome, between⟩, s'⟩
  rw [hfirst] at hfacts
  dsimp only at hfacts ⊢
  obtain ⟨hok, hstopped, hids⟩ := hfacts
  have hstopped : ∀ i, outcome = .ok i → i.result.interruption.isSome = true := by
    rintro i rfl
    exact hstopped
  change ((importOrders .etsy none sampleDeadline).on sampleServiceWithImport).run (sampleWorld 0)
    1000000 = _ at hfirst
  dsimp only at hholds
  rw [hfirst] at hholds
  obtain ⟨since, since', hsince, hsince', -, -, hsame, -⟩ := hholds hstopped hids
  have hstart : since = .ofUnixNanos 5000000000 := by
    rw [run_defaultSince] at hsince
    exact (Except.ok.inj (congrArg Prod.fst hsince)).symm
  have hknown :
      (sampleServiceWithImport.store.lastUninterrupted? .etsy .inbound).isSome = true := by
    decide
  rw [hsame hknown, hstart] at hsince'
  exact ⟨hcalls, hok, hstopped, hids, hsince'⟩

/-- Without such an import the start moves on with the clock: of two imports, one right after the
other, the first is late and the second starts behind it. -/
theorem importOrders_since_moves_on :
    let first := (importOrders .etsy none sampleDeadline).on sampleService
    let ((outcome, between), s') := first.run (sampleWorld 0) 1000000
    let second := (importOrders .etsy none { token := 1 }).on between
    let ((outcome', _), _) := second.run (sampleWorld 0) s'
    (outcome.toOption.map fun i => (i.since, i.result.interruption)) =
        some (.ofUnixNanos 395200000000000, some .deadlineExceeded) ∧
      (outcome'.toOption.map OrderImport.since) = some (.ofUnixNanos 395207000000000) ∧
      ((Timestamp.ofUnixNanos 395207000000000).compare (.ofUnixNanos 395200000000000)).isLE =
        false := by
  decide +kernel

end Service

end ShopSync
