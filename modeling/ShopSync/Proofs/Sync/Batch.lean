import Mathlib.Tactic
import ShopSync.Proofs.Dialogue
import ShopSync.Sync.Batch

/-!
What a batch does.

`tryAll` tries products one after another, whatever comes of them.  A batch does the same with the
products in front of the place where it stops, and nothing with those behind it: that is the first
place behind an error that leaves no hope, or in front of which the signal has fired, or the end
(`exportProducts_stops`).  Its report counts exactly the products that were tried.
-/

namespace ShopSync

namespace Batch

/-! ### Trials -/

/-- What happened with a product: what the clocks showed in front of it, and how it came out. -/
structure Trial where
  product : Product
  look : Moment
  outcome : Except MarketError Unit

namespace Trial

/-- The error with which the product failed and which leaves no hope for the others. -/
def fatal? (t : Trial) : Option MarketError :=
  match t.outcome with
  | .ok () => none
  | .error e => if e.haltsBatch then some e else none

/-- What there is to report of a product that failed. -/
def failure? (t : Trial) : Option ItemError :=
  match t.outcome with
  | .ok () => none
  | .error e => some { sku := t.product.sku.text, message := e.text, code := e.code }

end Trial

/-- Tries products one after another, whatever comes of them, with a look at the clocks in front of
each. -/
def tryAll (upsert : Product → Attempt Unit) : List Product → Dialogue (List Trial)
  | [] => pure []
  | product :: rest => do
    let look ← Dialogue.moment
    let outcome ← (upsert product).run
    let trials ← tryAll upsert rest
    pure ({ product, look, outcome } :: trials)

section TryAll

variable {σ : Type} (world : World σ) (upsert : Product → Attempt Unit)

theorem run_tryAll_cons (product : Product) (rest : List Product) (s : σ) :
    (tryAll upsert (product :: rest)).run world s =
      let (look, s₁) := world.answer .moment s
      let (outcome, s₂) := (upsert product).run.run world s₁
      let (trials, s₃) := (tryAll upsert rest).run world s₂
      ({ product, look, outcome } :: trials, s₃) := by
  rw [tryAll, Dialogue.run_bind, Dialogue.run_bind, Dialogue.run_bind]
  rfl

theorem queries_tryAll_cons (product : Product) (rest : List Product) (s : σ) :
    (tryAll upsert (product :: rest)).queries world s =
      let (_, s₁) := world.answer .moment s
      let (_, s₂) := (upsert product).run.run world s₁
      .moment ::
        ((upsert product).run.queries world s₁ ++ (tryAll upsert rest).queries world s₂) := by
  rw [tryAll, Dialogue.queries_bind, Dialogue.queries_bind, Dialogue.queries_bind]
  simp [Dialogue.moment, Dialogue.queries, Dialogue.run]

theorem length_tryAll (products : List Product) (s : σ) :
    ((tryAll upsert products).run world s).1.length = products.length := by
  induction products generalizing s with
  | nil => rfl
  | cons product rest ih =>
    rw [run_tryAll_cons]
    simp only [List.length_cons, ih]

theorem map_product_tryAll (products : List Product) (s : σ) :
    ((tryAll upsert products).run world s).1.map Trial.product = products := by
  induction products generalizing s with
  | nil => rfl
  | cons product rest ih =>
    rw [run_tryAll_cons]
    simp only [List.map_cons, ih]

/-- What comes of the first products does not depend on those behind them. -/
theorem tryAll_take (products : List Product) (k : Nat) (s : σ) :
    ((tryAll upsert (products.take k)).run world s).1 =
      ((tryAll upsert products).run world s).1.take k := by
  induction products generalizing k s with
  | nil => simp [tryAll]
  | cons product rest ih =>
    cases k with
    | zero => simp [tryAll]
    | succ k =>
      rw [List.take_succ_cons, run_tryAll_cons, run_tryAll_cons]
      simp only [List.take_succ_cons, ih]

end TryAll

/-! ### Where a batch stops -/

/-- The batch has to stop behind the first `k` products: the last of them failed with an error that
leaves no hope, or the signal has fired in front of the next one. -/
def StopsAt (signal : Signal) (trials : List Trial) (k : Nat) : Prop :=
  (∃ t, 0 < k ∧ trials[k - 1]? = some t ∧ t.fatal?.isSome = true) ∨
    ∃ t, trials[k]? = some t ∧ signal.isStopped t.look = true

/-- How many products are tried. -/
def stopIndex (signal : Signal) : List Trial → Nat
  | [] => 0
  | t :: rest =>
    if signal.isStopped t.look then 0
    else if t.fatal?.isSome then 1
    else stopIndex signal rest + 1

/-- Why the batch stopped, after the products that were tried and in front of the next one. -/
def stopReason (signal : Signal) (tried : List Trial) (next : Option Trial) :
    Option Interruption :=
  match tried.getLast?.bind Trial.fatal? with
  | some e => some (.halted e.code)
  | none => next.bind fun t => signal.interruption? t.look

section Stops

variable {signal : Signal} {trials : List Trial}

theorem stopIndex_le : stopIndex signal trials ≤ trials.length := by
  induction trials with
  | nil => exact Nat.le_refl 0
  | cons t rest ih =>
    unfold stopIndex
    split
    · exact Nat.zero_le _
    · split
      · exact Nat.succ_le_succ (Nat.zero_le _)
      · exact Nat.succ_le_succ ih

/-- Behind a product in front of which and with which nothing stopped the batch, it stops where it
would without that product. -/
theorem stopsAt_cons_succ {t : Trial} {k : Nat} (hfatal : t.fatal? = none) :
    StopsAt signal (t :: trials) (k + 1) ↔ StopsAt signal trials k := by
  unfold StopsAt
  rw [Nat.add_sub_cancel, List.getElem?_cons_succ]
  refine or_congr_left ?_
  cases k with
  | zero =>
    constructor
    · rintro ⟨t', -, ht', hsome⟩
      rw [List.getElem?_cons_zero, Option.some.injEq] at ht'
      subst ht'
      rw [hfatal] at hsome
      cases hsome
    · rintro ⟨-, hpos, -⟩
      exact absurd hpos (Nat.lt_irrefl 0)
  | succ k => simp

theorem stopsAt_zero_iff {t : Trial} :
    StopsAt signal (t :: trials) 0 ↔ signal.isStopped t.look = true := by
  simp [StopsAt]

/-- The index is the first place where the batch has to stop, or the end. -/
theorem stopIndex_spec :
    (∀ j < stopIndex signal trials, ¬StopsAt signal trials j) ∧
      (stopIndex signal trials < trials.length →
        StopsAt signal trials (stopIndex signal trials)) := by
  induction trials with
  | nil => simp [stopIndex]
  | cons t rest ih =>
    unfold stopIndex
    split
    case isTrue hstopped =>
      exact ⟨fun j hj => absurd hj (Nat.not_lt_zero j), fun _ => stopsAt_zero_iff.2 hstopped⟩
    case isFalse hgoes =>
      split
      case isTrue hfatal =>
        refine ⟨fun j hj => ?_, fun _ => Or.inl ⟨t, Nat.zero_lt_one, rfl, hfatal⟩⟩
        obtain rfl : j = 0 := by omega
        rwa [stopsAt_zero_iff]
      case isFalse hfatal =>
        rw [Option.not_isSome_iff_eq_none] at hfatal
        constructor
        · intro j hj
          cases j with
          | zero => rwa [stopsAt_zero_iff]
          | succ j =>
            rw [stopsAt_cons_succ hfatal]
            exact ih.1 j (Nat.lt_of_succ_lt_succ hj)
        · intro hlt
          rw [stopsAt_cons_succ hfatal]
          exact ih.2 (Nat.lt_of_succ_lt_succ hlt)

theorem stopReason_cons {t : Trial} (hfatal : t.fatal? = none) (tried : List Trial)
    (next : Option Trial) : stopReason signal (t :: tried) next = stopReason signal tried next := by
  unfold stopReason
  cases tried with
  | nil => simp [hfatal]
  | cons t' tried => rw [List.getLast?_cons_cons]

end Stops

/-! ### Reports -/

/-- The products that came out well. -/
def successes (tried : List Trial) : Nat := tried.countP fun t => t.outcome.isOk

/-- The products that did not. -/
def failures (tried : List Trial) : Nat := tried.countP fun t => !t.outcome.isOk

/-- A running report that counts what was tried. -/
def counting (running : SyncResult) (tried : List Trial) : SyncResult :=
  { running with
    processed := tried.length
    success := successes tried
    failed := failures tried
    errors := tried.filterMap Trial.failure? }

/-- The report of a batch that ended: what was tried, and why the rest was not. -/
def report (id : Uuid) (marketplace : MarketplaceId) (total : Nat) (started ended : Timestamp)
    (tried : List Trial) (reason : Option Interruption) : SyncResult where
  id
  marketplace
  direction := .outbound
  status := if 0 < failures tried ∧ successes tried = 0 then .failed else .completed
  total
  processed := tried.length
  success := successes tried
  failed := failures tried
  errors := tried.filterMap Trial.failure?
  startedAt := started
  completedAt := some ended
  interruption := reason

/-- The report with what came of one product more. -/
def note (result : SyncResult) (t : Trial) : SyncResult :=
  match t.outcome with
  | .ok () => result.recordSuccess
  | .error e => result.recordFailure t.product.sku.text e

/-- Notes why the batch stopped, if it did. -/
def stopped (result : SyncResult) : Option Interruption → SyncResult
  | some reason => result.interrupt reason
  | none => result

section Reports

variable {running : SyncResult}

theorem note_counting (hrunning : running.status = .running) {tried : List Trial}
    (hroom : tried.length < running.total) (t : Trial) :
    note (counting running tried) t = counting running (tried ++ [t]) := by
  have haccepts : (counting running tried).acceptsItems = true := by
    simp [SyncResult.acceptsItems, counting, hrunning, hroom]
  obtain ⟨product, look, outcome⟩ := t
  cases outcome with
  | ok u =>
    simp only [note, SyncResult.recordSuccess, haccepts, if_true]
    simp [counting, successes, failures, Trial.failure?, Except.isOk, Except.toBool]
  | error e =>
    simp only [note, SyncResult.recordFailure, haccepts, if_true]
    simp [counting, successes, failures, Trial.failure?, Except.isOk, Except.toBool]

theorem foldl_note (hrunning : running.status = .running) {tried rest : List Trial}
    (hroom : tried.length + rest.length ≤ running.total) :
    rest.foldl note (counting running tried) = counting running (tried ++ rest) := by
  induction rest generalizing tried with
  | nil => simp
  | cons t rest ih =>
    rw [List.length_cons] at hroom
    rw [List.foldl_cons, note_counting hrunning (by omega), ih (by simp; omega),
      List.append_assoc, List.singleton_append]

theorem finish_stopped_counting (id : Uuid) (marketplace : MarketplaceId) (total : Nat)
    (started ended : Timestamp) (tried : List Trial) (reason : Option Interruption) :
    (stopped (counting (SyncResult.start id marketplace .outbound total started) tried)
      reason).finish ended = report id marketplace total started ended tried reason := by
  cases reason <;> rfl

end Reports

/-! ### The loop -/

section Loop

variable {σ : Type} (world : World σ) (signal : Signal) (upsert : Product → Attempt Unit)

/-- What the loop asks after the last product it tries: when no error stopped it, it looks at the
clocks in front of a product that it does not try any more. -/
def lastLook (tried : List Trial) (next : Option Trial) : List Query :=
  match tried.getLast?.bind Trial.fatal?, next with
  | none, some _ => [.moment]
  | _, _ => []

theorem lastLook_cons {t : Trial} (hfatal : t.fatal? = none) (tried : List Trial)
    (next : Option Trial) : lastLook (t :: tried) next = lastLook tried next := by
  unfold lastLook
  cases tried with
  | nil => simp [hfatal]
  | cons t' tried => rw [List.getLast?_cons_cons]

theorem run_exportRest_cons (product : Product) (rest : List Product) (result : SyncResult)
    (s : σ) :
    (exportRest signal upsert (product :: rest) result).run world s =
      let (look, s₁) := world.answer .moment s
      let (outcome, s₂) := (upsert product).run.run world s₁
      let t : Trial := { product, look, outcome }
      match signal.interruption? look, t.fatal? with
      | some reason, _ => (result.interrupt reason, s₁)
      | none, some e => ((note result t).interrupt (.halted e.code), s₂)
      | none, none => (exportRest signal upsert rest (note result t)).run world s₂ := by
  rcases hlook : world.answer .moment s with ⟨look, s₁⟩
  rcases hupsert : (upsert product).run.run world s₁ with ⟨outcome, s₂⟩
  have hmoment : Dialogue.moment.run world s = (look, s₁) := hlook
  rw [exportRest, Dialogue.run_bind, hmoment]
  dsimp only
  cases signal.interruption? look with
  | some reason => rfl
  | none =>
    dsimp only
    rw [Dialogue.run_bind, hupsert]
    cases outcome with
    | ok u => rfl
    | error e => cases hhalts : e.haltsBatch <;> simp [Trial.fatal?, hhalts, note]

theorem queries_exportRest_cons (product : Product) (rest : List Product) (result : SyncResult)
    (s : σ) :
    (exportRest signal upsert (product :: rest) result).queries world s =
      let (look, s₁) := world.answer .moment s
      let (outcome, s₂) := (upsert product).run.run world s₁
      let t : Trial := { product, look, outcome }
      .moment :: (match signal.interruption? look, t.fatal? with
      | some _, _ => []
      | none, some _ => (upsert product).run.queries world s₁
      | none, none => (upsert product).run.queries world s₁ ++
          (exportRest signal upsert rest (note result t)).queries world s₂) := by
  rcases hlook : world.answer .moment s with ⟨look, s₁⟩
  rcases hupsert : (upsert product).run.run world s₁ with ⟨outcome, s₂⟩
  have hmoment : Dialogue.moment.run world s = (look, s₁) := hlook
  have hasked : Dialogue.moment.queries world s = [.moment] := rfl
  rw [exportRest, Dialogue.queries_bind, hmoment, hasked]
  dsimp only
  cases signal.interruption? look with
  | some reason => rfl
  | none =>
    dsimp only
    rw [Dialogue.queries_bind, hupsert]
    cases outcome with
    | ok u => rfl
    | error e =>
      cases hhalts : e.haltsBatch <;> simp [Trial.fatal?, hhalts, note, Dialogue.queries]

/-- The loop tries the products in front of the place where it stops, and no others. -/
theorem run_exportRest (products : List Product) (result : SyncResult) (s : σ) :
    let trials := ((tryAll upsert products).run world s).1
    let k := stopIndex signal trials
    ((exportRest signal upsert products result).run world s).1 =
        stopped ((trials.take k).foldl note result)
          (stopReason signal (trials.take k) trials[k]?) ∧
      (exportRest signal upsert products result).queries world s =
        (tryAll upsert (products.take k)).queries world s ++
          lastLook (trials.take k) trials[k]? := by
  induction products generalizing result s with
  | nil => exact ⟨rfl, rfl⟩
  | cons product rest ih =>
    -- the look at the clocks, what comes of the product, and what would come of the others
    rcases hlook : world.answer .moment s with ⟨look, s₁⟩
    rcases hupsert : (upsert product).run.run world s₁ with ⟨outcome, s₂⟩
    have htried (ps : List Product) : (tryAll upsert (product :: ps)).queries world s =
        .moment :: ((upsert product).run.queries world s₁ ++
          (tryAll upsert ps).queries world s₂) := by
      rw [queries_tryAll_cons]
      simp only [hlook, hupsert]
    have hnobody (s : σ) : (tryAll upsert []).queries world s = [] := rfl
    simp only [run_tryAll_cons, run_exportRest_cons, queries_exportRest_cons, hlook, hupsert,
      stopIndex]
    cases hsignal : signal.interruption? look with
    | some reason =>
      have hstopped : signal.isStopped look = true := by simp [Signal.isStopped, hsignal]
      simp [hstopped, stopReason, lastLook, stopped, hsignal, hnobody]
    | none =>
      have hgoes : signal.isStopped look = false := by simp [Signal.isStopped, hsignal]
      cases hfatal : Trial.fatal? { product, look, outcome } with
      | some e => simp [hgoes, hfatal, htried, hnobody, stopReason, lastLook, stopped]
      | none =>
        obtain ⟨hresult, hqueries⟩ := ih (note result { product, look, outcome }) s₂
        simp only [hgoes, Bool.false_eq_true, if_false, Option.isSome_none,
          List.take_succ_cons, List.getElem?_cons_succ, List.foldl_cons, htried,
          stopReason_cons hfatal, lastLook_cons hfatal]
        refine ⟨hresult, ?_⟩
        rw [hqueries, List.cons_append, List.append_assoc]

theorem run_exportProducts (marketplace : MarketplaceId) (products : List Product) :
    (exportProducts marketplace products signal upsert).run = (do
      let entry ← Dialogue.moment
      if signal.isStopped entry then pure (.error .cancelled)
      else do
        let id ← Dialogue.freshId
        let start ← Dialogue.moment
        let result ← exportRest signal upsert products
          (SyncResult.start id marketplace .outbound products.length start.wall)
        let ended ← Dialogue.moment
        pure (.ok (result.finish ended.wall))) := by
  unfold exportProducts
  rw [Dialogue.run_liftM_bind]
  refine bind_congr fun entry => ?_
  split
  · rfl
  · dsimp only
    rw [Dialogue.run_liftM_bind]
    refine bind_congr fun id => ?_
    rw [Dialogue.run_liftM_bind]
    refine bind_congr fun start => ?_
    rw [Dialogue.run_liftM_bind]
    refine bind_congr fun result => ?_
    rw [Dialogue.run_liftM_bind]
    rfl

theorem keeps_exportRest (keeps : SyncResult → Prop)
    (hsuccess : ∀ result, keeps result → keeps result.recordSuccess)
    (hfailure : ∀ result sku e, keeps result → keeps (result.recordFailure sku e))
    (hinterrupt : ∀ result reason, keeps result → keeps (result.interrupt reason))
    {products : List Product} {running result : SyncResult} {t : List Answered}
    (h : (exportRest signal upsert products running).Gives t result) (hrunning : keeps running) :
    keeps result := by
  induction products generalizing running t with
  | nil =>
    obtain ⟨-, rfl⟩ := Dialogue.gives_pure_iff.1 h
    exact hrunning
  | cons product rest ih =>
    rw [exportRest] at h
    obtain ⟨look, t', -, hlook⟩ := Dialogue.gives_moment_bind_iff.1 h
    cases hreason : signal.interruption? look with
    | some reason =>
      rw [hreason] at hlook
      obtain ⟨-, rfl⟩ := Dialogue.gives_pure_iff.1 hlook
      exact hinterrupt running reason hrunning
    | none =>
      rw [hreason] at hlook
      obtain ⟨outcome, t₁, t₂, -, -, htried⟩ := Dialogue.gives_bind_iff.1 hlook
      cases outcome with
      | ok u => exact ih htried (hsuccess running hrunning)
      | error e =>
        have hnoted := hfailure running product.sku.text e hrunning
        dsimp only at htried
        split at htried
        · obtain ⟨-, rfl⟩ := Dialogue.gives_pure_iff.1 htried
          exact hinterrupt _ _ hnoted
        · exact ih htried hnoted

/-- A batch that comes to a report asked for an identifier and for the time, went through the loop,
and asked for the time again. -/
theorem gives_exportProducts {marketplace : MarketplaceId} {products : List Product}
    {result : SyncResult} {t : List Answered}
    (h : (exportProducts marketplace products signal upsert).run.Gives t (.ok result)) :
    ∃ (entry : Moment) (id : Uuid) (start : Moment) (during : List Answered) (final : SyncResult)
      (ended : Moment),
      t = ⟨.moment, entry⟩ :: ⟨.freshId, id⟩ :: ⟨.moment, start⟩ ::
        (during ++ [⟨.moment, ended⟩]) ∧
      (exportRest signal upsert products
        (SyncResult.start id marketplace .outbound products.length start.wall)).Gives during final ∧
      result = final.finish ended.wall := by
  rw [run_exportProducts] at h
  obtain ⟨entry, t₁, rfl, hentry⟩ := Dialogue.gives_moment_bind_iff.1 h
  split at hentry
  · obtain ⟨-, habsurd⟩ := Dialogue.gives_pure_iff.1 hentry
    cases habsurd
  · obtain ⟨id, t₂, rfl, hid⟩ := Dialogue.gives_freshId_bind_iff.1 hentry
    obtain ⟨start, t₃, rfl, hstart⟩ := Dialogue.gives_moment_bind_iff.1 hid
    obtain ⟨final, during, t₄, rfl, hloop, hfinal⟩ := Dialogue.gives_bind_iff.1 hstart
    obtain ⟨ended, t₅, rfl, hended⟩ := Dialogue.gives_moment_bind_iff.1 hfinal
    obtain ⟨rfl, hresult⟩ := Dialogue.gives_pure_iff.1 hended
    cases hresult
    exact ⟨entry, id, start, during, final, ended, rfl, hloop, rfl⟩

/-- **What a batch does.**  When the signal has fired at the entry, no product is tried.  Otherwise
the products in front of the first place where the batch has to stop, or all of them, are tried once
each and in order, and the report counts exactly these. -/
theorem exportProducts_stops (marketplace : MarketplaceId) (products : List Product) (s : σ) :
    let batch := (exportProducts marketplace products signal upsert).run
    let (entry, s₀) := Dialogue.moment.run world s
    if signal.isStopped entry then
      batch.run world s = (.error .cancelled, s₀) ∧ batch.queries world s = [.moment]
    else
      let (id, s₁) := Dialogue.freshId.run world s₀
      let (start, s₂) := Dialogue.moment.run world s₁
      let trials := ((tryAll upsert products).run world s₂).1
      ∃ k ≤ products.length,
        (∀ j < k, ¬StopsAt signal trials j) ∧
        (k < products.length → StopsAt signal trials k) ∧
        ((tryAll upsert (products.take k)).run world s₂).1 = trials.take k ∧
        (trials.take k).map Trial.product = products.take k ∧
        batch.queries world s =
          [.moment, .freshId, .moment] ++ (tryAll upsert (products.take k)).queries world s₂ ++
            lastLook (trials.take k) trials[k]? ++ [.moment] ∧
        ∃ ended : Moment, (batch.run world s).1 =
          .ok (report id marketplace products.length start.wall ended.wall (trials.take k)
            (stopReason signal (trials.take k) trials[k]?)) := by
  intro batch
  have hmoment (s : σ) : Dialogue.moment.queries world s = [.moment] := rfl
  have hfreshId (s : σ) : Dialogue.freshId.queries world s = [.freshId] := rfl
  rcases hentry : Dialogue.moment.run world s with ⟨entry, s₀⟩
  have hbatch := run_exportProducts signal upsert marketplace products
  by_cases hstopped : signal.isStopped entry = true
  · simp only [batch, hbatch, Dialogue.run_bind, Dialogue.queries_bind, hentry, hmoment,
      if_pos hstopped]
    exact ⟨rfl, rfl⟩
  · rcases hid : Dialogue.freshId.run world s₀ with ⟨id, s₁⟩
    rcases hstart : Dialogue.moment.run world s₁ with ⟨start, s₂⟩
    simp only [batch, hbatch, Dialogue.run_bind, Dialogue.queries_bind, hentry, hmoment, hfreshId,
      if_neg hstopped, hid, hstart]
    set trials := ((tryAll upsert products).run world s₂).1 with htrials
    have hlength : trials.length = products.length := length_tryAll world upsert products s₂
    obtain ⟨hbefore, hstops⟩ := @stopIndex_spec signal trials
    have hle : stopIndex signal trials ≤ products.length := hlength ▸ stopIndex_le
    set running := SyncResult.start id marketplace .outbound products.length start.wall with
      hrunning
    -- the loop starts with a report that counts nothing
    obtain ⟨hresult, hqueries⟩ := run_exportRest world signal upsert products running s₂
    rw [← htrials] at hresult hqueries
    have hcounted : (trials.take (stopIndex signal trials)).foldl note running =
        counting running (trials.take (stopIndex signal trials)) := by
      have hroom : ([] : List Trial).length + (trials.take (stopIndex signal trials)).length ≤
          running.total := by
        rw [List.length_nil, Nat.zero_add, List.length_take, hlength]
        exact Nat.min_le_right _ _
      have hstarted : running.status = .running := rfl
      exact foldl_note hstarted hroom
    rw [hcounted] at hresult
    refine ⟨stopIndex signal trials, hle, hbefore, fun hlt => hstops (hlength ▸ hlt),
      tryAll_take world upsert products _ s₂, ?_, ?_, ?_⟩
    · rw [List.map_take, htrials, map_product_tryAll]
    · rw [hqueries]
      simp [Dialogue.queries]
    · refine ⟨(Dialogue.moment.run world
        ((exportRest signal upsert products running).run world s₂).2).1, ?_⟩
      rw [hresult, hrunning, ← finish_stopped_counting]
      rfl

end Loop

end Batch

end ShopSync
