import Mathlib.Data.List.ReduceOption
import Mathlib.Tactic
import ShopSync.Sync.Result

/-!
The life of a result.

Five steps change a result, and they may come in any order and number.  Which items count can be
said without them: those of the steps from the first beginning to the first end, as long as there is
room (`counted`).  From this follows that the counters of a result stay consistent, whatever is done
with it, and that it begins and ends once at most (`afterAll_keeps_consistent`).
-/

namespace ShopSync.SyncResult

/-! ### Steps -/

/-- What can be done with a result. -/
inductive Step where
  | begin (now : Timestamp)
  | recordSuccess
  | recordFailure (sku : String) (e : MarketError)
  | interrupt (reason : Interruption)
  | finish (now : Timestamp)

/-- The result after a step. -/
def after (result : SyncResult) : Step → SyncResult
  | .begin now => result.begin now
  | .recordSuccess => result.recordSuccess
  | .recordFailure sku e => result.recordFailure sku e
  | .interrupt reason => result.interrupt reason
  | .finish now => result.finish now

/-- The result after steps, one after another. -/
def afterAll (result : SyncResult) (steps : List Step) : SyncResult := steps.foldl after result

/-- How results are made. -/
inductive Built : SyncResult → Prop
  | new (id : Uuid) (marketplace : MarketplaceId) (direction : Direction) (total : Nat)
      (now : Timestamp) : Built (new id marketplace direction total now)
  | start (id : Uuid) (marketplace : MarketplaceId) (direction : Direction) (total : Nat)
      (now : Timestamp) : Built (start id marketplace direction total now)
  /-- A running result whose clock started at another time. -/
  | startFrom (id : Uuid) (marketplace : MarketplaceId) (direction : Direction) (total : Nat)
      (now started : Timestamp) :
      Built { start id marketplace direction total now with startedAt := started }

/-- The counters agree with each other and with the errors, and there is an end exactly when the
result has ended. -/
structure IsConsistent (result : SyncResult) : Prop where
  processed : result.processed = result.success + result.failed
  room : result.processed ≤ result.total
  errors : result.errors.length = result.failed
  completed : result.completedAt.isSome = result.status.isTerminal

/-- A result that has not begun counts nothing. -/
def IsIdle (result : SyncResult) : Prop := result.status = .pending → result.processed = 0

section Built

variable {result : SyncResult}

theorem Built.isConsistent (h : Built result) : result.IsConsistent := by
  cases h <;> exact ⟨rfl, Nat.zero_le _, rfl, rfl⟩

theorem Built.isIdle (h : Built result) : result.IsIdle := by
  cases h <;> exact fun _ => rfl

end Built

/-! ### Items that count -/

namespace Step

/-- The item of a step: nothing for a success, and for a failure what went wrong. -/
def item? : Step → Option (Option ItemError)
  | recordSuccess => some none
  | recordFailure sku e => some (some { sku, message := e.text, code := e.code })
  | _ => none

def isBegin : Step → Bool
  | begin _ => true
  | _ => false

def isFinish : Step → Bool
  | finish _ => true
  | _ => false

end Step

/-- The steps while a result runs: up to the first end, and from the first beginning on when it has
not begun. -/
def whileRunning (status : SyncStatus) (steps : List Step) : List Step :=
  match status with
  | .pending => (steps.takeWhile (!·.isFinish)).dropWhile (!·.isBegin)
  | .running => steps.takeWhile (!·.isFinish)
  | _ => []

/-- The items that count: those of the steps while the result runs, as long as there is room. -/
def counted (result : SyncResult) (steps : List Step) : List (Option ItemError) :=
  ((whileRunning result.status steps).filterMap Step.item?).take result.remaining

/-- Between two results these items were counted. -/
structure Counts (result : SyncResult) (items : List (Option ItemError)) (next : SyncResult) :
    Prop where
  total : next.total = result.total
  processed : next.processed = result.processed + items.length
  success : next.success = result.success + items.count none
  failed : next.failed = result.failed + items.reduceOption.length
  errors : next.errors = result.errors ++ items.reduceOption

namespace Counts

variable {result between next : SyncResult} {items items' : List (Option ItemError)}

theorem nothing (htotal : next.total = result.total)
    (hprocessed : next.processed = result.processed) (hsuccess : next.success = result.success)
    (hfailed : next.failed = result.failed) (herrors : next.errors = result.errors) :
    Counts result [] next :=
  ⟨htotal, hprocessed, hsuccess, hfailed, herrors.trans (List.append_nil _).symm⟩

theorem trans (h : Counts result items between) (h' : Counts between items' next) :
    Counts result (items ++ items') next where
  total := h'.total.trans h.total
  processed := by rw [h'.processed, h.processed, List.length_append, Nat.add_assoc]
  success := by rw [h'.success, h.success, List.count_append, Nat.add_assoc]
  failed := by
    rw [h'.failed, h.failed, List.reduceOption_append, List.length_append, Nat.add_assoc]
  errors := by rw [h'.errors, h.errors, List.reduceOption_append, List.append_assoc]

end Counts

section Steps

variable {result : SyncResult} {step : Step}

theorem acceptsItems_iff :
    result.acceptsItems = true ↔ result.status = .running ∧ 0 < result.remaining := by
  simp only [acceptsItems, remaining, Bool.and_eq_true, decide_eq_true_eq, Nat.sub_pos_iff_lt]

theorem counted_of_item?_eq_none (h : step.item? = none) : result.counted [step] = [] := by
  unfold counted whileRunning
  cases result.status <;> cases step <;> simp_all [Step.isBegin, Step.isFinish, Step.item?]

theorem counted_of_item? {item : Option ItemError} (h : step.item? = some item) :
    result.counted [step] = if result.acceptsItems then [item] else [] := by
  have hfinish : step.isFinish = false := by cases step <;> first | rfl | cases h
  have hbegin : step.isBegin = false := by cases step <;> first | rfl | cases h
  have hitems : result.counted [step] =
      if result.status = .running then [item].take result.remaining else [] := by
    unfold counted whileRunning
    cases hstatus : result.status <;> simp [hfinish, hbegin, h]
  rw [hitems]
  by_cases hrunning : result.status = .running
  · rw [if_pos hrunning]
    cases hroom : result.remaining <;> simp [acceptsItems_iff, hrunning, hroom]
  · rw [if_neg hrunning]
    simp [acceptsItems_iff, hrunning]

theorem counts_after (result : SyncResult) (step : Step) :
    Counts result (result.counted [step]) (result.after step) := by
  cases step with
  | begin now =>
    rw [counted_of_item?_eq_none rfl]
    change Counts result [] (result.begin now)
    unfold begin
    split <;> exact .nothing rfl rfl rfl rfl rfl
  | recordSuccess =>
    rw [counted_of_item? rfl]
    change Counts result _ result.recordSuccess
    unfold recordSuccess
    split
    · exact ⟨rfl, rfl, rfl, rfl, (List.append_nil _).symm⟩
    · exact .nothing rfl rfl rfl rfl rfl
  | recordFailure sku e =>
    rw [counted_of_item? rfl]
    change Counts result _ (result.recordFailure sku e)
    unfold recordFailure
    split
    · exact ⟨rfl, rfl, rfl, rfl, rfl⟩
    · exact .nothing rfl rfl rfl rfl rfl
  | interrupt reason =>
    rw [counted_of_item?_eq_none rfl]
    change Counts result [] (result.interrupt reason)
    unfold interrupt
    split <;> exact .nothing rfl rfl rfl rfl rfl
  | finish now =>
    rw [counted_of_item?_eq_none rfl]
    change Counts result [] (result.finish now)
    unfold finish
    split <;> exact .nothing rfl rfl rfl rfl rfl

theorem status_after (result : SyncResult) (step : Step) :
    (result.after step).status =
      if result.status.isTerminal then result.status
      else if step.isFinish then
        if 0 < result.failed ∧ result.success = 0 then .failed else .completed
      else if step.isBegin then .running
      else result.status := by
  cases step with
  | begin now =>
    simp only [after, begin, Step.isFinish, Step.isBegin]
    cases hstatus : result.status <;> simp [SyncStatus.isTerminal, hstatus]
  | recordSuccess =>
    simp only [after, recordSuccess, Step.isFinish, Step.isBegin]
    split <;> simp
  | recordFailure sku e =>
    simp only [after, recordFailure, Step.isFinish, Step.isBegin]
    split <;> simp
  | interrupt reason =>
    simp only [after, interrupt, Step.isFinish, Step.isBegin]
    split <;> simp
  | finish now =>
    simp only [after, finish, Step.isFinish]
    split <;> simp

theorem whileRunning_pending_cons (step : Step) (steps : List Step) :
    whileRunning .pending (step :: steps) =
      if step.isFinish then []
      else if step.isBegin then step :: whileRunning .running steps
      else whileRunning .pending steps := by
  unfold whileRunning
  cases hfinish : step.isFinish <;> cases hbegin : step.isBegin <;> simp [hfinish, hbegin]

theorem whileRunning_running_cons (step : Step) (steps : List Step) :
    whileRunning .running (step :: steps) =
      if step.isFinish then [] else step :: whileRunning .running steps := by
  unfold whileRunning
  cases hfinish : step.isFinish <;> simp [hfinish]

theorem whileRunning_of_isTerminal {status : SyncStatus} (h : status.isTerminal = true)
    (steps : List Step) : whileRunning status steps = [] := by
  cases status <;> first | rfl | cases h

theorem whileRunning_nil (status : SyncStatus) : whileRunning status [] = [] := by
  cases status <;> rfl

/-- The steps behind a first one run from where it leads. -/
theorem whileRunning_cons (result : SyncResult) (step : Step) (steps : List Step) :
    whileRunning result.status (step :: steps) =
      whileRunning result.status [step] ++ whileRunning (result.after step).status steps := by
  rw [status_after]
  by_cases hterminal : result.status.isTerminal = true
  · simp only [hterminal, if_true, whileRunning_of_isTerminal hterminal, List.append_nil]
  have hended : ∀ p : Prop, [Decidable p] →
      whileRunning (if p then SyncStatus.failed else .completed) steps = [] := by
    intro p _
    split <;> rfl
  cases hstatus : result.status with
  | pending =>
    rw [whileRunning_pending_cons, whileRunning_pending_cons]
    cases hfinish : step.isFinish <;> cases hbegin : step.isBegin <;>
      simp [SyncStatus.isTerminal, whileRunning_nil, hended]
  | running =>
    rw [whileRunning_running_cons, whileRunning_running_cons]
    cases hfinish : step.isFinish <;> cases hbegin : step.isBegin <;>
      simp [SyncStatus.isTerminal, whileRunning_nil, hended]
  | completed => simp [hstatus, SyncStatus.isTerminal] at hterminal
  | failed => simp [hstatus, SyncStatus.isTerminal] at hterminal

theorem counted_cons (result : SyncResult) (step : Step) (steps : List Step) :
    result.counted (step :: steps) =
      result.counted [step] ++ (result.after step).counted steps := by
  have hroom : (result.after step).remaining =
      result.remaining - ((whileRunning result.status [step]).filterMap Step.item?).length := by
    have hcounts := counts_after result step
    unfold counted at hcounts
    rw [remaining, hcounts.total, hcounts.processed, List.length_take, remaining]
    omega
  unfold counted
  rw [whileRunning_cons, List.filterMap_append, List.take_append, ← hroom]

/-- The step that moves a status, and where to. -/
inductive Moves (step : Step) (result next : SyncResult) : Prop
  | stays (status : next.status = result.status) (completed : next.completedAt = result.completedAt)
  | begins (now : Timestamp) (begun : step = .begin now) (status : result.status = .pending)
      (running : next.status = .running) (completed : next.completedAt = result.completedAt)
  | ends (now : Timestamp) (ended : step = .finish now) (status : result.status.isTerminal = false)
      (terminal : next.status =
        if 0 < next.failed ∧ next.success = 0 then .failed else .completed)
      (completed : next.completedAt = some now)

theorem moves_after (result : SyncResult) (step : Step) :
    Moves step result (result.after step) := by
  cases step with
  | begin now =>
    by_cases hpending : result.status = .pending
    · refine .begins now rfl hpending ?_ ?_ <;> simp [after, begin, hpending]
    · refine .stays ?_ ?_ <;> simp [after, begin, hpending]
  | recordSuccess => refine .stays ?_ ?_ <;> simp only [after, recordSuccess] <;> split <;> rfl
  | recordFailure sku e =>
    refine .stays ?_ ?_ <;> simp only [after, recordFailure] <;> split <;> rfl
  | interrupt reason => refine .stays ?_ ?_ <;> simp only [after, interrupt] <;> split <;> rfl
  | finish now =>
    cases hterminal : result.status.isTerminal
    · refine .ends now rfl hterminal ?_ ?_ <;> simp [after, finish, hterminal]
    · refine .stays ?_ ?_ <;> simp [after, finish, hterminal]

/-- There is an end exactly when the result has ended, also after a step. -/
theorem Moves.completed {next : SyncResult} (h : Moves step result next)
    (hresult : result.completedAt.isSome = result.status.isTerminal) :
    next.completedAt.isSome = next.status.isTerminal := by
  cases h with
  | stays hstatus hcompleted => rw [hstatus, hcompleted, hresult]
  | begins now _ hpending hrunning hcompleted =>
    rw [hcompleted, hresult, hpending, hrunning]
    rfl
  | ends now _ _ hterminal hcompleted =>
    rw [hcompleted, hterminal]
    split <;> rfl

/-- Nothing goes back to pending, and what stays there counts nothing. -/
theorem counted_of_status_after (h : (result.after step).status = .pending) :
    result.status = .pending ∧ result.counted [step] = [] := by
  have hpending : result.status = .pending := by
    cases moves_after result step with
    | stays hstatus _ => exact hstatus.symm.trans h
    | begins _ _ hpending _ _ => exact hpending
    | ends _ _ _ hterminal _ =>
      rw [hterminal] at h
      split at h <;> cases h
  refine ⟨hpending, ?_⟩
  unfold counted
  rw [hpending, whileRunning_pending_cons]
  cases step <;> simp [Step.isFinish, Step.isBegin, Step.item?, whileRunning_nil]

/-- Once a result has ended nothing changes it. -/
theorem after_of_isTerminal (h : result.status.isTerminal = true) : result.after step = result := by
  have hrunning : result.status ≠ .running := by
    intro hrunning
    rw [hrunning] at h
    cases h
  have hpending : result.status ≠ .pending := by
    intro hpending
    rw [hpending] at h
    cases h
  cases step <;>
    simp [after, begin, recordSuccess, recordFailure, acceptsItems, interrupt, finish, h, hrunning,
      hpending]

end Steps

/-! ### Runs -/

section Runs

variable {result : SyncResult}

/-- What all steps together count. -/
theorem counts_afterAll (result : SyncResult) (steps : List Step) :
    Counts result (result.counted steps) (result.afterAll steps) := by
  induction steps generalizing result with
  | nil =>
    have hnone : result.counted [] = [] := by
      rw [counted, whileRunning_nil, List.filterMap_nil, List.take_nil]
    rw [hnone]
    exact .nothing rfl rfl rfl rfl rfl
  | cons step steps ih =>
    rw [counted_cons]
    exact (counts_after result step).trans (ih (result.after step))

/-- An item is a success or a failure. -/
theorem length_eq_count_add_failures (items : List (Option ItemError)) :
    items.length = items.count none + items.reduceOption.length := by
  induction items with
  | nil => rfl
  | cons item items ih =>
    cases item with
    | none =>
      rw [List.length_cons, List.count_cons_self, List.reduceOption_cons_of_none, ih]
      omega
    | some e =>
      rw [List.length_cons, List.count_cons_of_ne (by simp), List.reduceOption_cons_of_some,
        List.length_cons, ih]
      omega

theorem length_counted_le (result : SyncResult) (steps : List Step) :
    (result.counted steps).length ≤ result.remaining := by
  unfold counted
  exact List.length_take_le _ _

theorem completed_afterAll (h : result.completedAt.isSome = result.status.isTerminal)
    (steps : List Step) :
    (result.afterAll steps).completedAt.isSome = (result.afterAll steps).status.isTerminal := by
  induction steps generalizing result with
  | nil => exact h
  | cons step steps ih => exact ih ((moves_after result step).completed h)

theorem IsConsistent.afterAll (h : result.IsConsistent) (steps : List Step) :
    (result.afterAll steps).IsConsistent := by
  have hcounts := counts_afterAll result steps
  have hitems := length_eq_count_add_failures (result.counted steps)
  refine ⟨?_, ?_, ?_, completed_afterAll h.completed steps⟩
  · have hprocessed := h.processed
    rw [hcounts.processed, hcounts.success, hcounts.failed]
    omega
  · have hroom := h.room
    have hle := length_counted_le result steps
    unfold remaining at hle
    rw [hcounts.processed, hcounts.total]
    omega
  · rw [hcounts.errors, hcounts.failed, List.length_append, h.errors]

/-- A result that is still pending was so from the first step on. -/
theorem counted_of_status_afterAll {steps : List Step}
    (h : (result.afterAll steps).status = .pending) :
    result.status = .pending ∧ result.counted steps = [] := by
  induction steps generalizing result with
  | nil => exact ⟨h, by rw [counted, whileRunning_nil, List.filterMap_nil, List.take_nil]⟩
  | cons step steps ih =>
    obtain ⟨hafter, hitems⟩ := ih h
    obtain ⟨hpending, hitem⟩ := counted_of_status_after hafter
    exact ⟨hpending, by rw [counted_cons, hitem, hitems, List.append_nil]⟩

theorem IsIdle.afterAll (h : result.IsIdle) (steps : List Step) :
    (result.afterAll steps).IsIdle := by
  intro hstatus
  obtain ⟨hpending, hitems⟩ := counted_of_status_afterAll hstatus
  rw [(counts_afterAll result steps).processed, h hpending, hitems]
  rfl

theorem afterAll_of_isTerminal (h : result.status.isTerminal = true) (steps : List Step) :
    result.afterAll steps = result := by
  induction steps with
  | nil => rfl
  | cons step steps ih =>
    change (result.after step).afterAll steps = result
    rw [after_of_isTerminal h, ih]

/-- Which batch a result is of. -/
def batch (result : SyncResult) : Uuid × MarketplaceId × Direction :=
  (result.id, result.marketplace, result.direction)

theorem batch_eq_iff {result : SyncResult} {id : Uuid} {marketplace : MarketplaceId}
    {direction : Direction} :
    result.batch = (id, marketplace, direction) ↔
      result.id = id ∧ result.marketplace = marketplace ∧ result.direction = direction := by
  simp only [batch, Prod.mk.injEq]

theorem batch_after (result : SyncResult) (step : Step) :
    (result.after step).batch = result.batch := by
  cases step with
  | begin now =>
    simp only [after, begin]
    split <;> rfl
  | recordSuccess =>
    simp only [after, recordSuccess]
    split <;> rfl
  | recordFailure sku e =>
    simp only [after, recordFailure]
    split <;> rfl
  | interrupt reason =>
    simp only [after, interrupt]
    split <;> rfl
  | finish now =>
    simp only [after, finish]
    split <;> rfl

theorem batch_afterAll (result : SyncResult) (steps : List Step) :
    (result.afterAll steps).batch = result.batch := by
  induction steps generalizing result with
  | nil => rfl
  | cons step steps ih => exact (ih (result.after step)).trans (batch_after result step)

theorem afterAll_concat (result : SyncResult) (steps : List Step) (step : Step) :
    result.afterAll (steps ++ [step]) = (result.afterAll steps).after step := by
  rw [afterAll, List.foldl_append]
  rfl

theorem isTerminal_afterAll_finish (result : SyncResult) (steps : List Step) (now : Timestamp) :
    (result.afterAll (steps ++ [.finish now])).status.isTerminal = true := by
  have hfinish : (Step.finish now).isFinish = true := rfl
  rw [afterAll_concat, status_after]
  by_cases hended : (result.afterAll steps).status.isTerminal = true
  · rw [if_pos hended]
    exact hended
  · rw [if_neg hended, if_pos hfinish]
    split <;> rfl

/-- Whatever is done with a result that was made by this module or read with consistent counters:
the counters stay consistent and count the items of `counted`, the errors in the order of the
steps; a pending result has counted none; one that has ended never changes again; and every step
moves the status forward or not at all. -/
theorem afterAll_keeps_consistent (h : Built result ∨ result.IsConsistent) (steps : List Step) :
    (result.afterAll steps).IsConsistent ∧
      (result.afterAll steps).remaining + (result.afterAll steps).processed =
        (result.afterAll steps).total ∧
      Counts result (result.counted steps) (result.afterAll steps) ∧
      ((result.afterAll steps).status = .pending → result.counted steps = []) ∧
      (Built result → (result.afterAll steps).IsIdle) ∧
      (∀ later, (result.afterAll steps).status.isTerminal = true →
        (result.afterAll steps).afterAll later = result.afterAll steps) ∧
      ∀ step, Moves step (result.afterAll steps) ((result.afterAll steps).after step) := by
  have hconsistent : result.IsConsistent := h.elim Built.isConsistent fun hread => hread
  have hfinal := hconsistent.afterAll steps
  refine ⟨hfinal, Nat.sub_add_cancel hfinal.room, counts_afterAll result steps, fun hstatus => ?_,
    fun hbuilt => hbuilt.isIdle.afterAll steps, fun later hterminal => ?_, fun step => ?_⟩
  · exact (counted_of_status_afterAll hstatus).2
  · exact afterAll_of_isTerminal hterminal later
  · exact moves_after _ step

/-- Items before the beginning, one more than there is room for, and steps behind the end. -/
def sampleSteps : List Step :=
  [.recordSuccess, .begin .epoch, .recordFailure "A" .cancelled, .recordSuccess, .recordSuccess,
    .interrupt .cancelled, .finish .last, .recordFailure "B" .cancelled, .begin .last,
    .finish .epoch]

/-- A result for two items that has not begun. -/
def sampleResult : SyncResult := new ⟨7⟩ .etsy .outbound 2 .epoch

/-- A running result for two items of which one failed. -/
def sampleHalf : SyncResult :=
  { sampleResult with
    status := .running
    processed := 1
    failed := 1
    errors := [{ sku := "A", message := "cancelled", code := "marketplace.cancelled" }] }

theorem afterAll_keeps_consistent_sampleSteps :
    Built sampleResult ∧ sampleHalf.IsConsistent ∧
      sampleResult.counted sampleSteps =
        [some { sku := "A", message := MarketError.cancelled.text,
                code := MarketError.cancelled.code }, none] ∧
      Counts sampleResult (sampleResult.counted sampleSteps) (sampleResult.afterAll sampleSteps) ∧
      (sampleResult.afterAll sampleSteps).IsConsistent ∧
      (sampleResult.afterAll sampleSteps).afterAll sampleSteps =
        sampleResult.afterAll sampleSteps ∧
      sampleHalf.counted sampleSteps = [none] ∧
      Counts sampleHalf (sampleHalf.counted sampleSteps) (sampleHalf.afterAll sampleSteps) ∧
      (sampleHalf.afterAll sampleSteps).IsConsistent := by
  have hbuilt : Built sampleResult := .new _ _ _ _ _
  have hhalf : sampleHalf.IsConsistent := ⟨rfl, by decide, rfl, rfl⟩
  obtain ⟨hfresh, -, hcounts, -, -, hended, -⟩ :=
    afterAll_keeps_consistent (.inl hbuilt) sampleSteps
  obtain ⟨hhalf', -, hcounts', -⟩ := afterAll_keeps_consistent (.inr hhalf) sampleSteps
  exact ⟨hbuilt, hhalf, rfl, hcounts, hfresh, hended sampleSteps rfl, rfl, hcounts', hhalf'⟩

end Runs

end ShopSync.SyncResult
