import Mathlib.Tactic
import ShopSync.Proofs.Sync.Operation

/-!
What an import does with the service.

The store in memory never fails, so an import either ends with the error of the marketplace and
leaves the service as it was, or takes all orders into the store and keeps one result.  The result
starts at a look at the clocks in front of everything the marketplace is asked, and it is
interrupted by what the signal shows at a look behind it.
-/

namespace ShopSync

namespace SyncResult

/-- The result of an import that ended: everything that came was taken in. -/
def ofImport (resultId : Uuid) (id : MarketplaceId) (count : Nat) (started ended : Timestamp)
    (reason : Option Interruption) : SyncResult where
  id := resultId
  marketplace := id
  direction := .inbound
  status := .completed
  total := count
  processed := count
  success := count
  failed := 0
  errors := []
  startedAt := started
  completedAt := some ended
  interruption := reason

/-- As long as there is room, every order counts. -/
theorem foldl_recordSuccess {result : SyncResult} (hrunning : result.status = .running)
    {orders : List Order} (hroom : result.processed + orders.length ≤ result.total) :
    orders.foldl (fun result _ => result.recordSuccess) result =
      { result with
        processed := result.processed + orders.length
        success := result.success + orders.length } := by
  induction orders generalizing result with
  | nil => rfl
  | cons order rest ih =>
    rw [List.length_cons] at hroom
    have haccepts : result.acceptsItems = true := by
      simp only [acceptsItems, hrunning, Bool.and_eq_true, decide_eq_true_eq, true_and]
      omega
    have hstep : result.recordSuccess =
        { result with success := result.success + 1, processed := result.processed + 1 } :=
      if_pos haccepts
    have hrest := @ih
      { result with success := result.success + 1, processed := result.processed + 1 } hrunning
      (show result.processed + 1 + rest.length ≤ result.total by omega)
    rw [List.foldl_cons, hstep, hrest, List.length_cons]
    simp only [mk.injEq, true_and, and_true]
    omega

theorem finish_counted (resultId : Uuid) (id : MarketplaceId) (orders : List Order)
    (started ended : Timestamp) (reason : Option Interruption) :
    let counted := orders.foldl (fun result _ => result.recordSuccess)
      (start resultId id .inbound orders.length started)
    (match reason with
      | some interruption => counted.interrupt interruption
      | none => counted).finish ended =
        ofImport resultId id orders.length started ended reason := by
  intro counted
  have hcounted : counted =
      { start resultId id .inbound orders.length started with
        processed := orders.length
        success := orders.length } := by
    have hroom : (start resultId id .inbound orders.length started).processed + orders.length ≤
        (start resultId id .inbound orders.length started).total :=
      (Nat.zero_add orders.length).le
    have hall := @foldl_recordSuccess (start resultId id .inbound orders.length started)
      rfl orders hroom
    rw [show counted = _ from hall]
    simp [start, begin, new]
  rw [hcounted]
  cases reason <;> rfl

end SyncResult

namespace MemoryStore

/-- Takes orders in and gives those that were new. -/
def saveOrders (store : MemoryStore) : List Order → List Order × MemoryStore
  | [] => ([], store)
  | order :: rest =>
    let (isNew, store) := store.saveOrder order
    let (newOrders, store) := store.saveOrders rest
    (if isNew then order :: newOrders else newOrders, store)

theorem saveOrders_snd (store : MemoryStore) (orders : List Order) :
    (store.saveOrders orders).2 =
      { store with orders := orders.foldl OrderBook.insert store.orders } := by
  induction orders generalizing store with
  | nil => rfl
  | cons order rest ih =>
    rw [saveOrders, List.foldl_cons]
    exact ih _

end MemoryStore

namespace Service

variable {α : Type} (service : Service α MemoryStore)

theorem on_saveOrders (orders : List Order) :
    (saveOrders orders).on service =
      pure (.ok (service.store.saveOrders orders).1,
        { service with store := (service.store.saveOrders orders).2 }) := by
  induction orders generalizing service with
  | nil => rfl
  | cons order rest ih =>
    rw [saveOrders, Operation.on_bind]
    have hsave : (saveOrder order).on service =
        pure (.ok (service.store.saveOrder order).1,
          { service with store := (service.store.saveOrder order).2 }) := rfl
    rw [hsave, pure_bind]
    dsimp only
    rw [Operation.on_bind, ih, pure_bind]
    rfl

/-- Where an import starts: where the caller says, or else where the last import that nothing
stopped early was started, or some days back. -/
def startOf (id : MarketplaceId) : Option Timestamp → Dialogue Timestamp
  | some since => pure since
  | none =>
    match service.store.lastUninterrupted? id .inbound with
    | some result => pure result.startedAt
    | none => do
      let now ← Dialogue.moment
      pure (now.wall.subDays lookbackDays)

theorem on_defaultSince (id : MarketplaceId) :
    (defaultSince id).on service =
      service.startOf id none >>= fun since => pure (.ok since, service) := by
  unfold defaultSince startOf
  rw [Operation.on_get_bind, Operation.on_bind]
  have hstore : (Operation.ofStore (α := α)
      (SyncStore.lastUninterrupted? service.store id .inbound)).on service =
        pure (.ok (service.store.lastUninterrupted? id .inbound), service) := rfl
  rw [hstore, pure_bind]
  cases service.store.lastUninterrupted? id .inbound with
  | some result => rfl
  | none => rfl

/-- Both ways to come by the start of an import go on in the same way. -/
theorem on_start_bind {β : Type} (id : MarketplaceId) (since : Option Timestamp)
    (f : Timestamp → Operation α MemoryStore β) :
    Operation.on (match since with
      | some since => pure since >>= f
      | none => defaultSince id >>= f) service =
        service.startOf id since >>= fun since => (f since).on service := by
  cases since with
  | some since => rfl
  | none =>
    dsimp only
    rw [Operation.on_bind, on_defaultSince, bind_assoc]
    rfl

/-- What an import gives and leaves behind once the orders are there. -/
def imported (id : MarketplaceId) (since : Timestamp) (orders : List Order) (resultId : Uuid)
    (started ended : Timestamp) (reason : Option Interruption) :
    OrderImport × Service α MemoryStore :=
  let result := SyncResult.ofImport resultId id orders.length started ended reason
  let (newOrders, store) := service.store.saveOrders orders
  ({ since, newOrders, duplicates := orders.length - newOrders.length, result },
    { service with store := store.saveResult result })

/-- The store has the orders that are new, and the result. -/
theorem store_imported (id : MarketplaceId) (since : Timestamp) (orders : List Order)
    (resultId : Uuid) (started ended : Timestamp) (reason : Option Interruption) :
    (service.imported id since orders resultId started ended reason).2.store =
      { service.store with orders := orders.foldl OrderBook.insert service.store.orders }.saveResult
        (.ofImport resultId id orders.length started ended reason) := by
  rw [← MemoryStore.saveOrders_snd]
  rfl

variable [Marketplace α]

theorem on_readyAdapter (id : MarketplaceId) :
    (readyAdapter id).on service =
      pure ((service.registry.findReady id).mapError .market, service) := rfl

/-- An import from a time on: it ends with the error of the marketplace and leaves the service as it
was, or everything that came is in the store. -/
def importSince (adapter : α) (id : MarketplaceId) (signal : Signal) (since : Timestamp) :
    Dialogue (Except SyncError OrderImport × Service α MemoryStore) := do
  let started ← Dialogue.moment
  match ← (Marketplace.importOrders adapter since signal).run with
  | .error e => pure (.error (.market e), service)
  | .ok orders => do
    let resultId ← Dialogue.freshId
    let now ← Dialogue.moment
    let ended ← Dialogue.moment
    let (found, after) := service.imported id since orders resultId started.wall ended.wall
      (signal.interruption? now)
    pure (.ok found, after)

/-- An import looks where to start, if the adapter is ready, and imports from there. -/
theorem on_importOrders (id : MarketplaceId) (since : Option Timestamp) (signal : Signal) :
    (importOrders id since signal).on service =
      match service.registry.findReady id with
      | .error e => pure (.error (.market e), service)
      | .ok adapter => service.startOf id since >>= service.importSince adapter id signal := by
  unfold importOrders
  rw [Operation.on_bind, on_readyAdapter, pure_bind]
  cases service.registry.findReady id with
  | error e => rfl
  | ok adapter =>
    refine (on_start_bind service id since _).trans ?_
    refine bind_congr fun since => ?_
    unfold importSince
    rw [Operation.on_ask_bind]
    refine bind_congr fun started => ?_
    rw [Operation.on_bind, Operation.on_ofAttempt, bind_assoc]
    refine bind_congr fun outcome => ?_
    rw [pure_bind]
    cases outcome with
    | error e => rfl
    | ok orders =>
      dsimp only [Except.mapError]
      rw [Operation.on_ask_bind]
      refine bind_congr fun resultId => ?_
      rw [Operation.on_bind, on_saveOrders, pure_bind]
      dsimp only
      rw [Operation.on_ask_bind]
      refine bind_congr fun now => ?_
      rw [Operation.on_ask_bind]
      refine bind_congr fun ended => ?_
      have hresult := SyncResult.finish_counted resultId id orders started.wall ended.wall
      unfold imported
      cases signal.interruption? now with
      | some reason =>
        rw [← hresult (some reason)]
        rfl
      | none =>
        rw [← hresult none]
        rfl

/-- An import from a time on either fails and leaves the service as it was, or went through all its
steps, in this order. -/
theorem gives_importSince {service after : Service α MemoryStore} {adapter : α}
    {id : MarketplaceId} {signal : Signal} {since : Timestamp} {t : List Answered}
    {outcome : Except SyncError OrderImport}
    (h : (service.importSince adapter id signal since).Gives t (outcome, after)) :
    (∃ e, outcome = .error e ∧ after = service) ∨
      ∃ (during : List Answered) (orders : List Order) (resultId : Uuid)
        (started now ended : Moment),
        t = ⟨.moment, started⟩ :: (during ++
          [⟨.freshId, resultId⟩, ⟨.moment, now⟩, ⟨.moment, ended⟩]) ∧
        (Marketplace.importOrders adapter since signal).run.Gives during (.ok orders) ∧
        outcome = .ok (service.imported id since orders resultId started.wall ended.wall
          (signal.interruption? now)).1 ∧
        after = (service.imported id since orders resultId started.wall ended.wall
          (signal.interruption? now)).2 := by
  unfold importSince at h
  obtain ⟨started, t₁, rfl, hstarted⟩ := Dialogue.gives_moment_bind_iff.1 h
  obtain ⟨found, during, t₂, rfl, hduring, hrest⟩ := Dialogue.gives_bind_iff.1 hstarted
  cases found with
  | error e =>
    obtain ⟨-, heq⟩ := Dialogue.gives_pure_iff.1 hrest
    cases heq
    exact .inl ⟨_, rfl, rfl⟩
  | ok orders =>
    obtain ⟨resultId, t₃, rfl, hid⟩ := Dialogue.gives_freshId_bind_iff.1 hrest
    obtain ⟨now, t₄, rfl, hnow⟩ := Dialogue.gives_moment_bind_iff.1 hid
    obtain ⟨ended, t₅, rfl, hended⟩ := Dialogue.gives_moment_bind_iff.1 hnow
    obtain ⟨rfl, heq⟩ := Dialogue.gives_pure_iff.1 hended
    cases heq
    exact .inr ⟨during, orders, resultId, started, now, ended, rfl, hduring, rfl, rfl⟩

theorem gives_importOrders {service after : Service α MemoryStore} {id : MarketplaceId}
    {since : Option Timestamp} {signal : Signal} {t : List Answered}
    {outcome : Except SyncError OrderImport}
    (h : ((importOrders id since signal).on service).Gives t (outcome, after)) :
    (∃ e, outcome = .error e ∧ after = service) ∨
      ∃ (adapter : α) (start : Timestamp) (before during : List Answered) (orders : List Order)
        (resultId : Uuid) (started now ended : Moment),
        t = before ++ ⟨.moment, started⟩ :: (during ++
          [⟨.freshId, resultId⟩, ⟨.moment, now⟩, ⟨.moment, ended⟩]) ∧
        service.registry.findReady id = .ok adapter ∧
        (service.startOf id since).Gives before start ∧
        (Marketplace.importOrders adapter start signal).run.Gives during (.ok orders) ∧
        outcome = .ok (service.imported id start orders resultId started.wall ended.wall
          (signal.interruption? now)).1 ∧
        after = (service.imported id start orders resultId started.wall ended.wall
          (signal.interruption? now)).2 := by
  rw [on_importOrders] at h
  cases hready : service.registry.findReady id with
  | error e =>
    rw [hready] at h
    obtain ⟨-, heq⟩ := Dialogue.gives_pure_iff.1 h
    cases heq
    exact .inl ⟨_, rfl, rfl⟩
  | ok adapter =>
    rw [hready] at h
    obtain ⟨start, before, t₁, rfl, hstart, himport⟩ := Dialogue.gives_bind_iff.1 h
    rcases gives_importSince himport with hfailed | ⟨during, orders, resultId, started, now, ended,
      rfl, hduring, hfound, hafter⟩
    · exact .inl hfailed
    · exact .inr ⟨adapter, start, before, during, orders, resultId, started, now, ended, rfl, rfl,
        hstart, hduring, hfound, hafter⟩

end Service

end ShopSync
