import ShopSync.Proofs.Sync.Intake
import ShopSync.Proofs.Sync.Persistence

/-!
Stored orders by the history of a store.

What is stored under a key can be told from the calls alone: nothing before an order with the key
is saved, and from then on the first such order, with the status that was set last behind it.
`Recorded` says this of a list of calls, and no other calls change it (`orders_of_calls`).  So an
order that comes in again changes nothing, in particular no status that was set meanwhile.
-/

namespace ShopSync

/-! ### Histories -/

namespace StoreCall

/-- The order that a call saves. -/
def savedOrder? : StoreCall → Option Order
  | .saveOrder saved => some saved
  | _ => none

/-- The status that a call sets for a key. -/
def statusFor? (key : MarketplaceId × String) : StoreCall → Option String
  | .setOrderStatus id orderId status => if (id, orderId) = key then some status else none
  | _ => none

end StoreCall

/-- One of the calls saves an order with the key. -/
def Saves (key : MarketplaceId × String) (calls : List StoreCall) : Prop :=
  ∃ order ∈ calls.filterMap StoreCall.savedOrder?, order.key = key

instance (key : MarketplaceId × String) (calls : List StoreCall) : Decidable (Saves key calls) := by
  unfold Saves; infer_instance

/-- The statuses that calls set for a key. -/
def statusesFor (key : MarketplaceId × String) (calls : List StoreCall) : List String :=
  calls.filterMap (StoreCall.statusFor? key)

/-- The order with the last of these statuses, or with its own when there is none. -/
def Order.withLast (order : Order) (statuses : List String) : Order :=
  { order with status := statuses.getLast?.getD order.status }

/-- What calls leave under a key: nothing when none saves an order with it, and otherwise the first
one that was saved, with the last status that was set for the key behind that. -/
inductive Recorded (key : MarketplaceId × String) : List StoreCall → Option Order → Prop
  | unsaved {calls : List StoreCall} (hnone : ¬Saves key calls) : Recorded key calls none
  | saved {before later : List StoreCall} {order : Order} (hkey : order.key = key)
      (hfirst : ¬Saves key before) :
      Recorded key (before ++ .saveOrder order :: later)
        (some (order.withLast (statusesFor key later)))

section Histories

variable {key : MarketplaceId × String} {call : StoreCall} {calls : List StoreCall}

theorem saves_cons_iff :
    Saves key (call :: calls) ↔
      (∃ order, call.savedOrder? = some order ∧ order.key = key) ∨ Saves key calls := by
  unfold Saves
  cases hsaved : call.savedOrder? with
  | none => simp [List.filterMap_cons_none hsaved]
  | some order => simp [List.filterMap_cons_some hsaved]

theorem Order.withLast_cons (order : Order) (status : String) (statuses : List String) :
    order.withLast (status :: statuses) = { order with status }.withLast statuses := by
  rw [withLast, withLast, List.getLast?_cons, Option.getD_some]

theorem exists_recorded (key : MarketplaceId × String) (calls : List StoreCall) :
    ∃ found, Recorded key calls found := by
  induction calls with
  | nil => exact ⟨none, .unsaved (by rintro ⟨order, ⟨⟩, -⟩)⟩
  | cons call calls ih =>
    by_cases hcall : ∃ order, call.savedOrder? = some order ∧ order.key = key
    · obtain ⟨order, hsaved, hkey⟩ := hcall
      obtain rfl : call = .saveOrder order := by
        cases call <;> cases hsaved
        rfl
      have hfirst : ¬Saves key [] := by rintro ⟨order, ⟨⟩, -⟩
      exact ⟨_, .saved hkey hfirst⟩
    · have hskip (calls' : List StoreCall) : Saves key (call :: calls') ↔ Saves key calls' := by
        rw [saves_cons_iff, or_iff_right hcall]
      obtain ⟨found, hfound⟩ := ih
      cases hfound with
      | unsaved hnone => exact ⟨none, .unsaved ((hskip calls).not.2 hnone)⟩
      | @saved before later order hkey hfirst =>
        exact ⟨_, .saved hkey ((hskip before).not.2 hfirst)⟩

end Histories

/-! ### Books -/

namespace OrderBook

variable (book : OrderBook) (key key' : MarketplaceId × String)

theorem key_of_get? {book : OrderBook} {key : MarketplaceId × String} {order : Order}
    (h : book.get? key = some order) : order.key = key := by
  rw [get?] at h
  exact of_decide_eq_true (List.find?_some (p := fun o : Order => decide (o.key = key)) h)

/-- Setting the status of one order changes what its key gives, and nothing else. -/
theorem get?_setStatus (status : String) :
    (book.setStatus key status).get? key' =
      if key = key' then (book.get? key').map fun order => { order with status }
      else book.get? key' := by
  have hkey (o : Order) : (if o.key = key then { o with status } else o).key = o.key := by
    split <;> rfl
  rw [get?, setStatus, List.find?_map]
  simp only [Function.comp_def, hkey]
  rw [← get?]
  cases hfound : book.get? key' with
  | none => simp
  | some order =>
    obtain rfl := key_of_get? hfound
    rw [Option.map_some, Option.map_some, apply_ite some]
    simp only [eq_comm]

end OrderBook

/-! ### Stores -/

namespace MemoryStore

variable {store : MemoryStore} {id : MarketplaceId} {orderId : String} {order : Order}
variable {call : StoreCall} {calls : List StoreCall}

theorem order?_ask (store : MemoryStore) (call : StoreCall) (id : MarketplaceId)
    (orderId : String) :
    (store.ask call).2.order? id orderId =
      match store.order? id orderId with
      | some order => some (order.withLast (call.statusFor? (id, orderId)).toList)
      | none => call.savedOrder?.filter fun order => order.key = (id, orderId) := by
  have hsame (o : Order) : o.withLast [] = o := rfl
  cases call with
  | saveOrder saved =>
    refine (OrderBook.get?_insert store.orders saved (id, orderId)).trans ?_
    rw [← order?]
    cases store.order? id orderId with
    | some order => rfl
    | none => simp [StoreCall.savedOrder?, Option.filter]
  | setOrderStatus id' orderId' status =>
    refine (OrderBook.get?_setStatus store.orders (id', orderId') (id, orderId) status).trans ?_
    rw [← order?, StoreCall.statusFor?]
    cases store.order? id orderId with
    | some order => split <;> rfl
    | none => simp [StoreCall.savedOrder?]
  | _ =>
    change store.order? id orderId = _
    cases store.order? id orderId <;> rfl

theorem after_append (store : MemoryStore) (calls calls' : List StoreCall) :
    store.after (calls ++ calls') = (store.after calls).after calls' :=
  List.foldl_append

theorem after_cons (store : MemoryStore) (call : StoreCall) (calls : List StoreCall) :
    store.after (call :: calls) = (store.ask call).2.after calls := rfl

/-- What is stored stays, with the last status that is set for it. -/
theorem order?_after_of_eq_some (h : store.order? id orderId = some order) :
    (store.after calls).order? id orderId =
      some (order.withLast (statusesFor (id, orderId) calls)) := by
  induction calls generalizing store order with
  | nil => exact h
  | cons call calls ih =>
    have hask := order?_ask store call id orderId
    rw [h] at hask
    refine (ih hask).trans (congrArg some ?_)
    rw [statusesFor, statusesFor, List.filterMap_cons]
    cases call.statusFor? (id, orderId) with
    | none => rfl
    | some status => exact (Order.withLast_cons order status _).symm

theorem order?_after_of_not_saves (h : store.order? id orderId = none)
    (hnone : ¬Saves (id, orderId) calls) : (store.after calls).order? id orderId = none := by
  induction calls generalizing store with
  | nil => exact h
  | cons call calls ih =>
    obtain ⟨hcall, hcalls⟩ := not_or.1 (saves_cons_iff.not.1 hnone)
    refine ih ?_ hcalls
    rw [order?_ask, h, Option.filter_eq_none_iff]
    intro saved hsaved hkey
    exact hcall ⟨saved, hsaved, of_decide_eq_true hkey⟩

/-- What the calls leave under a key is what is stored. -/
theorem order?_of_recorded {found : Option Order} (h : Recorded (id, orderId) calls found) :
    (after {} calls).order? id orderId = found := by
  have hempty : ({} : MemoryStore).order? id orderId = none := rfl
  cases h with
  | unsaved hnone => exact order?_after_of_not_saves hempty hnone
  | @saved before later order hkey hfirst =>
    have hbefore := order?_after_of_not_saves hempty hfirst
    have hsave := order?_ask (after {} before) (.saveOrder order) id orderId
    rw [hbefore] at hsave
    have hsaved := hsave.trans (if_pos (decide_eq_true hkey))
    rw [after_append, after_cons]
    exact order?_after_of_eq_some hsaved

theorem order?_iff {found : Option Order} :
    (after {} calls).order? id orderId = found ↔ Recorded (id, orderId) calls found := by
  constructor
  · rintro rfl
    obtain ⟨found, hfound⟩ := exists_recorded (id, orderId) calls
    rwa [order?_of_recorded hfound]
  · exact order?_of_recorded

theorem contains_iff_saves {key : MarketplaceId × String} :
    (after {} calls).orders.contains key = true ↔ Saves key calls := by
  constructor
  · intro hcontains
    by_contra hnone
    have hget : (after {} calls).order? key.1 key.2 = none := order?_of_recorded (.unsaved hnone)
    have hsome : ((after {} calls).order? key.1 key.2).isSome = true := hcontains
    rw [hget] at hsome
    cases hsome
  · intro hsaves
    obtain ⟨found, hfound⟩ := exists_recorded key calls
    have hget : (after {} calls).order? key.1 key.2 = found := order?_of_recorded hfound
    have hsome : ((after {} calls).order? key.1 key.2).isSome = true := by
      rw [hget]
      cases hfound with
      | unsaved hnone => exact absurd hsaves hnone
      | saved => rfl
    exact hsome

/-- Each call is answered by the store that the calls before it left. -/
theorem getElem?_answers (store : MemoryStore) (calls : List StoreCall) (i : Nat) :
    (store.answers calls)[i]? =
      calls[i]?.map fun call => ((store.after (calls.take i)).ask call).1 := by
  induction calls generalizing store i with
  | nil => rfl
  | cons call calls ih =>
    cases i with
    | zero => rfl
    | succ i => exact ih _ i

/-- An order whose key was saved is not new, and saving it changes nothing. -/
theorem saveOrder_of_saves (h : Saves order.key calls) :
    (after {} calls).saveOrder order = (false, after {} calls) := by
  have hcontains := contains_iff_saves.2 h
  rw [saveOrder, hcontains, OrderBook.insert_of_contains hcontains]
  rfl

/-- **Stored orders by the history of a store.**  What an empty store has under a key after any
calls is what the calls leave there, and it is an order with that key or nothing.  An order is new
exactly when its key was not saved before, a status finds an order exactly when its key was, and
saving a key again changes nothing. -/
theorem orders_of_calls (calls : List StoreCall) :
    (∀ id orderId found,
        (after {} calls).order? id orderId = found ↔ Recorded (id, orderId) calls found) ∧
      (∀ id orderId order,
        (after {} calls).order? id orderId = some order → order.key = (id, orderId)) ∧
      (∀ (i : Nat) order, calls[i]? = some (.saveOrder order) →
        (answers {} calls)[i]? = some (.flag (!decide (Saves order.key (calls.take i))))) ∧
      (∀ (i : Nat) id orderId status, calls[i]? = some (.setOrderStatus id orderId status) →
        (answers {} calls)[i]? = some (.flag (decide (Saves (id, orderId) (calls.take i))))) ∧
      (∀ (i : Nat) id orderId, calls[i]? = some (.order id orderId) →
        ∃ found, (answers {} calls)[i]? = some (.order found) ∧
          Recorded (id, orderId) (calls.take i) found) ∧
      ∀ order, Saves order.key calls →
        after {} (calls ++ [.saveOrder order]) = after {} calls := by
  have hcontains (i : Nat) (key : MarketplaceId × String) :
      (after {} (calls.take i)).orders.contains key = decide (Saves key (calls.take i)) := by
    rw [Bool.eq_iff_iff, contains_iff_saves, decide_eq_true_iff]
  refine ⟨fun id orderId found => order?_iff, fun id orderId order => OrderBook.key_of_get?,
    fun i order hcall => ?_, fun i id orderId status hcall => ?_, fun i id orderId hcall => ?_,
    fun order hsaves => ?_⟩
  · rw [getElem?_answers, hcall, ← hcontains]
    rfl
  · rw [getElem?_answers, hcall, ← hcontains]
    rfl
  · rw [getElem?_answers, hcall]
    exact ⟨_, rfl, order?_iff.1 rfl⟩
  · have hsave := congrArg Prod.snd (saveOrder_of_saves hsaves)
    rw [after_append]
    exact hsave

/-- An order comes in twice and its status is set: it is new once, and when it comes in once more
the status that was set stays. -/
theorem orders_of_calls_sampleCalls :
    ∃ order, sampleCalls[2]? = some (.saveOrder order) ∧ order.status = "paid" ∧
      (answers {} sampleCalls)[2]? = some (.flag true) ∧
      (answers {} sampleCalls)[3]? = some (.flag false) ∧
      (answers {} sampleCalls)[4]? = some (.flag true) ∧
      (after {} (sampleCalls ++ [.saveOrder order])).order? .etsy "1001" =
        some { order with status := "completed" } := by
  obtain ⟨hfound, -, hsave, hset, -, hagain⟩ := orders_of_calls sampleCalls
  have hfirst : ¬Saves (.etsy, "1001") (sampleCalls.take 2) := by decide +kernel
  have hrecorded : Recorded (.etsy, "1001") sampleCalls _ :=
    @Recorded.saved _ (sampleCalls.take 2) (sampleCalls.drop 3) _ rfl hfirst
  refine ⟨_, rfl, rfl, (hsave 2 _ rfl).trans ?_, (hsave 3 _ rfl).trans ?_,
    (hset 4 _ _ _ rfl).trans ?_, ?_⟩
  · exact congrArg (some ∘ StoreAnswer.flag) (by decide +kernel)
  · exact congrArg (some ∘ StoreAnswer.flag) (by decide +kernel)
  · exact congrArg (some ∘ StoreAnswer.flag) (by decide +kernel)
  · rw [hagain _ (by decide +kernel)]
    exact (hfound .etsy "1001" _).2 hrecorded

end MemoryStore

end ShopSync
