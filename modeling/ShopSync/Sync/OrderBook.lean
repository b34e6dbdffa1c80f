import ShopSync.Order

/-!
Collections of orders.

An order book holds at most one order per key and lists them by marketplace and external id.  The
first order of a key stays; a later one with the same key is not taken in, so that what was changed
locally is kept.
-/

namespace ShopSync

namespace Order

/-- The order of keys: by the tag of the marketplace, then by the external id. -/
def KeyLt (k l : MarketplaceId × String) : Prop :=
  k.1.tag < l.1.tag ∨ k.1 = l.1 ∧ k.2 < l.2

instance (k l : MarketplaceId × String) : Decidable (KeyLt k l) := by
  unfold KeyLt; infer_instance

theorem KeyLt.irrefl (k : MarketplaceId × String) : ¬KeyLt k k := by
  rintro (h | ⟨-, h⟩) <;> exact String.lt_irrefl _ h

theorem KeyLt.trans {j k l : MarketplaceId × String} (h : KeyLt j k) (h' : KeyLt k l) :
    KeyLt j l := by
  rcases h with h | ⟨e, h⟩ <;> rcases h' with h' | ⟨e', h'⟩
  · exact .inl (String.lt_trans h h')
  · exact .inl (e' ▸ h)
  · exact .inl (e ▸ h')
  · exact .inr ⟨e.trans e', String.lt_trans h h'⟩

theorem KeyLt.connected {k l : MarketplaceId × String} (hne : k ≠ l) (h : ¬KeyLt k l) :
    KeyLt l k := by
  obtain ⟨⟨⟩, x⟩ := k
  obtain ⟨⟨⟩, y⟩ := l
  refine .inr ⟨rfl, Decidable.byContradiction fun h' => hne ?_⟩
  have hyx : ¬x < y := fun hxy => h (.inr ⟨rfl, hxy⟩)
  exact congrArg (Prod.mk _) (String.le_antisymm (String.not_lt.mp h') (String.not_lt.mp hyx))

/-- The list with an order at its place, unless there is one with its key. -/
def insertNew (order : Order) : List Order → List Order
  | [] => [order]
  | o :: rest =>
    if o.key = order.key then o :: rest
    else if KeyLt order.key o.key then order :: o :: rest
    else o :: insertNew order rest

theorem mem_insertNew {order o : Order} {orders : List Order} (h : o ∈ insertNew order orders) :
    o = order ∨ o ∈ orders := by
  induction orders with
  | nil => simpa [insertNew] using h
  | cons p rest ih =>
    simp only [insertNew] at h
    split at h
    · exact .inr h
    · split at h
      · simpa using h
      · rcases List.mem_cons.mp h with rfl | h
        · exact .inr (by simp)
        · exact (ih h).imp_right (List.mem_cons_of_mem _)

theorem pairwise_insertNew {order : Order} {orders : List Order}
    (h : orders.Pairwise fun a b => KeyLt a.key b.key) :
    (insertNew order orders).Pairwise fun a b => KeyLt a.key b.key := by
  induction orders with
  | nil => simp [insertNew]
  | cons p rest ih =>
    obtain ⟨hp, hrest⟩ := List.pairwise_cons.mp h
    simp only [insertNew]
    split
    · exact h
    next hne =>
      split
      next hlt =>
        refine List.pairwise_cons.mpr ⟨fun o ho => ?_, h⟩
        rcases List.mem_cons.mp ho with rfl | ho
        · exact hlt
        · exact hlt.trans (hp o ho)
      next hlt =>
        refine List.pairwise_cons.mpr ⟨fun o ho => ?_, ih hrest⟩
        rcases mem_insertNew ho with rfl | ho
        · exact KeyLt.connected (Ne.symm hne) hlt
        · exact hp o ho

end Order

/-- Orders by their keys. -/
structure OrderBook where
  toList : List Order
  sorted : toList.Pairwise fun a b => Order.KeyLt a.key b.key
deriving DecidableEq

namespace OrderBook

/-- No orders. -/
def empty : OrderBook := { toList := [], sorted := .nil }

instance : Inhabited OrderBook := ⟨empty⟩

/-- The order with a key. -/
def get? (book : OrderBook) (key : MarketplaceId × String) : Option Order :=
  book.toList.find? fun order => decide (order.key = key)

/-- Whether there is an order with a key. -/
def contains (book : OrderBook) (key : MarketplaceId × String) : Bool :=
  (book.get? key).isSome

/-- The book with an order taken in, unless there is one with its key. -/
def insert (book : OrderBook) (order : Order) : OrderBook where
  toList := order.insertNew book.toList
  sorted := Order.pairwise_insertNew book.sorted

/-- The book with the status of one order set. -/
def setStatus (book : OrderBook) (key : MarketplaceId × String) (status : String) : OrderBook where
  toList := book.toList.map fun order => if order.key = key then { order with status } else order
  sorted := by
    have hkey (o : Order) : (if o.key = key then { o with status } else o).key = o.key := by
      split <;> rfl
    refine List.pairwise_map.mpr ?_
    simpa only [hkey] using book.sorted

/-- The book of a list: the first order of every key. -/
def ofList (orders : List Order) : OrderBook :=
  orders.foldl insert empty

end OrderBook

end ShopSync
