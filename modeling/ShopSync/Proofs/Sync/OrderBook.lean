import Mathlib.Tactic
import ShopSync.Proofs.Keyed
import ShopSync.Sync.OrderBook

/-!
Order books as maps from keys to orders.

What a key gives determines a book, since its list is in the order of the keys.  So the book of a
list, which gives for every key the first order that has it, is the book that the list came from.
-/

namespace ShopSync

namespace Order

theorem KeyLt.ne {k l : MarketplaceId × String} (h : KeyLt k l) : k ≠ l := by
  rintro rfl
  exact KeyLt.irrefl k h

/-- The key of the first order does not come behind that of the second. -/
def keyLE (a b : Order) : Bool := !decide (KeyLt b.key a.key)

section Sorting

variable {a b c : Order}

theorem keyLE_iff : keyLE a b = true ↔ ¬KeyLt b.key a.key := by simp [keyLE]

theorem keyLE_of_keyLt (h : KeyLt a.key b.key) : keyLE a b = true :=
  keyLE_iff.2 fun h' => KeyLt.irrefl _ (h.trans h')

theorem key_eq_of_keyLE (h : keyLE a b = true) (h' : keyLE b a = true) : a.key = b.key :=
  Decidable.byContradiction fun hne =>
    keyLE_iff.1 h (KeyLt.connected hne (keyLE_iff.1 h'))

theorem keyLE_total (a b : Order) : (keyLE a b || keyLE b a) = true := by
  rw [Bool.or_eq_true, keyLE_iff, keyLE_iff, ← not_and_or]
  rintro ⟨h, h'⟩
  exact KeyLt.irrefl _ (h.trans h')

theorem keyLE_trans (a b c : Order) (h : keyLE a b = true) (h' : keyLE b c = true) :
    keyLE a c = true := by
  rw [keyLE_iff] at h h' ⊢
  intro hca
  by_cases hkey : a.key = b.key
  · exact h' (hkey ▸ hca)
  · exact h' (hca.trans (KeyLt.connected (Ne.symm hkey) h))

end Sorting

theorem find?_eq_none_of_keyLt {key : MarketplaceId × String} {orders : List Order}
    (h : ∀ o ∈ orders, KeyLt key o.key) :
    orders.find? (fun o => decide (o.key = key)) = none := by
  rw [List.find?_eq_none]
  intro o ho heq
  rw [decide_eq_true_eq] at heq
  exact (h o ho).ne heq.symm

/-- An order that is put in its place is found, unless another one has its key. -/
theorem find?_insertNew {orders : List Order} (h : orders.Pairwise fun a b => KeyLt a.key b.key)
    (order : Order) (key : MarketplaceId × String) :
    (insertNew order orders).find? (fun o => decide (o.key = key)) =
      (orders.find? fun o => decide (o.key = key)).or
        (if order.key = key then some order else none) := by
  induction orders with
  | nil =>
    rw [insertNew, List.find?_nil, Option.none_or, List.find?_singleton]
    simp only [decide_eq_true_eq]
  | cons o rest ih =>
    obtain ⟨ho, hrest⟩ := List.pairwise_cons.1 h
    rw [insertNew]
    split
    case isTrue heq =>
      by_cases hkey : o.key = key
      · rw [List.find?_cons_of_pos (by simpa using hkey), Option.some_or]
      · rw [if_neg (heq ▸ hkey), Option.or_none]
    case isFalse hne =>
      split
      case isTrue hlt =>
        by_cases hkey : order.key = key
        · have hnone : (o :: rest).find? (fun p => decide (p.key = key)) = none := by
            apply find?_eq_none_of_keyLt
            intro p hp
            rw [← hkey]
            rcases List.mem_cons.1 hp with rfl | hp
            · exact hlt
            · exact hlt.trans (ho p hp)
          rw [List.find?_cons_of_pos (by simpa using hkey), hnone, Option.none_or, if_pos hkey]
        · rw [List.find?_cons_of_neg (by simpa using hkey), if_neg hkey, Option.or_none]
      case isFalse hlt =>
        by_cases hkey : o.key = key
        · rw [List.find?_cons_of_pos (by simpa using hkey),
            List.find?_cons_of_pos (by simpa using hkey), Option.some_or]
        · rw [List.find?_cons_of_neg (by simpa using hkey),
            List.find?_cons_of_neg (by simpa using hkey), ih hrest]

end Order

namespace OrderBook

/-! ### What keys give -/

theorem get?_empty (key : MarketplaceId × String) : empty.get? key = none := rfl

theorem get?_insert (book : OrderBook) (order : Order) (key : MarketplaceId × String) :
    (book.insert order).get? key =
      (book.get? key).or (if order.key = key then some order else none) :=
  Order.find?_insertNew book.sorted order key

/-- Orders taken in one after another: of each key the first, unless the book had one. -/
theorem get?_foldl_insert (book : OrderBook) (orders : List Order) (key : MarketplaceId × String) :
    (orders.foldl insert book).get? key =
      (book.get? key).or (orders.find? fun o => decide (o.key = key)) := by
  induction orders generalizing book with
  | nil => rw [List.foldl_nil, List.find?_nil, Option.or_none]
  | cons o rest ih =>
    rw [List.foldl_cons, ih, get?_insert, Option.or_assoc, List.find?_cons]
    by_cases hkey : o.key = key
    · rw [if_pos hkey, decide_eq_true hkey, Option.some_or]
    · rw [if_neg hkey, decide_eq_false hkey, Option.none_or]

/-- The book of a list gives for a key the first order of the list that has it. -/
theorem get?_ofList (orders : List Order) (key : MarketplaceId × String) :
    (ofList orders).get? key = orders.find? fun o => decide (o.key = key) := by
  rw [ofList, get?_foldl_insert, get?_empty, Option.none_or]

/-! ### Books as maps -/

theorem mem_toList_iff {book : OrderBook} {order : Order} :
    order ∈ book.toList ↔ book.get? order.key = some order := by
  constructor
  · intro h
    obtain ⟨before, after, hsplit⟩ := List.append_of_mem h
    have hsorted := book.sorted
    rw [hsplit, List.pairwise_append] at hsorted
    rw [get?, List.find?_eq_some_iff_append]
    refine ⟨decide_eq_true rfl, before, after, hsplit, ?_⟩
    intro o ho
    have hlt := hsorted.2.2 o ho order List.mem_cons_self
    simpa using hlt.ne
  · intro h
    exact List.mem_of_find?_eq_some h

theorem nodup_toList (book : OrderBook) : book.toList.Nodup :=
  book.sorted.imp fun h heq => h.ne (congrArg Order.key heq)

/-- What holds of the order that is taken in holds of the whole book when it held of the book
before. -/
theorem forall_insert_iff {book : OrderBook} {order : Order} {p : Order → Prop} (h : p order) :
    (∀ o ∈ (book.insert order).toList, p o) ↔ ∀ o ∈ book.toList, p o := by
  constructor
  · intro hall o ho
    refine hall o ?_
    rw [mem_toList_iff] at ho ⊢
    rw [get?_insert, ho, Option.some_or]
  · intro hall o ho
    rcases Order.mem_insertNew ho with rfl | ho
    · exact h
    · exact hall o ho

theorem forall_foldl_insert_iff {book : OrderBook} {orders : List Order} {p : Order → Prop}
    (h : ∀ o ∈ orders, p o) :
    (∀ o ∈ (orders.foldl insert book).toList, p o) ↔ ∀ o ∈ book.toList, p o := by
  induction orders generalizing book with
  | nil => rfl
  | cons o rest ih =>
    rw [List.forall_mem_cons] at h
    rw [List.foldl_cons, ih h.2, forall_insert_iff h.1]

theorem ext_get? {book book' : OrderBook} (h : ∀ key, book.get? key = book'.get? key) :
    book = book' := by
  have hmem (order : Order) : order ∈ book.toList ↔ order ∈ book'.toList := by
    rw [mem_toList_iff, mem_toList_iff, h]
  have hperm := (List.perm_ext_iff_of_nodup book.nodup_toList book'.nodup_toList).2 hmem
  have hlist : book.toList = book'.toList := by
    refine hperm.eq_of_pairwise ?_ book.sorted book'.sorted
    intro a b _ _ hab hba
    exact absurd (hab.trans hba) (Order.KeyLt.irrefl a.key)
  obtain ⟨orders, _⟩ := book
  obtain ⟨orders', _⟩ := book'
  subst hlist
  rfl

/-- The book of a list holds the first order of every key. -/
theorem mem_ofList_iff {orders : List Order} {order : Order} :
    order ∈ (ofList orders).toList ↔ Keyed.IsFirst Order.key orders order := by
  rw [mem_toList_iff, get?_ofList, Keyed.find?_eq_some_iff_isFirst]

/-- In whatever order the orders of a book are listed, sorting them by their keys lists them as the
book does. -/
theorem mergeSort_eq_toList {book : OrderBook} {table : List Order} (hnodup : table.Nodup)
    (hmem : ∀ order, order ∈ table ↔ order ∈ book.toList) :
    table.mergeSort Order.keyLE = book.toList := by
  have hperm : (table.mergeSort Order.keyLE).Perm book.toList :=
    (List.mergeSort_perm _ _).trans
      ((List.perm_ext_iff_of_nodup hnodup book.nodup_toList).2 hmem)
  have hsorted := List.pairwise_mergeSort Order.keyLE_trans Order.keyLE_total table
  refine hperm.eq_of_pairwise ?_ hsorted (book.sorted.imp Order.keyLE_of_keyLt)
  intro a b ha hb hab hba
  -- neither key comes first, so they are equal, and a book has one order for each key
  have hkey : a.key = b.key := Order.key_eq_of_keyLE hab hba
  have hmema := hperm.mem_iff.1 ha
  rw [mem_toList_iff] at hmema hb
  rw [hkey, hb] at hmema
  exact (Option.some.inj hmema).symm

theorem ofList_toList (book : OrderBook) : ofList book.toList = book :=
  ext_get? fun key => get?_ofList book.toList key

end OrderBook

end ShopSync
