import Mathlib.Tactic
import ShopSync.Etsy.Session

/-!
The loop over the pages of receipts.

Whether a page is the last one is decided by three looks at it, and only behind a page that is not
does the signal matter.  `HasMore` puts the three together, and with it a step of the loop has two
cases.  The loop ends because a page that has more behind it is full and moves the position on,
which never gets past the last one (`Session.ordersFrom_induction`).
-/

namespace ShopSync.Etsy

open Json.Loose (Members)

/-- There is more behind a page: it is full, and it ends before the count that it gives and not
behind the last position. -/
structure HasMore (offset : Nat) (page : Page Members) : Prop where
  full : pageSize ≤ page.results.length
  uncounted : ∀ count ∈ page.count, ((offset + page.results.length : Nat) : Int) < count
  within : offset + page.results.length ≤ lastOffset

instance (offset : Nat) (page : Page Members) : Decidable (HasMore offset page) :=
  decidable_of_iff
    (pageSize ≤ page.results.length ∧
      (∀ count ∈ page.count, ((offset + page.results.length : Nat) : Int) < count) ∧
      offset + page.results.length ≤ lastOffset)
    ⟨fun ⟨hfull, huncounted, hwithin⟩ => ⟨hfull, huncounted, hwithin⟩,
      fun h => ⟨h.full, h.uncounted, h.within⟩⟩

namespace Session

/-- A step of the loop: behind a page that has more behind it the signal decides. -/
theorem ordersFrom_eq (session : Session) (since : Timestamp) (signal : Signal) (offset : Nat)
    (done : List Order) :
    session.ordersFrom since signal offset done = (do
      let page ← session.client.get (session.receiptsUrl since.unixSeconds offset)
        (Page.decoder fun ms => ms)
      let orders := done ++ ordersSince since.unixSeconds page.results
      if HasMore offset page then
        let now ← Dialogue.moment
        if signal.isStopped now then pure orders
        else session.ordersFrom since signal (offset + page.results.length) orders
      else pure orders) := by
  rw [ordersFrom]
  refine bind_congr fun page => ?_
  have hany : (page.count.any fun (count : Int) =>
      decide (count ≤ ((offset + page.results.length : Nat) : Int))) = false ↔
      ∀ count ∈ page.count, ((offset + page.results.length : Nat) : Int) < count := by
    cases page.count with
    | none => simp
    | some count => simp
  dsimp only
  by_cases hmore : HasMore offset page
  · rw [if_pos hmore, dif_neg (not_lt.2 hmore.full), hany.2 hmore.uncounted,
      if_neg Bool.false_ne_true, dif_neg (not_lt.2 hmore.within)]
  · rw [if_neg hmore]
    split
    · rfl
    next hfull =>
      split
      · rfl
      next hcount =>
        split
        · rfl
        next hwithin =>
          exact absurd ⟨not_lt.1 hfull, hany.1 (Bool.not_eq_true _ ▸ hcount), not_lt.1 hwithin⟩
            hmore

/-- Induction along the loop: over what is read behind every page that has more behind it. -/
theorem ordersFrom_induction (since : Timestamp) {motive : Nat → List Order → Prop}
    (step : ∀ offset done, (∀ page : Page Members, HasMore offset page →
      motive (offset + page.results.length)
        (done ++ ordersSince since.unixSeconds page.results)) → motive offset done)
    (offset : Nat) (done : List Order) : motive offset done := by
  induction offset, done using ordersFrom.induct since with
  | case1 offset done ih =>
    exact step offset done fun page hmore =>
      ih page (not_lt.2 hmore.full) (not_lt.2 hmore.within)

end Session

end ShopSync.Etsy
