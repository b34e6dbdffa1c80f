import Mathlib.Tactic
import ShopSync.Proofs.Dialogue
import ShopSync.Proofs.Etsy.Offer
import ShopSync.Proofs.Etsy.PageLoop
import ShopSync.Proofs.Sync.Acceptance

/-!
The orders of an import.

Whatever the shop answers, the orders that an import makes of it are sound and their line totals are
finite: amounts and divisors are words, quantities are shorter words, and a receipt whose time
cannot be written counts as too old.  There are no more orders than a word can count.
-/

namespace ShopSync

open Number (Binary64 int64Limit)
open Json (Decoder Value)

/-! ### Loose fields -/

namespace Json.Loose

/-- The values of the members are sound. -/
def Sound (size : Nat) (ms : Members) : Prop := ∀ m ∈ ms, m.2.toTree.Sound size

variable {size : Nat} {ms : Members} {key : String}

theorem sound_of_object {ms : Members} (h : (Value.object ms).toTree.Sound size) :
    Sound size ms := by
  rw [Value.toTree, Tree.Sound, soundMembers_iff, Value.memberTreesOf_eq, List.forall_mem_map] at h
  exact h

theorem Sound.get? (h : Sound size ms) {v : Value} (hv : Keyed.get? key ms = some v) :
    v.toTree.Sound size :=
  h _ (Keyed.mem_of_get? hv)

theorem Sound.object (h : Sound size ms) {ms' : Members} (hms : object ms key = some ms') :
    Sound size ms' := by
  obtain ⟨v, hv, hobject⟩ := Option.bind_eq_some_iff.1 hms
  have hsound := h.get? hv
  cases v with
  | object ms'' =>
    cases hobject
    exact sound_of_object hsound
  | _ => cases hobject

theorem Sound.objects (h : Sound size ms) :
    (Loose.objects ms key).length ≤ size ∧ ∀ ms' ∈ Loose.objects ms key, Sound size ms' := by
  unfold Loose.objects
  cases hv : Keyed.get? key ms with
  | none => exact ⟨Nat.zero_le size, List.forall_mem_nil _⟩
  | some v =>
    have hsound := h.get? hv
    cases v with
    | array vs =>
      rw [Value.toTree, Tree.Sound, soundElements_iff, Value.treesOf_eq, List.forall_mem_map,
        List.length_map] at hsound
      refine ⟨(List.length_filterMap_le objectOf vs).trans hsound.1, ?_⟩
      intro ms' hms'
      obtain ⟨v, hmem, hobject⟩ := List.mem_filterMap.1 hms'
      have hvalue := hsound.2 v hmem
      cases v with
      | object ms'' =>
        cases hobject
        exact sound_of_object hvalue
      | _ => cases hobject
    | _ => exact ⟨Nat.zero_le size, List.forall_mem_nil _⟩

theorem Sound.integer (h : Sound size ms) {n : Int} (hn : integer ms key = some n) :
    -int64Limit ≤ n ∧ n < int64Limit := by
  obtain ⟨v, hv, hinteger⟩ := Option.bind_eq_some_iff.1 hn
  have hsound := h.get? hv
  cases v with
  | number x =>
    cases x with
    | integer m =>
      unfold integerOf at hinteger
      dsimp only at hinteger
      split at hinteger
      next hhigh =>
        cases hinteger
        have hword : IsWord n := hsound
        exact ⟨hword.1, hhigh⟩
      next =>
        cases hinteger
        exact ShopSync.Number.int64_truncInt64 _
    | real x =>
      cases hinteger
      exact ShopSync.Number.int64_truncInt64 x
  | string s => exact ShopSync.Number.int64_of_int64? hinteger
  | _ => cases hinteger

end Json.Loose

namespace Etsy

open Json.Loose (Members)

variable {size : Nat} {ms : Members}

/-! ### Receipts -/

theorem atMost_decimalOf {amount divisor : Int} (h : amount.natAbs ≤ 2 ^ 63)
    (h' : divisor.natAbs ≤ 2 ^ 63) : (Money.decimalOf amount divisor).AtMost 63 := by
  unfold Money.decimalOf
  split
  · exact Binary64.atMost_zero 63
  next hne =>
    have hlimit : divisor.natAbs * Binary64.unitsPerOne < Binary64.overflow :=
      (Nat.mul_le_mul_right _ h').trans_lt (Binary64.pow_mul_unitsPerOne_lt (by decide))
    exact (Binary64.atMost_ofInt (by decide) h).div
      (Binary64.atLeastOne_ofUnits _ (Int.natAbs_pos.2 hne) hlimit) (by decide)

theorem atMost_amountIn (h : Json.Loose.Sound size ms) (key : String) :
    (amountIn ms key).AtMost 63 := by
  unfold amountIn
  cases hobject : Json.Loose.object ms key with
  | none => exact Binary64.atMost_zero 63
  | some ms' =>
    have hsound := h.object hobject
    have hword (key : String) : ((Json.Loose.integer ms' key).getD 0).natAbs ≤ 2 ^ 63 := by
      cases hinteger : Json.Loose.integer ms' key with
      | none => decide
      | some n =>
        have hbounds := hsound.integer hinteger
        simp only [int64Limit] at hbounds
        rw [Option.getD_some]
        omega
    exact atMost_decimalOf (hword "amount") (hword "divisor")

theorem isFinite_itemOf (h : Json.Loose.Sound size ms) :
    (itemOf ms).price.isFinite = true ∧ (itemOf ms).total.isFinite = true := by
  have hprice : (itemOf ms).price.AtMost 63 := atMost_amountIn h "price"
  have hquantity : (Binary64.ofNat (itemOf ms).quantity.toNat).AtMost 32 :=
    Binary64.atMost_ofNat (by decide) (itemOf ms).quantity.toNat_lt.le
  exact ⟨hprice.isFinite, (hprice.mul hquantity (by decide)).isFinite⟩

/-- The order of a receipt that is not known to be older than a time that can be written is sound,
and its line totals are finite. -/
theorem isSound_orderOf {since : Timestamp} (hsince : since.HasForm)
    (h : Json.Loose.Sound size ms) (hage : isOlderThan since.unixSeconds ms = false) :
    (orderOf ms).IsSound ∧ (orderOf ms).HasTotals := by
  have hitems : ∀ item ∈ (orderOf ms).items,
      item.price.isFinite = true ∧ item.total.isFinite = true := by
    intro item hitem
    obtain ⟨ms', hms', rfl⟩ := List.mem_map.1 hitem
    exact isFinite_itemOf (h.objects.2 ms' hms')
  have hcreated : (createdAt ms).HasForm := by
    unfold createdAt
    unfold isOlderThan at hage
    cases hsecond : createdSecond ms with
    | none => exact Timestamp.hasForm_of_nonneg (le_refl 0)
    | some seconds =>
      rw [hsecond] at hage
      dsimp only
      unfold Timestamp.ofUnixSeconds
      split
      next t ht =>
        split at ht
        next hrange =>
          cases ht
          have hlate : since.seconds ≤ seconds := by
            have hage : decide (seconds < since.seconds) = false := hage
            exact not_lt.1 (of_decide_eq_false hage)
          rw [Timestamp.hasForm_iff] at hsince ⊢
          exact hsince.trans hlate
        next => cases ht
      next => exact Timestamp.hasForm_of_nonneg (le_refl 0)
  exact ⟨⟨(atMost_amountIn h "grandtotal").isFinite, fun item hitem => (hitems item hitem).1,
    hcreated⟩, fun item hitem => (hitems item hitem).2⟩

/-- A page has sound entries, no more than its text has characters. -/
theorem yields_page : (Page.decoder fun ms => ms).Yields size fun page =>
    page.results.length ≤ size ∧ ∀ ms ∈ page.results, Json.Loose.Sound size ms := by
  apply Decoder.yields_record
  intro fs page hfs h
  obtain ⟨ms, hms, h⟩ := Option.bind_eq_some_iff.1 h
  cases h
  have hsound : Json.Loose.Sound size ms := by
    intro m hm
    obtain ⟨⟨name, t⟩, hmem, hvalue⟩ := (Decoder.length_of_mapM_eq_some hms).2 m hm
    obtain ⟨v, hv, rfl⟩ := Option.map_eq_some_iff.1 hvalue
    exact Json.Tree.sound_of_value? _ t (hfs _ hmem) hv
  rw [List.map_id']
  exact hsound.objects

end Etsy

/-! ### Answers -/

namespace Http

theorem Response.body_of_classify {response : Response} {payload : String}
    (h : response.classify = .ok (some payload)) : response.body = payload := by
  unfold classify at h
  repeat' split at h
  all_goals cases h
  rfl

namespace Client

variable {α : Type} {client : Client} {method : Method} {url : String} {t : List Answered}

theorem gives_exchange_bind {request : Request} {f : Except Failure Response → Attempt α} {a : α}
    (h : ((liftM (Dialogue.exchange request) : Attempt _) >>= f).run.Gives t (.ok a)) :
    ∃ (answer : Except Failure Response) (rest : List Answered),
      t = ⟨.exchange request, answer⟩ :: rest ∧ (f answer).run.Gives rest (.ok a) := by
  rw [Dialogue.run_liftM_bind] at h
  exact h

theorem gives_execute {body : Option Json.Value} {payload : String}
    (h : (client.execute method url body).run.Gives t (.ok (some payload))) :
    payload ∈ textsIn t := by
  unfold execute at h
  -- with a budget or without one the exchange is the same
  cases hpacer : client.pacer
  all_goals rw [hpacer] at h
  case' some pacer =>
    obtain ⟨paced, t, rfl, hexchange⟩ := h
    change payload ∈ textsIn t
    replace h := hexchange
  all_goals
    obtain ⟨answer, rest, rfl, hanswer⟩ := gives_exchange_bind h
    cases answer with
    | error failure =>
      obtain ⟨-, habsurd⟩ := Dialogue.gives_pure_iff.1 hanswer
      cases habsurd
    | ok response =>
      obtain ⟨-, hclassify⟩ := Dialogue.gives_pure_iff.1 hanswer
      rw [← Response.body_of_classify hclassify]
      exact List.mem_cons_self

theorem gives_get {d : Decoder α} {a : α} (h : (client.get url d).run.Gives t (.ok a)) :
    ∃ payload ∈ textsIn t, Decoder.decode? d payload = some a := by
  rcases Dialogue.gives_run_bind h with ⟨e, -, habsurd⟩ | ⟨found, t₁, t₂, rfl, hpayload, h⟩
  · cases habsurd
  cases found with
  | none =>
    obtain ⟨-, habsurd⟩ := Dialogue.gives_pure_iff.1 h
    cases habsurd
  | some payload =>
    obtain ⟨-, hdecoded⟩ := Dialogue.gives_pure_iff.1 h
    refine ⟨payload, ?_, ?_⟩
    · rw [textsIn_append]
      exact List.mem_append_left _ (gives_execute hpayload)
    · unfold decoded at hdecoded
      split at hdecoded
      next b hb =>
        cases hdecoded
        exact hb
      next => cases hdecoded

end Client

end Http

/-! ### Pages of orders -/

namespace Etsy

open Json.Loose (Members)

variable {signal : Signal} {since : Timestamp} {t : List Answered} {orders : List Order}

/-- A page in range gives sound orders with their totals, fewer than a signed word can count. -/
theorem ordersSince_of_get {client : Http.Client} {url : String} {page : Page Members}
    (hsince : since.HasForm) (hrange : InRange t)
    (h : (client.get url (Page.decoder fun ms => ms)).run.Gives t (.ok page)) :
    page.results.length < int64Limit ∧
      ∀ order ∈ ordersSince since.unixSeconds page.results, order.IsSound ∧ order.HasTotals := by
  obtain ⟨payload, hpayload, hdecode⟩ := Http.Client.gives_get h
  obtain ⟨hlength, hsound⟩ := yields_page.of_decode? hdecode
  have htext := hrange.texts payload hpayload
  refine ⟨by omega, ?_⟩
  intro order horder
  obtain ⟨ms, hms, rfl⟩ := List.mem_map.1 horder
  obtain ⟨hmem, hage⟩ := List.mem_filter.1 hms
  exact isSound_orderOf hsince (hsound ms hmem) (by simpa using hage)

/-- Page after page.  Positions count the orders that were read before, and none is past the
last. -/
theorem Session.gives_ordersFrom {session : Session} {offset : Nat} {done : List Order}
    (hsince : since.HasForm) (hrange : InRange t)
    (hdone : ∀ order ∈ done, order.IsSound ∧ order.HasTotals) (hlength : done.length ≤ offset)
    (hoffset : offset ≤ lastOffset)
    (h : (session.ordersFrom since signal offset done).run.Gives t (.ok orders)) :
    orders.length < UInt64.size ∧ ∀ order ∈ orders, order.IsSound ∧ order.HasTotals := by
  induction offset, done using ordersFrom_induction since generalizing t with
  | step offset done ih =>
    rw [ordersFrom_eq] at h
    rcases Dialogue.gives_run_bind h with ⟨e, -, habsurd⟩ | ⟨page, t₁, t₂, rfl, hpage, h⟩
    · cases habsurd
    obtain ⟨hrange₁, hrange₂⟩ := (inRange_append_iff t₁ t₂).1 hrange
    obtain ⟨hresults, hsince'⟩ := ordersSince_of_get hsince hrange₁ hpage
    have hnew : (ordersSince since.unixSeconds page.results).length ≤ page.results.length := by
      unfold ordersSince
      rw [List.length_map]
      exact List.length_filter_le _ _
    have hall : ∀ order ∈ done ++ ordersSince since.unixSeconds page.results,
        order.IsSound ∧ order.HasTotals :=
      List.forall_mem_append.2 ⟨hdone, hsince'⟩
    have hcount : (done ++ ordersSince since.unixSeconds page.results).length ≤
        offset + page.results.length := by
      rw [List.length_append]
      omega
    have hlast : (done ++ ordersSince since.unixSeconds page.results).length < UInt64.size := by
      simp only [int64Limit] at hresults
      simp only [lastOffset] at hoffset
      simp only [UInt64.size]
      omega
    -- wherever the pages end, the orders are those read so far
    have hends {t : List Answered} (h : (pure (done ++ ordersSince since.unixSeconds page.results) :
        Attempt (List Order)).run.Gives t (.ok orders)) :
        orders.length < UInt64.size ∧ ∀ order ∈ orders, order.IsSound ∧ order.HasTotals := by
      obtain ⟨-, heq⟩ := Dialogue.gives_pure_iff.1 h
      cases heq
      exact ⟨hlast, hall⟩
    dsimp only at h
    split at h
    next hmore =>
      rw [Dialogue.run_liftM_bind] at h
      obtain ⟨now, t₃, rfl, hnow⟩ := Dialogue.gives_moment_bind_iff.1 h
      split at hnow
      · exact hends hnow
      · have hrange₃ := ((inRange_moment_iff t₃ now).1 hrange₂).2
        exact ih page hmore hrange₃ hall hcount hmore.within hnow
    next => exact hends h

/-- **The orders of an import** from a time that can be written are sound and have their totals, and
a word can count them. -/
theorem Adapter.gives_importOrders {adapter : Adapter} (hsince : since.HasForm) (hrange : InRange t)
    (h : (adapter.importOrders since signal).run.Gives t (.ok orders)) :
    orders.length < UInt64.size ∧ ∀ order ∈ orders, order.IsSound ∧ order.HasTotals := by
  obtain ⟨session, himport⟩ := gives_withSession h
  rw [Dialogue.run_liftM_bind] at himport
  obtain ⟨now, rest, rfl, hpages⟩ := Dialogue.gives_moment_bind_iff.1 himport
  have hrest := ((inRange_moment_iff rest now).1 hrange).2
  split at hpages
  · obtain ⟨-, habsurd⟩ := Dialogue.gives_pure_iff.1 hpages
    cases habsurd
  · exact Session.gives_ordersFrom hsince hrest (List.forall_mem_nil _) (le_refl 0)
      (Nat.zero_le lastOffset) hpages

end Etsy

end ShopSync
