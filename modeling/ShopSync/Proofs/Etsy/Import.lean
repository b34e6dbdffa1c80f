import Mathlib.Tactic
import ShopSync.Proofs.Etsy.Receipts
import ShopSync.Proofs.Json.Loose
import ShopSync.Proofs.Number.Binary64

/-!
The import of orders.

Main statements.  Where every entry is an object, an import that is not stopped gives exactly the
orders of all receipts that are not older than the time asked for, with one request for every
hundred of them, and an import that is stopped between two pages gives the orders of the pages
before (`importOrders_objects`).  Where some entries are no objects, the page with the first of them
is the last one that is read, so nothing is lost exactly when every receipt behind that page is too
old anyway (`importOrders_eq_iff`).  How old a receipt is it says itself (`SaysSecond`), and one that
does not say counts as new.
-/

namespace ShopSync.Etsy

open Json (Value)
open Json.Loose (Members Shape integerOf objectOf)
open Number (Binary64 SpellsInteger int64Limit)

variable {adapter : Adapter} {session : Session} {entries : List Value}
variable {elsewhere : Elsewhere} {signal : Signal} {fired : Nat → Bool}

/-- An import that starts unstopped, in front of which nothing was sent, reads pages up to the first
one that is the last. -/
theorem runIn_importOrders_from (hsession : adapter.session = .ok session)
    (pages : ReceiptPages entries) (since : Timestamp) (hcount : entries.length ≤ lastOffset)
    (hfires : signal.FiresBy elsewhere fired) (hstart : fired 0 = false) {n : Nat}
    (hgoes : ∀ k < n, GoesOn entries fired k) (hlast : ¬GoesOn entries fired n) {v : Visit Unit}
    (hpast : requestsOf v.past = []) :
    ∃ past,
      Attempt.runIn ((pages.server session.shopRoot).world elsewhere)
          (adapter.importOrders since signal) v =
        (.ok (ordersSince since.unixSeconds ((entries.take (100 * (n + 1))).filterMap objectOf)),
          { state := (), past }) ∧
      requestsOf past = (List.range (n + 1)).map fun k =>
        session.receiptsRequest since.unixSeconds (100 * k) := by
  have hunstopped : signal.isStopped (elsewhere .moment v.past) = false := by
    rw [hfires v.past, hpast]
    exact hstart
  have hlooked : requestsOf (v.past ++ [.moment]) = [] := by
    rw [requestsOf_append, hpast, requestsOf_moment, List.append_nil]
  obtain ⟨past, hrun, hrequests⟩ := runIn_ordersFrom session pages since hcount hfires n 0
    { v with past := v.past ++ [.moment] } [] (by rw [hlooked]; rfl) (by simpa using hgoes)
    (by simpa using hlast)
  refine ⟨past, ?_, by simpa [hlooked] using hrequests⟩
  rw [Adapter.importOrders, Adapter.runIn_withSession hsession]
  refine (Attempt.runIn_moment_bind _ _).trans ?_
  rw [hunstopped]
  simpa using hrun

theorem runIn_importOrders (hsession : adapter.session = .ok session)
    (pages : ReceiptPages entries) (since : Timestamp) (hcount : entries.length ≤ lastOffset)
    (hfires : signal.FiresBy elsewhere fired) (hstart : fired 0 = false) {n : Nat}
    (hgoes : ∀ k < n, GoesOn entries fired k) (hlast : ¬GoesOn entries fired n) :
    ∃ past,
      Attempt.runIn ((pages.server session.shopRoot).world elsewhere)
          (adapter.importOrders since signal) { state := (), past := [] } =
        (.ok (ordersSince since.unixSeconds ((entries.take (100 * (n + 1))).filterMap objectOf)),
          { state := (), past }) ∧
      requestsOf past = (List.range (n + 1)).map fun k =>
        session.receiptsRequest since.unixSeconds (100 * k) :=
  runIn_importOrders_from hsession pages since hcount hfires hstart hgoes hlast rfl

/-! ### Whole numbers in receipts -/

/-- The whole number with a sign and a size. -/
def signed (negative : Bool) (size : Nat) : Int :=
  if negative then -(size : Int) else size

/-- The whole part of a number, when there is one. -/
def wholePart? : Json.Number → Option Int
  | .integer n => some n
  | .real (.finite negative i) =>
    some (signed negative (Binary64.units i / Binary64.unitsPerOne))
  | .real _ => none

/-- A signed whole number of 64 bits. -/
def IsInt64 (n : Int) : Prop := -int64Limit ≤ n ∧ n < int64Limit

theorem clampInt64_of_isInt64 {negative : Bool} {size : Nat} (h : IsInt64 (signed negative size)) :
    Binary64.clampInt64 negative size = signed negative size := by
  obtain ⟨hlow, hhigh⟩ := h
  unfold Binary64.clampInt64
  cases negative with
  | true => exact max_eq_right hlow
  | false => exact min_eq_right (Int.le_sub_one_of_lt hhigh)

theorem clampInt64_of_le {negative : Bool} {size : Nat}
    (h : int64Limit ≤ signed negative size) :
    Binary64.clampInt64 negative size = int64Limit - 1 := by
  cases negative with
  | true =>
    -- nothing with a minus sign is that large
    rw [signed, if_pos rfl, int64Limit] at h
    omega
  | false =>
    rw [Binary64.clampInt64, if_neg Bool.false_ne_true]
    exact min_eq_left ((Int.sub_le_self _ Int.one_nonneg).trans h)

theorem clampInt64_of_lt {negative : Bool} {size : Nat}
    (h : signed negative size < -int64Limit) :
    Binary64.clampInt64 negative size = -int64Limit := by
  cases negative with
  | true =>
    rw [Binary64.clampInt64, if_pos rfl]
    exact max_eq_left h.le
  | false =>
    rw [signed, if_neg Bool.false_ne_true, int64Limit] at h
    omega

theorem exists_finite_of_wholePart? {x : Binary64} {k : Int} (h : wholePart? (.real x) = some k) :
    ∃ negative i, x = .finite negative i ∧
      k = signed negative (Binary64.units i / Binary64.unitsPerOne) := by
  cases x with
  | nan => cases h
  | infinite negative => cases h
  | finite negative i => exact ⟨negative, i, rfl, (Option.some.inj h).symm⟩

/-- The whole part of a number is what is read of it, within the range. -/
theorem integerOf_of_wholePart? {n : Json.Number} {k : Int} (hwhole : wholePart? n = some k)
    (hword : IsInt64 k) : integerOf (.number n) = some k := by
  cases n with
  | integer n =>
    obtain rfl := Option.some.inj hwhole
    exact if_pos hword.2
  | real x =>
    obtain ⟨negative, i, rfl, rfl⟩ := exists_finite_of_wholePart? hwhole
    rw [integerOf, Binary64.truncInt64, clampInt64_of_isInt64 hword]

theorem integerOf_of_int64Limit_le {n : Json.Number} {k : Int} (hwhole : wholePart? n = some k)
    (hlarge : int64Limit ≤ k) : integerOf (.number n) = some (int64Limit - 1) := by
  cases n with
  | integer n =>
    obtain rfl := Option.some.inj hwhole
    rw [integerOf, if_neg (not_lt.2 hlarge), Binary64.truncInt64_ofInt_of_le hlarge]
  | real x =>
    obtain ⟨negative, i, rfl, rfl⟩ := exists_finite_of_wholePart? hwhole
    rw [integerOf, Binary64.truncInt64, clampInt64_of_le hlarge]

theorem integerOf_of_lt_neg_int64Limit {x : Binary64} {k : Int}
    (hwhole : wholePart? (.real x) = some k) (hsmall : k < -int64Limit) :
    integerOf (.number (.real x)) = some (-int64Limit) := by
  obtain ⟨negative, i, rfl, rfl⟩ := exists_finite_of_wholePart? hwhole
  rw [integerOf, Binary64.truncInt64, clampInt64_of_lt hsmall]

/-- The second that a field says: the whole part of a number, or the end of the signed range of 64
bits that it is past; a text says the number of that range that it spells without the blanks at its
ends; anything else says none. -/
inductive SaysSecond : Option Value → Option Int → Prop
  | number {n : Json.Number} {second : Int} (hwhole : wholePart? n = some second)
      (hword : IsInt64 second) : SaysSecond (some (.number n)) (some second)
  | large {n : Json.Number} {whole : Int} (hwhole : wholePart? n = some whole)
      (hlarge : int64Limit ≤ whole) : SaysSecond (some (.number n)) (some (int64Limit - 1))
  | small {x : Binary64} {whole : Int} (hwhole : wholePart? (.real x) = some whole)
      (hsmall : whole < -int64Limit) : SaysSecond (some (.number (.real x))) (some (-int64Limit))
  | text {s : String} {second : Int} (hspells : SpellsInteger (Text.trim s).toList second)
      (hword : IsInt64 second) : SaysSecond (some (.string s)) (some second)
  | nothing {field : Option Value} (hlacks : ∀ v, field = some v → ¬Shape.whole.Takes v) :
      SaysSecond field none

/-- When a receipt was created is what its field says. -/
theorem createdSecond_of_says {ms : Members} {second : Option Int}
    (h : SaysSecond (Keyed.get? "create_timestamp" ms) second) : createdSecond ms = second := by
  rw [createdSecond, Json.Loose.integer]
  generalize Keyed.get? "create_timestamp" ms = field at h
  cases h with
  | number hwhole hword => rw [Option.bind_some, integerOf_of_wholePart? hwhole hword]
  | large hwhole hlarge => rw [Option.bind_some, integerOf_of_int64Limit_le hwhole hlarge]
  | small hwhole hsmall => rw [Option.bind_some, integerOf_of_lt_neg_int64Limit hwhole hsmall]
  | text hspells hword =>
    rw [Option.bind_some, integerOf, Number.int64?_eq_some_iff.2 ⟨hspells, hword⟩]
  | nothing hlacks =>
    rw [Option.bind_eq_none_iff]
    exact fun v hv => Json.Loose.integerOf_eq_none_iff.2 (hlacks v hv)

/-! ### Shops of receipts -/

/-- A receipt whose time of creation is not known, or not before a second. -/
def isDue (second : Int) (ms : Members) : Bool :=
  (createdSecond ms).all fun created => decide (second ≤ created)

theorem ordersSince_eq (second : Int) (receipts : List Members) :
    ordersSince second receipts = (receipts.filter (isDue second)).map orderOf := by
  have hdue (ms : Members) : (!isOlderThan second ms) = isDue second ms := by
    unfold isOlderThan isDue
    cases createdSecond ms with
    | none => rfl
    | some created => exact decide_not.symm.trans (decide_eq_decide.2 Int.not_lt)
  simp only [ordersSince, hdue]

theorem filterMap_objectOf_map (receipts : List Members) :
    (receipts.map Value.object).filterMap objectOf = receipts := by
  rw [List.filterMap_map]
  exact List.filterMap_some

theorem goesOn_objects_iff (receipts : List Members) (i : Nat) :
    GoesOn (receipts.map .object) fired i ↔
      100 * (i + 1) < receipts.length ∧ fired (i + 1) = false := by
  constructor
  · intro h
    exact ⟨by simpa using h.more, h.unfired⟩
  · rintro ⟨hmore, hunfired⟩
    refine ⟨?_, by simpa using hmore, hunfired⟩
    intro v hv
    obtain ⟨ms, -, rfl⟩ := List.mem_map.1 (List.mem_of_mem_drop (List.mem_of_mem_take hv))
    rfl

/-- An import from a shop of receipts, of which there are no more than a count of 64 bits can say,
with a signal that never fires or that fires while a page is served behind which there are
others. -/
theorem importOrders_objects (hsession : adapter.session = .ok session) (receipts : List Members)
    (hcount : receipts.length ≤ lastOffset) (pages : ReceiptPages (receipts.map .object))
    (elsewhere : Elsewhere) (signal : Signal) (since : Timestamp) :
    (signal.FiresBy elsewhere (fun _ => false) →
      ∃ past,
        Attempt.runIn ((pages.server session.shopRoot).world elsewhere)
            (adapter.importOrders since signal) { state := (), past := [] } =
          (.ok ((receipts.filter (isDue since.unixSeconds)).map orderOf),
            { state := (), past }) ∧
        requestsOf past =
          (List.range (max 1 ((receipts.length + 99) / 100))).map fun k =>
            session.receiptsRequest since.unixSeconds (100 * k)) ∧
    ∀ j, 0 < j → 100 * j < receipts.length →
      signal.FiresBy elsewhere (fun requests => decide (j ≤ requests)) →
      ∃ past,
        Attempt.runIn ((pages.server session.shopRoot).world elsewhere)
            (adapter.importOrders since signal) { state := (), past := [] } =
          (.ok (((receipts.take (100 * j)).filter (isDue since.unixSeconds)).map orderOf),
            { state := (), past }) ∧
        requestsOf past = (List.range j).map fun k =>
          session.receiptsRequest since.unixSeconds (100 * k) := by
  have hcount' : (receipts.map Value.object).length ≤ lastOffset := by rwa [List.length_map]
  have hread (m : Nat) : ((receipts.map Value.object).take m).filterMap objectOf =
      receipts.take m := by
    rw [← List.map_take, filterMap_objectOf_map]
  constructor
  · intro hfires
    -- the last page is the one that the number of receipts, divided by a hundred, gives
    obtain ⟨n, hn⟩ : ∃ n, max 1 ((receipts.length + 99) / 100) = n + 1 :=
      ⟨max 1 ((receipts.length + 99) / 100) - 1, by omega⟩
    have hgoes : ∀ k < n, GoesOn (receipts.map .object) (fun _ => false) k := fun k hk =>
      (goesOn_objects_iff receipts k).2 ⟨by omega, rfl⟩
    have hlast : ¬GoesOn (receipts.map .object) (fun _ => false) n := by
      intro h
      have := ((goesOn_objects_iff receipts n).1 h).1
      omega
    obtain ⟨past, hrun, hrequests⟩ :=
      runIn_importOrders hsession pages since hcount' hfires rfl hgoes hlast
    refine ⟨past, ?_, ?_⟩
    · rw [hrun, hread, List.take_of_length_le (by omega), ordersSince_eq]
    · rw [hrequests, hn]
  · intro j hpos hmore hfires
    obtain ⟨n, rfl⟩ : ∃ n, j = n + 1 := ⟨j - 1, by omega⟩
    have hgoes : ∀ k < n, GoesOn (receipts.map .object) (fun r => decide (n + 1 ≤ r)) k :=
      fun k hk => (goesOn_objects_iff receipts k).2
        ⟨by omega, by rw [decide_eq_false_iff_not]; omega⟩
    have hlast : ¬GoesOn (receipts.map .object) (fun r => decide (n + 1 ≤ r)) n := by
      intro h
      have := ((goesOn_objects_iff receipts n).1 h).2
      rw [decide_eq_false_iff_not] at this
      omega
    obtain ⟨past, hrun, hrequests⟩ :=
      runIn_importOrders hsession pages since hcount' hfires (by simp) hgoes hlast
    refine ⟨past, ?_, hrequests⟩
    rw [hrun, hread, ordersSince_eq]

/-- A receipt with an id, created some seconds after the start of 1970. -/
def sampleReceipt (n : Nat) : Members :=
  [("receipt_id", .ofNat n), ("create_timestamp", .ofInt ((n : Int) - 5))]

theorem readable_sampleReceipt {n : Nat} (h : n < 1000) :
    (Value.object (sampleReceipt n)).Readable := by
  have hword : Json.IsWord ((n : Int) - 5) := by
    simp only [Json.IsWord, Number.int64Limit, UInt64.size]
    omega
  exact ⟨Json.Number.readsBack_ofNat (by simp only [UInt64.size]; omega),
    Json.Number.readsBack_integer hword, trivial⟩

theorem fits_sampleReceipt (n : Nat) :
    (Value.object (sampleReceipt n)).Fits (Json.depthLimit - 2) := by
  have hkeys : ["receipt_id", "create_timestamp"].Nodup := by decide
  exact ⟨hkeys, trivial, trivial, trivial⟩

/-- The receipts of a shop that has sold two hundred and fifty times. -/
def sampleReceipts : List Members := (List.range 250).map sampleReceipt

theorem length_sampleReceipts : sampleReceipts.length = 250 := by
  rw [sampleReceipts, List.length_map, List.length_range]

/-- Their pages, in compact form. -/
def samplePages : ReceiptPages (sampleReceipts.map .object) :=
  .rendered _ (by rw [List.length_map, length_sampleReceipts]; decide)
    (by
      intro v hv
      obtain ⟨n, hn, rfl⟩ : ∃ n < 250, Value.object (sampleReceipt n) = v := by
        simpa [sampleReceipts] using hv
      exact readable_sampleReceipt (by omega))
    (by
      intro v hv
      obtain ⟨n, -, rfl⟩ : ∃ n < 250, Value.object (sampleReceipt n) = v := by
        simpa [sampleReceipts] using hv
      exact fits_sampleReceipt n)

/-- All receipts are read with three requests, and those of the first page with one when the signal
fires meanwhile. -/
theorem importOrders_sampleReceipts :
    let session := Session.ofConfig sampleConfig
    let run (fired : Nat → Bool) :=
      Attempt.runIn ((samplePages.server session.shopRoot).world
          (still fun past => if fired (requestsOf past).length then [0] else []))
        (Adapter.importOrders { config := some sampleConfig } .epoch { token := 0 })
        { state := (), past := [] }
    Adapter.session { config := some sampleConfig } = .ok session ∧
      sampleReceipts.length ≤ lastOffset ∧
      (∃ past,
        run (fun _ => false) = (.ok ((sampleReceipts.filter (isDue 0)).map orderOf),
          { state := (), past }) ∧
        requestsOf past = [session.receiptsRequest 0 0, session.receiptsRequest 0 100,
          session.receiptsRequest 0 200]) ∧
      ∃ past,
        run (fun requests => decide (1 ≤ requests)) =
          (.ok (((sampleReceipts.take 100).filter (isDue 0)).map orderOf),
            { state := (), past }) ∧
        requestsOf past = [session.receiptsRequest 0 0] := by
  have hcount : sampleReceipts.length ≤ lastOffset := by
    rw [length_sampleReceipts]
    decide
  have hmore : 100 * 1 < sampleReceipts.length := by
    rw [length_sampleReceipts]
    decide
  have hall := (importOrders_objects session_sampleConfig sampleReceipts hcount samplePages
    _ _ .epoch).1 (firesBy_still 0 fun _ => false)
  have hpart := (importOrders_objects session_sampleConfig sampleReceipts hcount samplePages
    _ _ .epoch).2 1 Nat.one_pos hmore (firesBy_still 0 fun requests => decide (1 ≤ requests))
  rw [length_sampleReceipts] at hall
  exact ⟨session_sampleConfig, hcount, hall, hpart⟩

/-! ### Entries that are no objects -/

/-- The position of the first entry that is no object; behind all entries when there is none. -/
def firstStray (entries : List Value) : Nat :=
  entries.findIdx fun v => (objectOf v).isNone

/-- Where the page with the first entry that is no object ends. -/
def endOfStray (entries : List Value) : Nat :=
  100 * (firstStray entries / 100 + 1)

theorem isSome_of_mem_page {k : Nat} (h : 100 * (k + 1) ≤ firstStray entries) :
    ∀ v ∈ (entries.drop (100 * k)).take 100, (objectOf v).isSome := by
  intro v hv
  obtain ⟨j, hj, rfl⟩ := List.mem_iff_getElem.1 hv
  rw [List.length_take, List.length_drop] at hj
  have hbefore : 100 * k + j < entries.findIdx fun v => (objectOf v).isNone := by
    rw [firstStray] at h
    omega
  rw [List.getElem_take, List.getElem_drop]
  simpa using List.not_of_lt_findIdx hbefore

/-- The first entry that is no object stands on the page of its position. -/
theorem exists_mem_page_of_stray (h : firstStray entries < entries.length) :
    ∃ v ∈ (entries.drop (100 * (firstStray entries / 100))).take 100,
      ¬(objectOf v).isSome := by
  have hstray : (objectOf entries[firstStray entries]).isNone = true :=
    List.findIdx_getElem (p := fun v => (objectOf v).isNone) (w := h)
  refine ⟨entries[firstStray entries], ?_, by simpa using hstray⟩
  refine List.mem_iff_getElem.2 ⟨firstStray entries % 100, ?_, ?_⟩
  · rw [List.length_take, List.length_drop]
    omega
  · rw [List.getElem_take, List.getElem_drop]
    simp only [Nat.div_add_mod]

/-- With a signal that never fires, what is read ends with the page of the first entry that is no
object, or with the last entry. -/
theorem exists_lastPage (entries : List Value) :
    ∃ n, (∀ k < n, GoesOn entries (fun _ => false) k) ∧ ¬GoesOn entries (fun _ => false) n ∧
      entries.take (100 * (n + 1)) = entries.take (endOfStray entries) := by
  by_cases h : firstStray entries < entries.length
  · refine ⟨firstStray entries / 100, ?_, ?_, rfl⟩
    · intro k hk
      exact ⟨isSome_of_mem_page (by omega), by omega, rfl⟩
    · intro hgoes
      obtain ⟨v, hv, hnone⟩ := exists_mem_page_of_stray h
      exact hnone (hgoes.objects v hv)
  · refine ⟨(entries.length - 1) / 100, ?_, ?_, ?_⟩
    · intro k hk
      exact ⟨isSome_of_mem_page (by omega), by omega, rfl⟩
    · intro hgoes
      have := hgoes.more
      omega
    · rw [endOfStray, List.take_of_length_le (by omega), List.take_of_length_le (by omega)]

/-- An import from a shop of any entries, with a signal that never fires: the orders of the receipts
up to the page with the first entry that is no object.  These are all orders exactly when every
receipt behind that page is too old. -/
theorem importOrders_eq_iff (hsession : adapter.session = .ok session) (entries : List Value)
    (hcount : entries.length ≤ lastOffset) (pages : ReceiptPages entries) (elsewhere : Elsewhere)
    (signal : Signal) (hfires : signal.FiresBy elsewhere fun _ => false) (since : Timestamp) :
    ∃ orders past,
      Attempt.runIn ((pages.server session.shopRoot).world elsewhere)
          (adapter.importOrders since signal) { state := (), past := [] } =
        (.ok orders, { state := (), past }) ∧
      orders = (((entries.take (endOfStray entries)).filterMap objectOf).filter
        (isDue since.unixSeconds)).map orderOf ∧
      (orders = ((entries.filterMap objectOf).filter (isDue since.unixSeconds)).map orderOf ↔
        ∀ ms ∈ (entries.drop (endOfStray entries)).filterMap objectOf,
          isDue since.unixSeconds ms = false) := by
  obtain ⟨n, hgoes, hlast, hread⟩ := exists_lastPage entries
  obtain ⟨past, hrun, -⟩ :=
    runIn_importOrders hsession pages since hcount hfires rfl hgoes hlast
  rw [hread, ordersSince_eq] at hrun
  refine ⟨_, past, hrun, rfl, ?_⟩
  have hall : entries.filterMap objectOf =
      (entries.take (endOfStray entries)).filterMap objectOf ++
        (entries.drop (endOfStray entries)).filterMap objectOf := by
    rw [← List.filterMap_append, List.take_append_drop]
  rw [hall, List.filter_append, List.map_append, List.self_eq_append_right, List.map_eq_nil_iff,
    List.filter_eq_nil_iff]
  simp only [Bool.not_eq_true]

/-- Receipts among which there is one text. -/
def strayEntries (before behind : Nat) : List Value :=
  List.replicate before (.object (sampleReceipt 7)) ++
    .string "junk" :: List.replicate behind (.object (sampleReceipt 7))

theorem length_strayEntries (before behind : Nat) :
    (strayEntries before behind).length = before + behind + 1 := by
  simp [strayEntries, Nat.add_assoc]

theorem firstStray_strayEntries (before behind : Nat) :
    firstStray (strayEntries before behind) = before := by
  have hobject : (objectOf (.object (sampleReceipt 7))).isNone = false := rfl
  have htext : (objectOf (.string "junk")).isNone = true := rfl
  rw [firstStray, strayEntries]
  induction before with
  | zero => rw [List.replicate_zero, List.nil_append, List.findIdx_cons, htext, cond_true]
  | succ before ih =>
    rw [List.replicate_succ, List.cons_append, List.findIdx_cons, hobject, cond_false, ih]

theorem filterMap_strayEntries (before behind : Nat) :
    (strayEntries before behind).filterMap objectOf =
      List.replicate (before + behind) (sampleReceipt 7) := by
  have hobject : objectOf (.object (sampleReceipt 7)) = some (sampleReceipt 7) := rfl
  have htext : objectOf (.string "junk") = none := rfl
  rw [strayEntries, List.filterMap_append, List.filterMap_cons_none htext,
    List.filterMap_replicate_of_some hobject, List.filterMap_replicate_of_some hobject,
    List.replicate_append_replicate]

/-- Their pages, in compact form. -/
def strayPages (before behind : Nat) (h : before + behind < 1000) :
    ReceiptPages (strayEntries before behind) :=
  have hcases {v : Value} (hv : v ∈ strayEntries before behind) :
      v = .object (sampleReceipt 7) ∨ v = .string "junk" := by
    simp only [strayEntries, List.mem_append, List.mem_cons, List.mem_replicate] at hv
    rcases hv with ⟨-, rfl⟩ | rfl | ⟨-, rfl⟩
    · exact Or.inl rfl
    · exact Or.inr rfl
    · exact Or.inl rfl
  .rendered _ (by rw [length_strayEntries, UInt64.size]; omega)
    (by
      intro v hv
      rcases hcases hv with rfl | rfl
      · exact readable_sampleReceipt (by decide)
      · trivial)
    (by
      intro v hv
      rcases hcases hv with rfl | rfl
      · exact fits_sampleReceipt 7
      · trivial)

/-- A text behind a hundred and fifty receipts costs none of those that follow on its page. -/
theorem importOrders_stray_on_last_page :
    let session := Session.ofConfig sampleConfig
    Adapter.session { config := some sampleConfig } = .ok session ∧
      (strayEntries 150 20).length ≤ lastOffset ∧
      ∃ orders past,
        Attempt.runIn (((strayPages 150 20 (by decide)).server session.shopRoot).world
            (still fun _ => []))
          (Adapter.importOrders { config := some sampleConfig } .epoch { token := 0 })
          { state := (), past := [] } = (.ok orders, { state := (), past }) ∧
        orders = (((strayEntries 150 20).filterMap objectOf).filter (isDue 0)).map orderOf := by
  have hcount : (strayEntries 150 20).length ≤ lastOffset := by
    rw [length_strayEntries]
    decide
  have hend : (strayEntries 150 20).drop (endOfStray (strayEntries 150 20)) = [] := by
    rw [List.drop_eq_nil_iff, length_strayEntries, endOfStray, firstStray_strayEntries]
    decide
  obtain ⟨orders, past, hrun, -, hiff⟩ := importOrders_eq_iff session_sampleConfig _ hcount
    (strayPages 150 20 (by decide)) (still fun _ => []) { token := 0 }
    (firesBy_still 0 fun _ => false) .epoch
  refine ⟨session_sampleConfig, hcount, orders, past, hrun, hiff.2 ?_⟩
  rw [hend]
  intro ms hms
  cases hms

/-- A text in front of a hundred receipts costs the last of them: its page has only ninety-nine
receipts and is taken for the last one. -/
theorem importOrders_loses_receipt :
    ∃ orders past,
      Attempt.runIn (((strayPages 0 100 (by decide)).server
            (Session.ofConfig sampleConfig).shopRoot).world (still fun _ => []))
          (Adapter.importOrders { config := some sampleConfig } .epoch { token := 0 })
          { state := (), past := [] } = (.ok orders, { state := (), past }) ∧
        orders = List.replicate 99 (orderOf (sampleReceipt 7)) ∧
        (((strayEntries 0 100).filterMap objectOf).filter (isDue 0)).map orderOf =
          List.replicate 100 (orderOf (sampleReceipt 7)) := by
  have hlength := length_strayEntries 0 100
  have hdue : isDue 0 (sampleReceipt 7) = true := by decide
  have hlast : ¬GoesOn (strayEntries 0 100) (fun _ => false) 0 := by
    intro hgoes
    obtain ⟨v, hv, hnone⟩ := exists_mem_page_of_stray
      (show firstStray (strayEntries 0 100) < _ by rw [firstStray_strayEntries, hlength]; decide)
    rw [firstStray_strayEntries] at hv
    exact hnone (hgoes.objects v hv)
  obtain ⟨past, hrun, -⟩ := runIn_importOrders session_sampleConfig
    (strayPages 0 100 (by decide)) .epoch (by rw [hlength]; decide)
    (firesBy_still 0 fun _ => false) rfl (fun k hk => absurd hk (Nat.not_lt_zero k)) hlast
  have hread : ((strayEntries 0 100).take (100 * (0 + 1))).filterMap objectOf =
      List.replicate 99 (sampleReceipt 7) :=
    filterMap_strayEntries 0 99
  rw [hread, ordersSince_eq] at hrun
  refine ⟨_, past, hrun, ?_, ?_⟩
  · exact (congrArg _ (List.filter_replicate_of_pos hdue)).trans List.map_replicate
  · rw [filterMap_strayEntries, List.filter_replicate_of_pos hdue, List.map_replicate]

end ShopSync.Etsy
