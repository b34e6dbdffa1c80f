import Mathlib.Tactic
import ShopSync.Proofs.Etsy.Page
import ShopSync.Proofs.Etsy.PageLoop
import ShopSync.Proofs.Etsy.Session
import ShopSync.Proofs.Server

/-!
Reading receipts page by page.

The server holds entries and answers every request for receipts with the hundred of them from the
offset on and with the number of all entries.  A page is followed by another one exactly when
`GoesOn`: its entries are all objects, there are entries behind it, and the signal has not fired by
then.  The positions that are read are multiples of a hundred, so after `n` pages what was read are
the objects among the first `100 * n` entries.
-/

namespace ShopSync.Etsy

open Json (Tree Value)
open Json.Loose (Members objectOf)
open Number (digits)

/-! ### The server -/

/-- Texts for the pages of entries. -/
structure ReceiptPages (entries : List Value) where
  page : Nat → String
  spells (offset : Nat) :
    Page.Spells (page offset) (some entries.length) ((entries.drop offset).take 100)

namespace ReceiptPages

variable {entries : List Value}

/-- The offset that the parameters of a request give. -/
def offset? (parameters : List (String × String)) : Option Nat :=
  (Keyed.get? "offset" parameters).bind fun s => Number.natural? s.toList

/-- Answers the requests for receipts below a root. -/
def server (pages : ReceiptPages entries) (root : String) : Server Unit := fun request _ =>
  match request.method, Http.Target.below? root request.url with
  | .get, some { path := ["", "receipts"], parameters } =>
    match offset? parameters with
    | some offset => (.ok (.ok (pages.page offset)), ())
    | none => (.ok { status := 400, body := "offset expected" }, ())
  | _, _ => (.ok { status := 404, body := "unknown address" }, ())

/-- The pages in compact form. -/
def rendered (entries : List Value) (hcount : entries.length < UInt64.size)
    (hreadable : ∀ v ∈ entries, v.Readable)
    (hfits : ∀ v ∈ entries, v.Fits (Json.depthLimit - 2)) : ReceiptPages entries where
  page offset := (Page.written (some entries.length) ((entries.drop offset).take 100)).render
  spells offset := by
    have hmem : ∀ v ∈ (entries.drop offset).take 100, v ∈ entries := fun v hv =>
      List.mem_of_mem_drop (List.mem_of_mem_take hv)
    exact Page.spells_render (by simpa using hcount) (fun v hv => hreadable v (hmem v hv))
      fun v hv => hfits v (hmem v hv)

end ReceiptPages

namespace Session

variable (session : Session)

/-- The request for a page. -/
def receiptsRequest (second : Int) (offset : Nat) : Http.Request :=
  session.client.request .get (session.receiptsUrl second offset) none

theorem server_receiptsRequest {entries : List Value} (pages : ReceiptPages entries) (second : Int)
    (offset : Nat) (u : Unit) :
    pages.server session.shopRoot (session.receiptsRequest second offset) u =
      (.ok (.ok (pages.page offset)), ()) := by
  have htarget := session.target_receiptsUrl second offset
  have hoffset : Number.natural? (String.ofList (digits offset)).toList = some offset := by
    rw [String.toList_ofList, Number.natural?_digits]
  unfold ReceiptPages.server
  simp only [receiptsRequest, Http.Client.method_request, Http.Client.url_request, htarget,
    ReceiptPages.offset?, Keyed.get?, reduceIte,
    show ("min_created" = "offset") = False by simp, show ("limit" = "offset") = False by simp,
    Option.bind_some, hoffset]

end Session

/-! ### From page to page -/

theorem ordersSince_append (second : Int) (ms ms' : List Members) :
    ordersSince second (ms ++ ms') = ordersSince second ms ++ ordersSince second ms' := by
  rw [ordersSince, List.filter_append, List.map_append]
  rfl

/-- The objects on a page, counted from zero. -/
def receiptsOn (entries : List Value) (i : Nat) : List Members :=
  ((entries.drop (100 * i)).take 100).filterMap objectOf

/-- A page is followed by another one. -/
structure GoesOn (entries : List Value) (fired : Nat → Bool) (i : Nat) : Prop where
  objects : ∀ v ∈ (entries.drop (100 * i)).take 100, (objectOf v).isSome
  more : 100 * (i + 1) < entries.length
  unfired : fired (i + 1) = false

theorem length_receiptsOn_le (entries : List Value) (i : Nat) :
    (receiptsOn entries i).length ≤ 100 := by
  have hfilter := List.length_filterMap_le objectOf ((entries.drop (100 * i)).take 100)
  rw [List.length_take] at hfilter
  exact hfilter.trans (Nat.min_le_left _ _)

/-- A page has a hundred objects when it is full and holds nothing else. -/
theorem length_receiptsOn_eq_iff (entries : List Value) (i : Nat) :
    (receiptsOn entries i).length = 100 ↔
      (∀ v ∈ (entries.drop (100 * i)).take 100, (objectOf v).isSome) ∧
        100 * (i + 1) ≤ entries.length := by
  have hfilter := List.length_filterMap_le objectOf ((entries.drop (100 * i)).take 100)
  have hlength : ((entries.drop (100 * i)).take 100).length =
      min 100 (entries.length - 100 * i) := by
    rw [List.length_take, List.length_drop]
  rw [← List.filterMap_length_eq_length, ← receiptsOn]
  rw [← receiptsOn] at hfilter
  omega

section Loop

variable (session : Session) {entries : List Value} (pages : ReceiptPages entries)
variable {elsewhere : Elsewhere} {signal : Signal} {fired : Nat → Bool} (since : Timestamp)

theorem runIn_page (second : Int) (i : Nat) (v : Visit Unit) :
    Attempt.runIn ((pages.server session.shopRoot).world elsewhere)
        (session.client.get (session.receiptsUrl second (100 * i)) (Page.decoder fun ms => ms)) v =
      (.ok
        { count := Json.Loose.integerOf (.ofNat entries.length)
          results := receiptsOn entries i },
        { state := ()
          past := v.past ++ session.client.asked (session.receiptsRequest second (100 * i)) }) := by
  have hspells := pages.spells (100 * i)
  obtain ⟨ms, hparse, -⟩ := id hspells
  have hdecoded := Page.decode?_of_spells (fun ms => ms) hspells
  rw [List.map_id', Option.bind_some] at hdecoded
  exact Http.Client.runIn_get elsewhere
    (session.server_receiptsRequest pages second (100 * i) v.state) (classify_ok hparse) hdecoded

theorem integerOf_ofNat {n : Nat} (h : n ≤ lastOffset) :
    Json.Loose.integerOf (.ofNat n) = some (n : Int) := by
  have hlimit : (n : Int) < Number.int64Limit := by
    simp only [lastOffset] at h
    simp only [Number.int64Limit]
    omega
  rw [Value.ofNat, Json.Loose.integerOf, if_pos hlimit]

/-- Behind a page there is more when its entries are all objects and there are entries behind it. -/
theorem hasMore_page_iff (hcount : entries.length ≤ lastOffset) (i : Nat) :
    HasMore (100 * i)
        { count := Json.Loose.integerOf (.ofNat entries.length), results := receiptsOn entries i } ↔
      (∀ v ∈ (entries.drop (100 * i)).take 100, (objectOf v).isSome) ∧
        100 * (i + 1) < entries.length := by
  have hle := length_receiptsOn_le entries i
  rw [integerOf_ofNat hcount]
  constructor
  · rintro ⟨hfull, huncounted, -⟩
    have hlength : (receiptsOn entries i).length = 100 := le_antisymm hle hfull
    have hbefore := huncounted _ rfl
    simp only [hlength] at hbefore
    exact ⟨((length_receiptsOn_eq_iff entries i).1 hlength).1, by omega⟩
  · rintro ⟨hobjects, hmore⟩
    have hlength : (receiptsOn entries i).length = 100 :=
      (length_receiptsOn_eq_iff entries i).2 ⟨hobjects, Nat.le_of_lt hmore⟩
    refine ⟨hlength.ge, ?_, ?_⟩
    · rintro count ⟨⟩
      simp only [hlength]
      omega
    · simp only [hlength]
      omega

/-- After a page that is followed by another one the loop is a page further. -/
theorem runIn_ordersFrom_of_goesOn {i : Nat} {v : Visit Unit} (hcount : entries.length ≤ lastOffset)
    (hfires : signal.FiresBy elsewhere fired) (hpast : (requestsOf v.past).length = i)
    (hgoes : GoesOn entries fired i) (done : List Order) :
    Attempt.runIn ((pages.server session.shopRoot).world elsewhere)
        (session.ordersFrom since signal (100 * i) done) v =
      Attempt.runIn ((pages.server session.shopRoot).world elsewhere)
        (session.ordersFrom since signal (100 * (i + 1))
          (done ++ ordersSince since.unixSeconds (receiptsOn entries i)))
        { state := ()
          past := v.past ++ session.client.asked
            (session.receiptsRequest since.unixSeconds (100 * i)) ++ [.moment] } := by
  have hmore := (hasMore_page_iff hcount i).2 ⟨hgoes.objects, hgoes.more⟩
  have hnext : 100 * i + (receiptsOn entries i).length = 100 * (i + 1) := by
    have := (length_receiptsOn_eq_iff entries i).2 ⟨hgoes.objects, Nat.le_of_lt hgoes.more⟩
    omega
  have hstop (past : List Query) (hlen : (requestsOf past).length = i + 1) :
      signal.isStopped (elsewhere .moment past) = false := by
    rw [hfires past, hlen, hgoes.unfired]
  rw [Session.ordersFrom_eq,
    Attempt.runIn_bind_ok _ (runIn_page session pages since.unixSeconds i v)]
  dsimp only
  rw [if_pos hmore, hnext]
  refine (Attempt.runIn_moment_bind _ _).trans ?_
  rw [hstop _ (by simp [hpast])]
  rfl

theorem runIn_ordersFrom_of_not_goesOn {i : Nat} {v : Visit Unit}
    (hcount : entries.length ≤ lastOffset) (hfires : signal.FiresBy elsewhere fired)
    (hpast : (requestsOf v.past).length = i) (hlast : ¬GoesOn entries fired i)
    (done : List Order) :
    ∃ past,
      Attempt.runIn ((pages.server session.shopRoot).world elsewhere)
          (session.ordersFrom since signal (100 * i) done) v =
        (.ok (done ++ ordersSince since.unixSeconds (receiptsOn entries i)),
          { state := (), past }) ∧
      requestsOf past =
        requestsOf v.past ++ [session.receiptsRequest since.unixSeconds (100 * i)] := by
  have hread : requestsOf (v.past ++ session.client.asked
      (session.receiptsRequest since.unixSeconds (100 * i))) =
        requestsOf v.past ++ [session.receiptsRequest since.unixSeconds (100 * i)] := by
    rw [requestsOf_append, Http.Client.requestsOf_asked]
  rw [Session.ordersFrom_eq,
    Attempt.runIn_bind_ok _ (runIn_page session pages since.unixSeconds i v)]
  dsimp only
  split
  case isFalse => exact ⟨_, rfl, hread⟩
  case isTrue hmore =>
  obtain ⟨hobjects, hbehind⟩ := (hasMore_page_iff hcount i).1 hmore
  have hstopped : signal.isStopped (elsewhere .moment (v.past ++ session.client.asked
      (session.receiptsRequest since.unixSeconds (100 * i)))) = true := by
    rw [hfires, hread, List.length_append, hpast, List.length_singleton]
    by_contra hunfired
    exact hlast ⟨hobjects, hbehind, by simpa using hunfired⟩
  refine ⟨v.past ++ session.client.asked (session.receiptsRequest since.unixSeconds (100 * i))
    ++ [.moment], (Attempt.runIn_moment_bind _ _).trans ?_, ?_⟩
  · rw [if_pos hstopped]
    rfl
  · rw [requestsOf_append, hread, requestsOf_moment, List.append_nil]

/-! ### The whole loop -/

theorem receiptsOn_append (entries : List Value) (i n : Nat) :
    receiptsOn entries i ++ ((entries.drop (100 * (i + 1))).take (100 * n)).filterMap objectOf =
      ((entries.drop (100 * i)).take (100 * (n + 1))).filterMap objectOf := by
  have hdrop : entries.drop (100 * (i + 1)) = (entries.drop (100 * i)).drop 100 := by
    rw [List.drop_drop, Nat.mul_succ]
  rw [receiptsOn, hdrop, ← List.filterMap_append, ← List.take_add, Nat.mul_succ,
    Nat.add_comm 100]

/-- The loop reads pages up to the first one that is the last, and nothing of what they hold is
lost or repeated. -/
theorem runIn_ordersFrom (hcount : entries.length ≤ lastOffset)
    (hfires : signal.FiresBy elsewhere fired) (n i : Nat) (v : Visit Unit) (done : List Order)
    (hpast : (requestsOf v.past).length = i) (hgoes : ∀ k < n, GoesOn entries fired (i + k))
    (hlast : ¬GoesOn entries fired (i + n)) :
    ∃ past,
      Attempt.runIn ((pages.server session.shopRoot).world elsewhere)
          (session.ordersFrom since signal (100 * i) done) v =
        (.ok (done ++ ordersSince since.unixSeconds
            (((entries.drop (100 * i)).take (100 * (n + 1))).filterMap objectOf)),
          { state := (), past }) ∧
      requestsOf past =
        requestsOf v.past ++ (List.range (n + 1)).map fun k =>
          session.receiptsRequest since.unixSeconds (100 * (i + k)) := by
  induction n generalizing i v done with
  | zero =>
    obtain ⟨past, hrun, hrequests⟩ :=
      runIn_ordersFrom_of_not_goesOn session pages since hcount hfires hpast hlast done
    exact ⟨past, hrun, hrequests⟩
  | succ n ih =>
    have hfirst : GoesOn entries fired i := hgoes 0 (Nat.succ_pos n)
    rw [runIn_ordersFrom_of_goesOn session pages since hcount hfires hpast hfirst]
    obtain ⟨past, hrun, hrequests⟩ := ih (i + 1)
      { state := ()
        past := v.past ++ session.client.asked
          (session.receiptsRequest since.unixSeconds (100 * i)) ++ [.moment] }
      (done ++ ordersSince since.unixSeconds (receiptsOn entries i)) (by simp [hpast])
      (fun k hk => by
        have := hgoes (k + 1) (Nat.succ_lt_succ hk)
        rwa [← Nat.add_assoc, Nat.add_right_comm] at this)
      (by rwa [← Nat.add_assoc, Nat.add_right_comm] at hlast)
    refine ⟨past, ?_, ?_⟩
    · rw [hrun, ← receiptsOn_append entries i (n + 1), ordersSince_append, List.append_assoc]
    · have hrange : (List.range (n + 1 + 1)).map
            (fun k => session.receiptsRequest since.unixSeconds (100 * (i + k))) =
          session.receiptsRequest since.unixSeconds (100 * i) ::
            (List.range (n + 1)).map fun k =>
              session.receiptsRequest since.unixSeconds (100 * (i + 1 + k)) := by
        rw [List.range_succ_eq_map, List.map_cons, List.map_map, Nat.add_zero]
        refine congrArg _ (List.map_congr_left ?_)
        intro k _
        rw [Function.comp_apply, Nat.succ_eq_add_one, Nat.add_right_comm, Nat.add_assoc]
      rw [hrequests, hrange]
      simp

end Loop

end ShopSync.Etsy
