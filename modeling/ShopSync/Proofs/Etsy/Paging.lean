import Mathlib.Data.Rat.Floor
import Mathlib.Tactic
import ShopSync.Proofs.Etsy.Import
import ShopSync.Proofs.Etsy.PageLoop
import ShopSync.Proofs.Http.Course

/-!
Reading receipts from any server.

A server may answer every request for receipts as it likes: with pages of any size, with entries
that are no receipts, with a count that changes from page to page, or not at all.  `PageCourse`
lists what can come of it, page by page, and there is nothing else (`hasRun_ordersFrom_iff`).  A
page is followed by another one only when it is full and ends in front of the count that it gives,
and the next position is behind all that was read of it.  So the positions rise by a full page or
more each time, no request is made twice, and the counts bound how many there are
(`ordersFrom_progresses`).
-/

namespace ShopSync.Etsy

open Http (Exchange Failure Response)
open Http.Client (GetFails)
open Json.Loose (Members)

/-! ### Pages that were read -/

/-- The reply has a page: it is a success with a text that can be read as one. -/
def IsPage (reply : Except Failure Response) (page : Page Members) : Prop :=
  ∃ response payload, reply = .ok response ∧ response.Carries payload ∧
    Json.Decoder.decode? (Page.decoder fun ms => ms) payload = some page

/-- A position that was asked for, and the reply. -/
structure PageRead where
  offset : Nat
  reply : Except Failure Response

namespace PageRead

/-- The exchange of a session in which a position was asked for. -/
def exchange (session : Session) (second : Int) (read : PageRead) : Exchange where
  request := session.receiptsRequest second read.offset
  outcome := read.reply

/-- The reply has a full page, and the next position is behind what was read of it. -/
def LeadsTo (read next : PageRead) : Prop :=
  ∃ page, IsPage read.reply page ∧ 100 ≤ page.results.length ∧
    next.offset = read.offset + page.results.length

/-- If the reply has a page, it gives a count, and one that is not larger. -/
def CountsAtMost (bound : Int) (read : PageRead) : Prop :=
  ∀ page, IsPage read.reply page → ∃ count ∈ page.count, count ≤ bound

theorem LeadsTo.le {read next : PageRead} (h : read.LeadsTo next) :
    read.offset + 100 ≤ next.offset := by
  obtain ⟨page, -, hfull, hnext⟩ := h
  omega

end PageRead

/-- What can come of a reading from a position on, when some orders were read before: the positions
that are asked for with the replies, in order, and the outcome. -/
inductive PageCourse (session : Session) (since : Timestamp) (signal : Signal) :
    Nat → List Order → List PageRead → Except MarketError (List Order) → Prop
  | fails {offset : Nat} {done : List Order} {reply : Except Failure Response} {e : MarketError}
      (hreply : GetFails (session.receiptsUrl since.unixSeconds offset)
        (Page.decoder fun ms => ms) reply e) :
      PageCourse session since signal offset done [{ offset, reply }] (.error e)
  | last {offset : Nat} {done : List Order} {reply : Except Failure Response}
      {page : Page Members} (hpage : IsPage reply page) (hlast : ¬HasMore offset page) :
      PageCourse session since signal offset done [{ offset, reply }]
        (.ok (done ++ ordersSince since.unixSeconds page.results))
  | stopped {offset : Nat} {done : List Order} {reply : Except Failure Response}
      {page : Page Members} {now : Moment} (hpage : IsPage reply page)
      (hmore : HasMore offset page) (hstopped : signal.isStopped now = true) :
      PageCourse session since signal offset done [{ offset, reply }]
        (.ok (done ++ ordersSince since.unixSeconds page.results))
  | goesOn {offset : Nat} {done : List Order} {reply : Except Failure Response}
      {page : Page Members} {now : Moment} {rest : List PageRead}
      {outcome : Except MarketError (List Order)} (hpage : IsPage reply page)
      (hmore : HasMore offset page) (hnow : signal.isStopped now = false)
      (hrest : PageCourse session since signal (offset + page.results.length)
        (done ++ ordersSince since.unixSeconds page.results) rest outcome) :
      PageCourse session since signal offset done ({ offset, reply } :: rest) outcome

/-! ### The loop -/

section Loop

variable {session : Session} {since : Timestamp} {signal : Signal} {offset : Nat}
variable {done : List Order} {outcome : Except MarketError (List Order)} {es : List Exchange}

theorem settleGet_eq_ok_iff_isPage {url : String} {reply : Except Failure Response}
    {page : Page Members} :
    Http.Client.settleGet url (Page.decoder fun ms => ms) reply = .ok page ↔ IsPage reply page :=
  Http.Client.settleGet_eq_ok_iff

/-- Behind a page that has more behind it the signal decides whether the rest follows. -/
theorem hasRun_signal_iff {orders : List Order} {rest : Attempt (List Order)} :
    Attempt.HasRun
        (do
          let now ← Dialogue.moment
          if signal.isStopped now then pure orders else rest) es outcome ↔
      (∃ now, signal.isStopped now = true ∧ es = [] ∧ outcome = .ok orders) ∨
        ∃ now, signal.isStopped now = false ∧ rest.HasRun es outcome := by
  rw [Attempt.hasRun_moment_bind_iff, ← exists_or]
  refine exists_congr fun now => ?_
  cases signal.isStopped now with
  | true => simpa using Attempt.hasRun_pure_iff
  | false => simp

/-- **What can come of a reading** is what a course says, whoever answers. -/
theorem hasRun_ordersFrom_iff :
    (session.ordersFrom since signal offset done).HasRun es outcome ↔
      ∃ reads, es = reads.map (PageRead.exchange session since.unixSeconds) ∧
        PageCourse session since signal offset done reads outcome := by
  induction offset, done using Session.ordersFrom_induction since generalizing es outcome with
  | step offset done ih =>
    rw [Session.ordersFrom_eq, (Http.Client.sendsOne_get _ _ _).hasRun_bind_iff]
    simp only [settleGet_eq_ok_iff_isPage, Http.Client.settleGet_eq_error_iff]
    constructor
    · rintro ⟨reply, ⟨e, hfails, rfl, rfl⟩ | ⟨page, es', hpage, rfl, hrun⟩⟩
      · exact ⟨[{ offset, reply }], rfl, .fails hfails⟩
      split at hrun
      next hmore =>
        rcases hasRun_signal_iff.1 hrun with ⟨now, hstopped, rfl, rfl⟩ | ⟨now, hnow, hrest⟩
        · exact ⟨[{ offset, reply }], rfl, .stopped hpage hmore hstopped⟩
        · obtain ⟨rest, rfl, hcourse⟩ := (ih page hmore).1 hrest
          exact ⟨{ offset, reply } :: rest, rfl, .goesOn hpage hmore hnow hcourse⟩
      next hlast =>
        obtain ⟨rfl, rfl⟩ := Attempt.hasRun_pure_iff.1 hrun
        exact ⟨[{ offset, reply }], rfl, .last hpage hlast⟩
    · rintro ⟨_, rfl, hcourse⟩
      cases hcourse with
      | @fails _ _ reply e hfails => exact ⟨reply, .inl ⟨e, hfails, rfl, rfl⟩⟩
      | @last _ _ reply page hpage hlast =>
        refine ⟨reply, .inr ⟨page, [], hpage, rfl, ?_⟩⟩
        rw [if_neg hlast]
        exact Attempt.hasRun_pure_iff.2 ⟨rfl, rfl⟩
      | @stopped _ _ reply page now hpage hmore hstopped =>
        refine ⟨reply, .inr ⟨page, [], hpage, rfl, ?_⟩⟩
        rw [if_pos hmore]
        exact hasRun_signal_iff.2 (.inl ⟨now, hstopped, rfl, rfl⟩)
      | @goesOn _ _ reply page now rest _ hpage hmore hnow hrest =>
        refine ⟨reply, .inr ⟨page, _, hpage, rfl, ?_⟩⟩
        rw [if_pos hmore]
        exact hasRun_signal_iff.2 (.inr ⟨now, hnow, (ih page hmore).2 ⟨rest, rfl, hrest⟩⟩)

end Loop

/-! ### Progress -/

namespace PageCourse

variable {session : Session} {since : Timestamp} {signal : Signal} {offset : Nat}
variable {done : List Order} {reads : List PageRead} {outcome : Except MarketError (List Order)}

theorem exists_eq_cons (h : PageCourse session since signal offset done reads outcome) :
    ∃ reply rest, reads = { offset, reply } :: rest := by
  cases h with
  | fails => exact ⟨_, _, rfl⟩
  | last => exact ⟨_, _, rfl⟩
  | stopped => exact ⟨_, _, rfl⟩
  | goesOn => exact ⟨_, _, rfl⟩

/-- Every position but the first is where a full page before it has led to. -/
theorem isChain_leadsTo (h : PageCourse session since signal offset done reads outcome) :
    reads.IsChain PageRead.LeadsTo := by
  induction h with
  | fails => exact List.isChain_singleton _
  | last => exact List.isChain_singleton _
  | stopped => exact List.isChain_singleton _
  | goesOn hpage hmore hnow hrest ih =>
    obtain ⟨reply, rest, rfl⟩ := hrest.exists_eq_cons
    exact List.isChain_cons_cons.2 ⟨⟨_, hpage, hmore.full, rfl⟩, ih⟩

/-- The positions rise by a full page or more each time, and none is behind the last one. -/
theorem offset_add_le_lastOffset (h : PageCourse session since signal offset done reads outcome)
    (hoffset : offset ≤ lastOffset) : offset + 100 * (reads.length - 1) ≤ lastOffset := by
  induction h with
  | fails => simpa using hoffset
  | last => simpa using hoffset
  | stopped => simpa using hoffset
  | goesOn hpage hmore hnow hrest ih =>
    have hrest' := ih hmore.within
    have hfull := hmore.full
    obtain ⟨reply, rest, rfl⟩ := hrest.exists_eq_cons
    simp only [pageSize, List.length_cons, Nat.add_sub_cancel] at *
    omega

theorem offset_add_lt {bound : Int}
    (h : PageCourse session since signal offset done reads outcome)
    (hcounts : ∀ read ∈ reads, read.CountsAtMost bound) (htwo : 1 < reads.length) :
    (offset : Int) + 100 * ((reads.length : Int) - 1) < bound := by
  induction h with
  | fails => exact absurd htwo (lt_irrefl 1)
  | last => exact absurd htwo (lt_irrefl 1)
  | stopped => exact absurd htwo (lt_irrefl 1)
  | goesOn hpage hmore hnow hrest ih =>
    obtain ⟨count, hcount, hbound⟩ := hcounts _ List.mem_cons_self _ hpage
    have hbefore := hmore.uncounted count hcount
    have hfull := hmore.full
    have ih := ih fun read hread => hcounts read (List.mem_cons_of_mem _ hread)
    obtain ⟨reply, rest, rfl⟩ := hrest.exists_eq_cons
    simp only [pageSize, List.length_cons] at *
    push_cast at *
    rcases Nat.eq_zero_or_pos rest.length with hnone | hsome
    · omega
    · have := ih (by omega)
      omega

/-- So many positions below a bound need so many pages, the last of which may be begun only. -/
theorem length_le_of_counts {bound : Int}
    (h : PageCourse session since signal 0 done reads outcome)
    (hcounts : ∀ read ∈ reads, read.CountsAtMost bound) :
    (reads.length : Int) ≤ max 1 ⌈(bound : ℚ) / 100⌉ := by
  by_cases hmore : 1 < reads.length
  · have hlt : 100 * ((reads.length : Int) - 1) < bound := by
      have := h.offset_add_lt hcounts hmore
      omega
    refine le_max_of_le_right (Int.le_ceil_iff.2 ?_)
    rw [lt_div_iff₀ (by norm_num), mul_comm]
    exact_mod_cast hlt
  · exact le_max_of_le_left (by omega)

end PageCourse

theorem Session.receiptsRequest_injective (session : Session) (second : Int) :
    Function.Injective (session.receiptsRequest second) := by
  intro offset offset' h
  have hurl := congrArg Http.Request.url h
  rw [receiptsRequest, receiptsRequest, Http.Client.url_request, Http.Client.url_request,
    receiptsUrl_eq, receiptsUrl_eq] at hurl
  cases session.urlOf_injective hurl
  rfl

/-- **A reading ends and repeats nothing**, whoever answers.  Every position that is asked for, but
the first, is one to which a full page has led, so the positions rise by a hundred or more each
time, and no request is made twice.  There are no more of them than full pages in front of the last
position, and where every page gives a count that is not larger than a bound, no more than pages for
so many receipts, but always one. -/
theorem Session.ordersFrom_progresses {σ : Type} (world : World σ) (session : Session)
    (since : Timestamp) (signal : Signal) (s : σ) :
    ∃ reads : List PageRead,
      exchangesIn ((session.ordersFrom since signal 0 []).run.transcript world s) =
        reads.map (PageRead.exchange session since.unixSeconds) ∧
      PageCourse session since signal 0 [] reads
        ((session.ordersFrom since signal 0 []).run.run world s).1 ∧
      reads.IsChain PageRead.LeadsTo ∧
      (reads.map PageRead.offset).Pairwise (· < ·) ∧
      (reads.map fun read => session.receiptsRequest since.unixSeconds read.offset).Nodup ∧
      reads.length ≤ lastOffset / 100 + 1 ∧
      ∀ bound : Int, (∀ read ∈ reads, read.CountsAtMost bound) →
        (reads.length : Int) ≤ max 1 ⌈(bound : ℚ) / 100⌉ := by
  have hrun : (session.ordersFrom since signal 0 []).HasRun _ _ := ⟨σ, world, s, rfl, rfl⟩
  obtain ⟨reads, hexchanges, hcourse⟩ := hasRun_ordersFrom_iff.1 hrun
  have hchain := hcourse.isChain_leadsTo
  have hrising : (reads.map PageRead.offset).Pairwise (· < ·) := by
    refine List.isChain_iff_pairwise.1 ((List.isChain_map PageRead.offset).2 ?_)
    refine hchain.imp fun read next hleads => ?_
    have := hleads.le
    omega
  refine ⟨reads, hexchanges, hcourse, hchain, hrising, ?_, ?_,
    fun bound hcounts => hcourse.length_le_of_counts hcounts⟩
  · have hoffsets := (hrising.imp ne_of_lt).map _
      fun _ _ hne => (session.receiptsRequest_injective since.unixSeconds).ne hne
    rwa [List.map_map] at hoffsets
  · have hlast := hcourse.offset_add_le_lastOffset (Nat.zero_le _)
    omega

/-! ### Servers that count -/

/-- A server of receipts counts all of them on every page. -/
theorem ReceiptPages.count_of_isPage {entries : List Json.Value} (pages : ReceiptPages entries)
    (hcount : entries.length ≤ lastOffset) {root : String} {request : Http.Request} {u : Unit}
    {page : Page Members} (h : IsPage (pages.server root request u).1 page) :
    page.count = some (entries.length : Int) := by
  obtain ⟨response, payload, hreply, ⟨hlt, -, -, hbody⟩, hdecode⟩ := h
  unfold server at hreply
  split at hreply
  · split at hreply
    · cases hreply
      subst hbody
      rw [Http.Response.ok, Page.decode?_of_spells _ (pages.spells _), Option.some_inj] at hdecode
      rw [← hdecode, Option.bind_some, integerOf_ofNat hcount]
    · cases hreply
      exact absurd hlt (by decide)
  · cases hreply
    exact absurd hlt (by decide)

theorem map_request_exchangesIn (t : List Answered) :
    (exchangesIn t).map Exchange.request = requestsOf (t.map Answered.query) := by
  rw [exchangesIn, requestsOf, List.map_filterMap, List.filterMap_map]
  refine List.filterMap_congr fun answered _ => ?_
  obtain ⟨query, answer⟩ := answered
  cases query <;> rfl

/-- From a shop that has sold two hundred and fifty times three pages are read, which is as many as
its count allows. -/
theorem Session.ordersFrom_progresses_samplePages :
    let session := Session.ofConfig sampleConfig
    let world := (samplePages.server session.shopRoot).world (still fun _ => [])
    let reading := (session.ordersFrom .epoch { token := 0 } 0 []).run
    ∃ reads : List PageRead,
      exchangesIn (reading.transcript world { state := (), past := [] }) =
        reads.map (PageRead.exchange session 0) ∧
      (∀ read ∈ reads, read.CountsAtMost 250) ∧
      reads.map PageRead.offset = [0, 100, 200] ∧
      (reads.length : Int) = max 1 ⌈((250 : Int) : ℚ) / 100⌉ := by
  intro session world reading
  have hsize : (sampleReceipts.map Json.Value.object).length = 250 := by
    rw [List.length_map, length_sampleReceipts]
  have hcount : (sampleReceipts.map Json.Value.object).length ≤ lastOffset := by
    rw [hsize]
    decide
  obtain ⟨reads, hexchanges, -, -, -, -, -, hbound⟩ :=
    session.ordersFrom_progresses world .epoch { token := 0 } { state := (), past := [] }
  -- every answer that has a page counts all receipts
  have hcounts : ∀ read ∈ reads, read.CountsAtMost 250 := by
    have hanswers : ∀ answered ∈ reading.transcript world { state := (), past := [] },
        ∀ e ∈ answered.exchange?, ∀ page, IsPage e.outcome page →
          page.count = some (250 : Int) := by
      refine Dialogue.forall_mem_transcript (fun query visit => ?_) reading _
      cases query with
      | exchange request =>
        rintro e ⟨⟩ page hpage
        have hfound := samplePages.count_of_isPage hcount (u := visit.state) hpage
        rw [hfound, hsize]
        rfl
      | _ => rintro e ⟨⟩
    intro read hread page hpage
    have hmem : read.exchange session 0 ∈
        exchangesIn (reading.transcript world { state := (), past := [] }) := by
      rw [hexchanges]
      exact List.mem_map_of_mem hread
    obtain ⟨answered, hanswered, hexchange⟩ := List.mem_filterMap.1 hmem
    exact ⟨250, hanswers answered hanswered _ hexchange page hpage, le_refl _⟩
  have hgoes : ∀ k < 2, GoesOn (sampleReceipts.map .object) (fun _ => false) (0 + k) := by
    intro k hk
    refine (goesOn_objects_iff _ _).2 ⟨?_, rfl⟩
    rw [length_sampleReceipts]
    omega
  have hlast : ¬GoesOn (sampleReceipts.map .object) (fun _ => false) (0 + 2) := by
    rw [goesOn_objects_iff, length_sampleReceipts]
    rintro ⟨hmore, -⟩
    omega
  obtain ⟨past, hrun, hrequests⟩ := runIn_ordersFrom session samplePages .epoch hcount
    (firesBy_still 0 fun _ => false) 2 0 { state := (), past := [] } [] rfl hgoes hlast
  have hoffsets : reads.map PageRead.offset = [0, 100, 200] := by
    have hpast : past = reading.queries world { state := (), past := [] } := by
      have hasked := Server.past_run (samplePages.server session.shopRoot) (still fun _ => [])
        reading { state := (), past := [] }
      rw [List.nil_append] at hasked
      rw [← hasked]
      exact (congrArg (fun found => found.2.past) hrun).symm
    have hsent := congrArg (List.map Exchange.request) hexchanges
    rw [map_request_exchangesIn, Dialogue.map_query_transcript, ← hpast, hrequests,
      List.map_map] at hsent
    refine List.map_injective_iff.2 (session.receiptsRequest_injective 0) ?_
    rw [List.map_map]
    exact hsent.symm
  have hallowed : max 1 ⌈((250 : Int) : ℚ) / 100⌉ = 3 := by norm_num
  refine ⟨reads, hexchanges, hcounts, hoffsets, le_antisymm (hbound 250 hcounts) ?_⟩
  rw [hallowed, ← List.length_map PageRead.offset, hoffsets]
  rfl

end ShopSync.Etsy
