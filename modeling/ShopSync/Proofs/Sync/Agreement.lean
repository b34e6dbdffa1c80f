import ShopSync.Proofs.Etsy.Course
import ShopSync.Proofs.Etsy.Requests
import ShopSync.Proofs.Sync.Operation
import ShopSync.Sync.Outage

/-!
An update and an export of one product.

Both write the listing of a product, each in its own way: an update looks the listing up and builds
the fields then, an export builds them first and goes through a batch, where a product without a
listing gets one.  As long as the lookup does not miss, the two send the same requests to a server,
and the report of the export says what the update comes to (`updateProduct_agrees`).
-/

namespace ShopSync

variable {α β γ σ τ : Type}

/-! ### Runs against a server -/

/-- The query is about a request: to send it, or to wait for its budget. -/
def Query.IsTraffic : Query → Prop
  | .exchange _ => True
  | .pace _ => True
  | _ => False

/-- What only asks about requests comes to the same with a server whatever else is answered, and
whatever was asked before. -/
theorem Dialogue.run_of_isTraffic {d : Dialogue α} (hd : d.Always Query.IsTraffic)
    (server : Server σ) (elsewhere elsewhere' : Elsewhere) (s : σ) (past past' : List Query) :
    (d.run (server.world elsewhere) ⟨s, past⟩).1 = (d.run (server.world elsewhere') ⟨s, past'⟩).1 ∧
      d.queries (server.world elsewhere) ⟨s, past⟩ =
        d.queries (server.world elsewhere') ⟨s, past'⟩ := by
  induction d generalizing s past past' with
  | done a => exact ⟨rfl, rfl⟩
  | ask q next ih =>
    obtain ⟨hq, hnext⟩ := hd
    cases q with
    | exchange request =>
      obtain ⟨hrun, hqueries⟩ := ih _ (hnext _) (server request s).2
        (past ++ [Query.exchange request]) (past' ++ [Query.exchange request])
      exact ⟨hrun, congrArg (_ :: ·) hqueries⟩
    | pace n =>
      obtain ⟨hrun, hqueries⟩ := ih _ (hnext _) s (past ++ [Query.pace n])
        (past' ++ [Query.pace n])
      exact ⟨hrun, congrArg (_ :: ·) hqueries⟩
    | _ => exact hq.elim

/-- The first reply that comes back is the one of the server in the state it is in. -/
theorem Server.outcome_of_exchangesIn {server : Server σ} {elsewhere : Elsewhere} {d : Dialogue α}
    {v : Visit σ} {e : Http.Exchange} {es : List Http.Exchange}
    (h : exchangesIn (d.transcript (server.world elsewhere) v) = e :: es) :
    e.outcome = (server e.request v.state).1 := by
  induction d generalizing v with
  | done a => cases h
  | ask q next ih =>
    cases q with
    | exchange request =>
      cases h
      rfl
    | _ => exact ih (elsewhere _ v.past) (v := ⟨v.state, v.past ++ [_]⟩) h

theorem Attempt.run_bind_congr {attempt : Attempt α} {f g : α → Attempt β} {world : World σ}
    {s : σ} (h : ∀ a, (attempt.run.run world s).1 = .ok a → f a = g a) :
    (attempt >>= f).run.run world s = (attempt >>= g).run.run world s ∧
      (attempt >>= f).run.queries world s = (attempt >>= g).run.queries world s := by
  simp only [ExceptT.run_bind, Dialogue.run_bind, Dialogue.queries_bind]
  cases hfound : (attempt.run.run world s).1 with
  | error e => exact ⟨rfl, rfl⟩
  | ok a =>
    simp only [h a hfound]
    exact ⟨trivial, trivial⟩

/-! ### Batches of one product -/

/-- The signal has not fired, and does not as long as nothing more is sent. -/
def Signal.IsUnfired (signal : Signal) (elsewhere : Elsewhere) (past : List Query) : Prop :=
  ∀ past', requestsOf past' = requestsOf past → signal.isStopped (elsewhere .moment past') = false

namespace Batch

section Single

variable (signal : Signal) (upsert : Product → Attempt Unit) (product : Product)

theorem run_exportRest_single (world : World σ) {s s₁ : σ} {look : Moment}
    (hlook : Dialogue.moment.run world s = (look, s₁)) (hgoes : signal.isStopped look = false)
    (id : Uuid) (marketplace : MarketplaceId) (started ended : Timestamp) :
    let rest := exportRest signal upsert [product] (.start id marketplace .outbound 1 started)
    let t : Trial := { product, look, outcome := ((upsert product).run.run world s₁).1 }
    rest.queries world s = .moment :: (upsert product).run.queries world s₁ ∧
      (rest.run world s).1.finish ended =
        report id marketplace 1 started ended [t] (stopReason signal [t] none) := by
  intro rest t
  have hanswer : world.answer .moment s = (look, s₁) := hlook
  have htrials : ((tryAll upsert [product]).run world s).1 = [t] := by
    rw [run_tryAll_cons, hanswer]
    rfl
  have htried : (tryAll upsert [product]).queries world s =
      .moment :: (upsert product).run.queries world s₁ := by
    rw [queries_tryAll_cons, hanswer]
    exact congrArg _ (List.append_nil _)
  have hindex : stopIndex signal [t] = 1 := by
    simp [stopIndex, t, hgoes]
  have hlast : lastLook [t] none = [] := by
    unfold lastLook
    split
    next h => cases h
    next => rfl
  obtain ⟨hrun, hqueries⟩ := run_exportRest world signal upsert [product]
    (.start id marketplace .outbound 1 started) s
  rw [htrials, hindex] at hrun hqueries
  constructor
  · simpa [htried, hlast] using hqueries
  · have hcounted : [t].foldl note (.start id marketplace .outbound 1 started) =
        counting (.start id marketplace .outbound 1 started) [t] :=
      @foldl_note (.start id marketplace .outbound 1 started) rfl [] [t] Nat.le.refl
    rw [hrun, ← finish_stopped_counting, ← hcounted]
    rfl

theorem run_exportProducts_of_goes (world : World σ) {s s₁ s₂ s₃ : σ} {entry start : Moment}
    {id : Uuid} (hentry : Dialogue.moment.run world s = (entry, s₁))
    (hgoes : signal.isStopped entry = false) (hid : Dialogue.freshId.run world s₁ = (id, s₂))
    (hstart : Dialogue.moment.run world s₂ = (start, s₃)) (marketplace : MarketplaceId)
    (products : List Product) :
    let batch := (exportProducts marketplace products signal upsert).run
    let rest := exportRest signal upsert products
      (.start id marketplace .outbound products.length start.wall)
    batch.queries world s =
        [Query.moment, .freshId, .moment] ++ rest.queries world s₃ ++ [Query.moment] ∧
      ∃ ended : Moment, (batch.run world s).1 =
        .ok ((rest.run world s₃).1.finish ended.wall) := by
  intro batch rest
  have hmoment (s : σ) : Dialogue.moment.queries world s = [.moment] := rfl
  have hfreshId (s : σ) : Dialogue.freshId.queries world s = [.freshId] := rfl
  have hstopped : ¬signal.isStopped entry = true := Bool.eq_false_iff.1 hgoes
  simp only [batch, run_exportProducts, Dialogue.run_bind, Dialogue.queries_bind, hentry, hmoment,
    hfreshId, if_neg hstopped, hid, hstart]
  exact ⟨by simp [Dialogue.queries, rest], _, rfl⟩

/-- Against a server, a batch of one product sends what the product needs, some looks at the clocks
later, and reports what comes of it. -/
theorem run_exportProducts_single (server : Server σ) {elsewhere : Elsewhere} {s : σ}
    {past : List Query} (hunfired : signal.IsUnfired elsewhere past) (marketplace : MarketplaceId) :
    let world := server.world elsewhere
    let batch := (exportProducts marketplace [product] signal upsert).run
    ∃ past', requestsOf (batch.queries world ⟨s, past⟩) =
        requestsOf ((upsert product).run.queries world ⟨s, past'⟩) ∧
      ∃ id started ended look reason, (batch.run world ⟨s, past⟩).1 =
        .ok (report id marketplace 1 started ended
          [{ product, look, outcome := ((upsert product).run.run world ⟨s, past'⟩).1 }]
          reason) := by
  intro world batch
  let id : Uuid := elsewhere .freshId (past ++ [Query.moment])
  let before := past ++ [Query.moment] ++ [Query.freshId] ++ [Query.moment]
  have hentry : Dialogue.moment.run world ⟨s, past⟩ =
      (elsewhere .moment past, ⟨s, past ++ [Query.moment]⟩) := rfl
  have hid : Dialogue.freshId.run world ⟨s, past ++ [Query.moment]⟩ =
      (id, ⟨s, past ++ [Query.moment] ++ [Query.freshId]⟩) := rfl
  have hstart : Dialogue.moment.run world ⟨s, past ++ [Query.moment] ++ [Query.freshId]⟩ =
      (elsewhere .moment (past ++ [Query.moment] ++ [Query.freshId]), ⟨s, before⟩) := rfl
  have hlook : Dialogue.moment.run world ⟨s, before⟩ =
      (elsewhere .moment before, ⟨s, before ++ [Query.moment]⟩) := rfl
  have hbefore : requestsOf before = requestsOf past := by
    simp only [before, requestsOf_append, requestsOf_moment, requestsOf_freshId, List.append_nil]
  obtain ⟨hqueries, ended, hresult⟩ := run_exportProducts_of_goes signal upsert world hentry
    (hunfired past rfl) hid hstart marketplace [product]
  obtain ⟨hproduct, hreport⟩ := run_exportRest_single signal upsert product world hlook
    (hunfired before hbefore) id marketplace
    (elsewhere .moment (past ++ [Query.moment] ++ [Query.freshId])).wall ended.wall
  rw [List.length_singleton, hproduct] at hqueries
  rw [List.length_singleton, hreport] at hresult
  refine ⟨before ++ [Query.moment], ?_, _, _, _, _, _, hresult⟩
  calc requestsOf (batch.queries world ⟨s, past⟩)
      = requestsOf ((upsert product).run.queries world ⟨s, before ++ [Query.moment]⟩ ++
          [Query.moment]) := by
        rw [hqueries]
        rfl
    _ = requestsOf ((upsert product).run.queries world ⟨s, before ++ [Query.moment]⟩) := by
        rw [requestsOf_append, requestsOf_moment, List.append_nil]

end Single

end Batch

/-- The report of a batch of one product says what came of it. -/
def SyncResult.Tells (result : SyncResult) (sku : Sku) : Except MarketError Unit → Prop
  | .ok () => result.success = 1 ∧ result.failed = 0 ∧ result.errors = []
  | .error e => result.success = 0 ∧ result.failed = 1 ∧
      result.errors = [{ sku := sku.text, message := e.text, code := e.code }]

theorem Batch.tells_report (id : Uuid) (marketplace : MarketplaceId) (started ended : Timestamp)
    (t : Trial) (reason : Option Interruption) :
    (report id marketplace 1 started ended [t] reason).Tells t.product.sku t.outcome := by
  obtain ⟨product, look, outcome⟩ := t
  cases outcome with
  | ok u => exact ⟨rfl, rfl, rfl⟩
  | error e => exact ⟨rfl, rfl, rfl⟩

theorem Registry.isConfigured_of_findReady [Marketplace α] {registry : Registry α}
    {id : MarketplaceId} {adapter : α} (hready : registry.findReady id = .ok adapter) :
    Marketplace.isConfigured adapter = true := by
  unfold findReady at hready
  obtain ⟨found, -, hready⟩ := bind_eq_ok_iff.1 hready
  split at hready
  next hconfigured =>
    cases hready
    exact hconfigured
  next => cases hready

/-! ### The adapter -/

namespace Etsy

open Attempt

variable {adapter : Adapter} {session : Session} {product : Product} {code : String}
variable {server : Server σ}

theorem Adapter.session_of_findReady {adapter' : Adapter} {config : Config}
    (hconfigure : adapter.configure config = .ok adapter') {registry : Registry Adapter}
    {id : MarketplaceId} (hready : registry.findReady id = .ok adapter') :
    adapter'.session = .ok (.ofConfig config) := by
  obtain ⟨-, rfl⟩ := valid_of_configure hconfigure
  exact if_pos (Registry.isConfigured_of_findReady hready)

theorem Session.run_findListing (session : Session) (sku : Sku) (server : Server σ)
    (elsewhere : Elsewhere) (v : Visit σ) :
    ((session.findListing sku).run.run (server.world elsewhere) v).1 =
      session.settleLookup sku (server (session.lookupRequest sku) v.state).1 := by
  obtain ⟨reply, hes, houtcome⟩ := (session.sendsOne_findListing sku _ _).1
    ⟨_, server.world elsewhere, v, rfl, rfl⟩
  rw [houtcome, ← Server.outcome_of_exchangesIn hes]

theorem Adapter.asks_updateProduct : (adapter.updateProduct product).Asks Query.IsTraffic := by
  have hpace (n : UInt32) : Query.IsTraffic (.pace n) := trivial
  refine (asks_mk_pure _).bind fun session => ?_
  refine Asks.bind ?_ fun listingId => (asks_mk_pure _).bind fun fields => ?_
  · refine ((Http.Client.asks_get hpace trivial).bind fun _ => asks_pure _).bind fun found => ?_
    cases found with
    | none => exact asks_throw _
    | some listingId => exact asks_pure _
  · exact (Http.Client.asks_send hpace trivial).bind fun _ => asks_pure _

/-- What the server replies to the lookup of a SKU leads to no listing. -/
def Session.Misses (session : Session) (server : Server σ) (s : σ) (sku : Sku) : Prop :=
  session.Lookup sku (server (session.lookupRequest sku) s).1 (.ok none)

/-- What an update does with what the lookup comes to: without a listing it fails. -/
def Session.updateFound (session : Session) (product : Product) (fields : ListingFields) :
    Option String → Attempt Unit
  | some listingId => session.patchListing listingId fields
  | none => throw (.notFound product.sku)

/-- What an upsert does with it: without a listing it creates one. -/
def Session.upsertFound (session : Session) (product : Product) (fields : ListingFields) :
    Option String → Attempt Unit
  | some listingId => session.patchListing listingId fields
  | none => session.createListing product fields

section Fields

variable {fields : ListingFields}
variable (hfields : ListingFields.ofProduct product session.config.currencyCode = .ok fields)

include hfields

theorem Adapter.updateProduct_eq (hsession : adapter.session = .ok session) :
    adapter.updateProduct product =
      session.findListing product.sku >>= session.updateFound product fields := by
  rw [updateProduct, withSession, hsession]
  change session.requireListing product.sku >>= (fun listingId =>
    ExceptT.mk (pure (ListingFields.ofProduct product session.config.currencyCode)) >>=
      session.patchListing listingId) = _
  rw [hfields, Session.requireListing, bind_assoc]
  refine bind_congr fun found => ?_
  cases found <;> rfl

theorem Session.upsertListing_eq :
    session.upsertListing product =
      session.findListing product.sku >>= session.upsertFound product fields := by
  rw [upsertListing, hfields]
  change session.findListing product.sku >>= _ = _
  refine bind_congr fun found => ?_
  cases found <;> rfl

end Fields

/-- Unless the lookup misses, an update is an upsert. -/
theorem Adapter.run_updateProduct (hsession : adapter.session = .ok session)
    (hprice : IsPrice product.price) (hcode : parseCurrency session.config.currencyCode = .ok code)
    {v : Visit σ} (hfound : ¬session.Misses server v.state product.sku) (elsewhere : Elsewhere) :
    let world := server.world elsewhere
    (adapter.updateProduct product).run.run world v =
        (session.upsertListing product).run.run world v ∧
      (adapter.updateProduct product).run.queries world v =
        (session.upsertListing product).run.queries world v := by
  intro world
  have hfields := ListingFields.ofProduct_of_isPrice hprice hcode
  rw [updateProduct_eq hfields hsession, Session.upsertListing_eq hfields]
  refine Attempt.run_bind_congr fun found hrun => ?_
  cases found with
  | some listingId => rfl
  | none =>
    rw [Session.run_findListing] at hrun
    exact absurd (Session.lookup_iff.2 hrun) hfound

/-- Unless the lookup misses, an update and a batch of the one product send the same requests, and
the report says what the update comes to. -/
theorem Adapter.run_exportProducts_single (hsession : adapter.session = .ok session)
    (hprice : IsPrice product.price) (hcode : parseCurrency session.config.currencyCode = .ok code)
    {s : σ} (hfound : ¬session.Misses server s product.sku) {signal : Signal}
    (elsewhere : Elsewhere) {elsewhere' : Elsewhere} (past : List Query) {past' : List Query}
    (hunfired : signal.IsUnfired elsewhere' past') :
    let updated := (adapter.updateProduct product).run
    let exported := (adapter.exportProducts [product] signal).run
    requestsOf (updated.queries (server.world elsewhere) ⟨s, past⟩) =
        requestsOf (exported.queries (server.world elsewhere') ⟨s, past'⟩) ∧
      ∃ result, (exported.run (server.world elsewhere') ⟨s, past'⟩).1 = .ok result ∧
        result.Tells product.sku (updated.run (server.world elsewhere) ⟨s, past⟩).1 := by
  intro updated exported
  have hexported : exported =
      (Batch.exportProducts .etsy [product] signal session.upsertListing).run := by
    unfold exported
    rw [exportProducts, withSession, hsession]
    rfl
  obtain ⟨before, hrequests, id, started, ended, look, reason, hresult⟩ :=
    Batch.run_exportProducts_single signal session.upsertListing product server (s := s) hunfired
      .etsy
  -- the upsert of the batch is an update, and an update does not notice the looks at the clocks
  obtain ⟨hrun, hqueries⟩ := run_updateProduct hsession hprice hcode (v := ⟨s, before⟩) hfound
    elsewhere'
  obtain ⟨hrun', hqueries'⟩ := Dialogue.run_of_isTraffic (d := updated) asks_updateProduct server
    elsewhere elsewhere' s past before
  rw [hexported, hqueries', hrequests, hqueries]
  refine ⟨rfl, _, hresult, ?_⟩
  rw [hrun', hrun]
  exact Batch.tells_report id .etsy started ended
    { product, look, outcome := ((session.upsertListing product).run.run _ _).1 } reason

end Etsy

/-! ### The service -/

namespace Service

open Operation

/-- What is done by an attempt comes to what the attempt comes to and asks what it asks, whatever
becomes of the service. -/
theorem run_on_of_attempt {service : Service α τ} {operation : Operation α τ β}
    {attempt : Attempt β} {after : Except MarketError β → Service α τ}
    (h : operation.on service = attempt.run >>= fun outcome =>
      pure (outcome.mapError .market, after outcome)) (world : World σ) (s : σ) :
    ((operation.on service).run world s).1.1 = (attempt.run.run world s).1.mapError .market ∧
      (operation.on service).queries world s = attempt.run.queries world s := by
  rw [h, Dialogue.run_bind, Dialogue.queries_bind]
  exact ⟨rfl, List.append_nil _⟩

variable [SyncStore τ]

/-- The service behind the outcome of a batch: with the report, where the store keeps it. -/
def afterBatch (service : Service α τ) : Except MarketError SyncResult → Service α τ
  | .error _ => service
  | .ok result =>
    match SyncStore.saveResult service.store result with
    | .ok store => { service with store }
    | .error _ => service

theorem on_record (attempt : Attempt SyncResult) (service : Service α τ) :
    on (do
        let result ← ofAttempt attempt
        ExceptT.lift (record result)
        pure result) service =
      attempt.run >>= fun outcome =>
        pure (outcome.mapError .market, service.afterBatch outcome) := by
  rw [on_bind, on_ofAttempt, bind_assoc]
  refine bind_congr fun outcome => ?_
  rw [pure_bind]
  cases outcome <;> rfl

end Service

/-- An update and an export of the one product came to the same: both to a success, both to the same
error of the marketplace, or both to no answer of the marketplace at all. -/
structure Agree (outcome : Except SyncError Unit) (outcome' : Except SyncError SyncResult) :
    Prop where
  succeeds : outcome = .ok () ↔ ∃ result, outcome' = .ok result ∧ result.success = 1
  fails (code text : String) : (∃ e, outcome = .error (.market e) ∧ e.code = code ∧ e.text = text) ↔
    ∃ result item, outcome' = .ok result ∧ result.failed = 1 ∧ result.errors = [item] ∧
      item.code = code ∧ item.message = text

namespace Agree

theorem of_store (e : StoreError) : Agree (.error (.store e)) (.error (.store e)) where
  succeeds := by simp
  fails code text := by simp

theorem of_tells {result : SyncResult} {sku : Sku} {found : Except MarketError Unit}
    (h : result.Tells sku found) : Agree (found.mapError .market) (.ok result) := by
  cases found with
  | ok u =>
    obtain ⟨hsuccess, hfailed, -⟩ := h
    constructor
    · simp [Except.mapError, hsuccess]
    · simp [Except.mapError, hfailed]
  | error e =>
    obtain ⟨hsuccess, hfailed, herrors⟩ := h
    constructor
    · simp [Except.mapError, hsuccess]
    · intro code text
      simp [Except.mapError, hfailed, herrors]

end Agree

namespace Service

open Etsy (Adapter IsPrice Session)

/-- **An update and an export of one product.**  For a marketplace that is configured and ready, a
product with a price, a signal that does not fire and a server whose answer to the lookup does not
say that there is no listing: the two send the same requests, and they agree.  The clocks may show
anything, and what was asked before does not matter. -/
theorem updateProduct_agrees [SyncStore τ] {service : Service Adapter τ} {id : MarketplaceId}
    {adapter adapter' : Adapter} {config : Config}
    (hconfigure : adapter.configure config = .ok adapter')
    (hready : service.registry.findReady id = .ok adapter') (product : Product)
    (hprice : IsPrice product.price) (server : Server σ) {s : σ}
    (hfound : ¬(Session.ofConfig config).Misses server s product.sku)
    (elsewhere : Elsewhere) {elsewhere' : Elsewhere} (past : List Query) {past' : List Query}
    {signal : Signal} (hunfired : signal.IsUnfired elsewhere' past') :
    let updated := (updateProduct id product).on service
    let exported := (exportProducts id [product] signal).on service
    requestsOf (updated.queries (server.world elsewhere) ⟨s, past⟩) =
        requestsOf (exported.queries (server.world elsewhere') ⟨s, past'⟩) ∧
      Agree (updated.run (server.world elsewhere) ⟨s, past⟩).1.1
        (exported.run (server.world elsewhere') ⟨s, past'⟩).1.1 := by
  intro updated exported
  have hsession := Adapter.session_of_findReady hconfigure hready
  obtain ⟨code, hcode⟩ := Adapter.code_of_session hconfigure hsession
  have hupdated := on_mapped hready fun adapter mappings =>
    Operation.ofAttempt (Marketplace.updateProduct adapter (mapCategory mappings product))
  have hexported := on_mapped hready fun adapter mappings => do
    let result ← Operation.ofAttempt
      (Marketplace.exportProducts adapter ([product].map (mapCategory mappings)) signal)
    ExceptT.lift (record result)
    pure result
  cases hstored : SyncStore.mappings service.store (Marketplace.id adapter') with
  | error e =>
    rw [hstored] at hupdated hexported
    have hsilent : updated = pure (.error (.store e), service) := hupdated
    have hsilent' : exported = pure (.error (.store e), service) := hexported
    rw [hsilent, hsilent']
    exact ⟨rfl, .of_store e⟩
  | ok stored =>
    rw [hstored] at hupdated hexported
    let mapped := mapCategory (mappingsWith adapter' stored) product
    have hupdated' : (updateProduct id product).on service =
        (adapter'.updateProduct mapped).run >>= fun outcome =>
          pure (outcome.mapError .market, service) := hupdated.trans (Operation.on_ofAttempt _ _)
    have hexported' : (exportProducts id [product] signal).on service =
        (adapter'.exportProducts [mapped] signal).run >>= fun outcome =>
          pure (outcome.mapError .market, service.afterBatch outcome) :=
      hexported.trans (on_record (adapter'.exportProducts [mapped] signal) service)
    obtain ⟨hrun, hqueries⟩ := run_on_of_attempt hupdated' (server.world elsewhere) ⟨s, past⟩
    obtain ⟨hrun', hqueries'⟩ := run_on_of_attempt hexported' (server.world elsewhere') ⟨s, past'⟩
    -- the category does not matter to the price and the lookup
    obtain ⟨hrequests, result, hresult, htells⟩ := Adapter.run_exportProducts_single
      hsession (show IsPrice mapped.price from hprice) hcode hfound elsewhere past hunfired
    rw [hresult] at hrun'
    simp only [updated, exported, hrun, hrun', hqueries, hqueries']
    exact ⟨hrequests, .of_tells htells⟩

/-- A server with one listing, which cannot be written. -/
def lockedListing : Server Unit := fun request _ =>
  match request.method with
  | .get => (.ok (.ok "\x7b\"results\":[\x7b\"listing_id\":7\x7d]\x7d"), ())
  | _ => (.ok { status := 423, body := "locked" }, ())

/-- A service whose store does not keep results. -/
def forgetfulService : Service Adapter FaultyStore where
  registry := Registry.empty.register { config := some Etsy.sampleConfig }
  store := { down := ["save_sync_result"] }

/-- An update of a listing that cannot be written sends two requests and fails, as the export says
that sends the same. -/
theorem updateProduct_agrees_lockedListing :
    let product := Etsy.sampleProduct
    let signal : Signal := { token := 0 }
    let world := lockedListing.world (still fun _ => [])
    let updated := (updateProduct .etsy product).on forgetfulService
    let exported := (exportProducts .etsy [product] signal).on forgetfulService
    Adapter.configure {} Etsy.sampleConfig = .ok { config := some Etsy.sampleConfig } ∧
      forgetfulService.registry.findReady .etsy = .ok { config := some Etsy.sampleConfig } ∧
      IsPrice product.price ∧
      ¬(Session.ofConfig Etsy.sampleConfig).Misses lockedListing () product.sku ∧
      signal.IsUnfired (still fun _ => []) [] ∧
      (requestsOf (updated.queries world ⟨(), []⟩)).map Http.Request.method = [.get, .patch] ∧
      requestsOf (updated.queries world ⟨(), []⟩) = requestsOf (exported.queries world ⟨(), []⟩) ∧
      Agree (updated.run world ⟨(), []⟩).1.1 (exported.run world ⟨(), []⟩).1.1 := by
  intro product signal world updated exported
  have hconfigure : Adapter.configure {} Etsy.sampleConfig =
      .ok { config := some Etsy.sampleConfig } := by
    decide +kernel
  have hready : forgetfulService.registry.findReady .etsy =
      .ok { config := some Etsy.sampleConfig } := rfl
  have hprice : IsPrice product.price := by
    unfold IsPrice
    decide +kernel
  have hfound : ¬(Session.ofConfig Etsy.sampleConfig).Misses lockedListing () product.sku := by
    rw [Session.Misses, Session.lookup_iff]
    decide +kernel
  have hunfired : signal.IsUnfired (still fun _ => []) [] := fun _ _ => rfl
  have hmethods : (requestsOf (updated.queries world ⟨(), []⟩)).map Http.Request.method =
      [.get, .patch] := by
    decide +kernel
  obtain ⟨hrequests, hagree⟩ := updateProduct_agrees hconfigure hready product hprice
    lockedListing hfound (still fun _ => []) [] hunfired
  refine ⟨hconfigure, hready, hprice, hfound, hunfired, hmethods, ?_⟩
  simp only [updated, exported, world]
  exact ⟨hrequests, hagree⟩

end Service

end ShopSync
