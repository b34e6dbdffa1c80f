import Mathlib.Tactic
import ShopSync.Command.Run
import ShopSync.Proofs.Sync.Upkeep

/-!
The state file from run to run.

A run reads the state file once, before its task, and writes it once, after it.  As the task keeps a
sound store sound, what is written is read again by the next run exactly when every line total of
the orders that were there is finite.
-/

namespace ShopSync.Command

open Json (Decoder)
open Number (Binary64 int64Limit)
open Service (HasSoundStore)

/-! ### Tasks -/

section Tasks

variable {α : Type} {totals : Prop} {p : α → Prop}

theorem maintains_alone {id : MarketplaceId} {operation : Operation Etsy.Adapter MemoryStore α}
    (h : Maintains (HasSoundStore totals) operation.run (IfOk fun _ => True)) :
    Maintains (HasSoundStore totals) (alone id operation).run (IfOk fun _ => True) :=
  maintains_run_bind (maintains_lift h) fun _ _ => maintains_run_pure trivial

theorem maintains_whole {operation : Operation Etsy.Adapter MemoryStore α}
    (h : Maintains (HasSoundStore totals) operation.run (IfOk fun _ => True)) :
    Maintains (HasSoundStore totals) (whole operation).run (IfOk fun _ => True) :=
  maintains_bind h fun _ houtcome => maintains_pure (houtcome.mapError _)

theorem maintains_onChosen {chosen : Option MarketplaceId}
    {one : MarketplaceId → Operation Etsy.Adapter MemoryStore α}
    {f : Etsy.Adapter → Operation Etsy.Adapter MemoryStore α}
    (hone : ∀ id, Maintains (HasSoundStore totals) (one id).run (IfOk fun _ => True))
    (hall : ∀ adapter, Maintains (HasSoundStore totals) (f adapter).run (IfOk fun _ => True)) :
    Maintains (HasSoundStore totals) (onChosen chosen one (Service.forActive f)).run
      (IfOk fun _ => True) := by
  unfold onChosen
  cases chosen with
  | some id => exact maintains_alone (hone id)
  | none => exact maintains_lift (maintains_forActive hall)

theorem maintains_valid {x : Except ValidationError α} (h : IfOk p x) :
    Maintains (HasSoundStore totals) (valid x).run (IfOk p) :=
  maintains_mk_pure (h.mapError _)

/-- To read a file is all that is asked, and what comes of it is what the decoder finds in the
file. -/
theorem gives_readJson {path expected : String} {d : Decoder α} {t : List Answered}
    {outcome : Except RunError α} (h : (readJson path expected d).run.Gives t outcome) :
    ∃ found : Except FileError String, t = [⟨.readFile path, found⟩] ∧
      ∀ a, outcome = .ok a →
        ∃ content, found = .ok content ∧ Decoder.decode? d content = some a := by
  unfold readJson at h
  rw [Dialogue.run_liftM_bind] at h
  obtain ⟨found, rest, rfl, hfound⟩ := Dialogue.gives_readFile_bind_iff.1 h
  -- whatever the file holds, nothing more is asked
  have hend {result : Except RunError α} (h : (pure result : Dialogue _).Gives rest outcome) :
      rest = [] ∧ result = outcome :=
    Dialogue.gives_pure_iff.1 h
  refine ⟨found, ?_⟩
  cases found with
  | error e =>
    obtain ⟨rfl, rfl⟩ := hend hfound
    exact ⟨rfl, nofun⟩
  | ok content =>
    dsimp only at hfound
    split at hfound
    next a ha =>
      obtain ⟨rfl, rfl⟩ := hend hfound
      refine ⟨rfl, ?_⟩
      rintro b ⟨⟩
      exact ⟨content, rfl, ha⟩
    next =>
      obtain ⟨rfl, rfl⟩ := hend hfound
      exact ⟨rfl, nofun⟩

theorem obtains_readJson {path expected : String} {d : Decoder α}
    (h : ∀ content a, (content.length : Int) < int64Limit → Decoder.decode? d content = some a →
      p a) :
    (readJson path expected d).run.Obtains (IfOk p) := by
  intro t outcome hgives hrange
  obtain ⟨found, rfl, hfound⟩ := gives_readJson hgives
  refine ⟨List.forall_mem_singleton.2 rfl, ?_⟩
  intro a houtcome
  obtain ⟨content, rfl, hdecode⟩ := hfound a houtcome
  exact h content a (hrange.texts content List.mem_cons_self) hdecode

theorem obtains_checks (products : List Product) :
    (forIn products PUnit.unit fun product _ => do
      ExceptT.mk (pure (product.validate.mapError .validation))
      pure (ForInStep.yield PUnit.unit) : Run PUnit).run.Obtains (IfOk fun _ => True) := by
  induction products with
  | nil => exact Dialogue.obtains_pure fun _ _ => trivial
  | cons product rest ih =>
    rw [List.forIn_cons]
    have hcheck : IfOk (fun _ => True) (product.validate.mapError RunError.validation) :=
      fun _ _ => trivial
    refine Dialogue.obtains_run_bind (Dialogue.obtains_run_bind (q := fun step => step = .yield ⟨⟩)
      (Dialogue.obtains_mk_pure hcheck) fun _ _ => Dialogue.obtains_pure (ifOk_ok rfl)) ?_
    rintro _ rfl
    exact ih

theorem obtains_loadProducts (path : String) :
    (loadProducts path).run.Obtains (IfOk fun products => products.length < UInt64.size) := by
  have hlist : (readJson path "a product list" (Decoder.list Product.decoder)).run.Obtains
      (IfOk fun products => products.length < UInt64.size) := by
    refine obtains_readJson fun content products hcontent hdecode => ?_
    have hlength := (Decoder.yields_trivial Product.decoder).list.of_decode? hdecode
    simp only [int64Limit] at hcontent
    simp only [UInt64.size]
    omega
  unfold loadProducts
  refine Dialogue.obtains_run_bind hlist fun products hproducts => ?_
  have hchecks := obtains_checks products
  exact Dialogue.obtains_run_bind hchecks fun _ _ => Dialogue.obtains_pure (ifOk_ok hproducts)

theorem maintains_report {x : TaskM α} {report : α → Report}
    (h : Maintains (HasSoundStore totals) x.run (IfOk fun _ => True)) :
    Maintains (HasSoundStore totals) (x >>= fun a => pure (report a)).run (IfOk fun _ => True) :=
  maintains_run_bind h fun _ _ => maintains_run_pure trivial

open Service in
theorem maintains_carryOut (signal : Signal) (task : Task) :
    Maintains (HasSoundStore totals) (carryOut signal task).run (IfOk fun _ => True) := by
  have hvalid (sku : String) : IfOk (fun _ => True) (Sku.parse sku) := fun _ _ => trivial
  cases task with
  | status => exact maintains_report (maintains_whole maintains_status)
  | exportProducts path chosen =>
    have hproducts : Maintains (HasSoundStore totals) (StateT.lift (loadProducts path).run)
        (IfOk fun products => products.length < UInt64.size) :=
      maintains_liftM (obtains_loadProducts path)
    refine maintains_run_bind hproducts fun products hcount => ?_
    refine maintains_report (maintains_onChosen (fun id => ?_) fun adapter => ?_)
    · exact maintains_exportProducts id signal hcount
    · exact maintains_exportProducts _ signal hcount
  | importOrders since chosen =>
    have himport (since : Option Timestamp) (hsince : ∀ t, since = some t → t.HasForm) :
        Maintains (HasSoundStore totals) (do
          let outcomes ← onChosen chosen (fun id => importOrders id since signal)
            (forActive fun adapter => importOrders (Marketplace.id adapter) since signal)
          pure ((Report.ofFanOut OrderImport.toJson outcomes).withWarnings
            (warningsAbout importWarning? outcomes)) : TaskM Report).run (IfOk fun _ => True) := by
      refine maintains_report (maintains_onChosen (fun id => ?_) fun adapter => ?_)
      · exact maintains_importOrders id signal hsince
      · exact maintains_importOrders _ signal hsince
    -- a time from the command line has been read, so it can be written
    cases since with
    | none =>
      refine maintains_run_bind (maintains_run_pure ?_) himport
      intro t habsurd
      cases habsurd
    | some text =>
      have htext : IfOk Timestamp.HasForm (Timestamp.parse text) :=
        fun _ h => Timestamp.hasForm_of_parse h
      refine maintains_run_bind (maintains_valid htext) fun start hstart => ?_
      refine maintains_run_bind (maintains_run_pure ?_) himport
      rintro t ⟨⟩
      exact hstart
  | stock sku quantity chosen =>
    refine maintains_run_bind (maintains_valid (hvalid sku)) fun sku _ => ?_
    refine maintains_report (maintains_onChosen (fun id => ?_) fun adapter => ?_)
    · exact maintains_ready_attempt id fun a => a.leavesFiles_attempt (.updateStock sku quantity)
    · exact maintains_attempt (adapter.leavesFiles_attempt (.updateStock sku quantity))
  | price sku price chosen =>
    refine maintains_run_bind (maintains_valid (hvalid sku)) fun sku _ => ?_
    refine maintains_report (maintains_onChosen (fun id => ?_) fun adapter => ?_)
    · exact maintains_ready_attempt id fun a => a.leavesFiles_attempt (.updatePrice sku price)
    · exact maintains_attempt (adapter.leavesFiles_attempt (.updatePrice sku _))
  | delete sku id =>
    refine maintains_run_bind (maintains_valid (hvalid sku)) fun sku _ => ?_
    refine maintains_report (maintains_alone ?_)
    exact maintains_ready_attempt id fun a => a.leavesFiles_attempt (.deleteProduct sku)
  | categories id => exact maintains_report (maintains_alone (maintains_categories id))
  | ship orderId carrier trackingCode id =>
    exact maintains_report (maintains_alone (maintains_markAsShipped id orderId _))
  | orderStatus orderId status id =>
    exact maintains_report (maintains_alone (maintains_updateOrderStatus id orderId status))
  | history id limit => exact maintains_report (maintains_whole (maintains_history id limit))

end Tasks

/-! ### Runs -/

section Runs

variable {inv : Invocation} {environment : String → Option String} {token : Nat}
variable {path text content : String} {snapshot : Snapshot} {store : MemoryStore}
variable {t : List Answered}

theorem obtains_setUpRegistry (inv : Invocation) (environment : String → Option String) :
    (setUpRegistry inv environment).run.Obtains (IfOk fun _ => True) := by
  have hanswer {α : Type} (outcome : Except RunError α) :
      (ExceptT.mk (pure outcome) : Run α).run.Obtains (IfOk fun _ => True) :=
    Dialogue.obtains_mk_pure fun _ _ => trivial
  unfold setUpRegistry
  dsimp only
  split
  case' h_1 path _ =>
    have hread : (readJson path "marketplace configs" (Decoder.list Config.decoder)).run.Obtains
        (IfOk fun _ => True) :=
      obtains_readJson fun _ _ _ _ => trivial
    refine Dialogue.obtains_run_bind hread fun configs _ => ?_
  case' h_2 => refine Dialogue.obtains_run_bind (hanswer (.ok [])) fun configs _ => ?_
  all_goals
    refine Dialogue.obtains_run_bind (hanswer _) fun registry _ => ?_
    cases inv.timeoutMs with
    | some timeoutMs => exact hanswer _
    | none => exact hanswer (.ok registry)

theorem obtains_setUpStore (inv : Invocation) :
    (setUpStore inv).run.Obtains
      (IfOk fun store => store.IsSound (∀ order ∈ store.orders.toList, order.HasTotals)) := by
  have hempty : ({} : MemoryStore).IsSound
      (∀ order ∈ ({} : MemoryStore).orders.toList, order.HasTotals) := by
    have hnothing : ({} : Snapshot).IsSound :=
      ⟨List.forall_mem_nil _, List.forall_mem_nil _, rfl⟩
    exact MemoryStore.isSound_ofSnapshot hnothing
  unfold setUpStore
  cases inv.statePath with
  | none => exact Dialogue.obtains_pure (ifOk_ok hempty)
  | some path =>
    dsimp only
    rw [Dialogue.run_liftM_bind]
    refine Dialogue.Obtains.bind (Dialogue.obtains_fileExists path) fun there _ => ?_
    split
    · have hread : (readJson path "sync state" Snapshot.decoder).run.Obtains
          (IfOk Snapshot.IsSound) :=
        obtains_readJson fun _ _ _ h => Snapshot.isSound_of_decode? h
      exact Dialogue.obtains_run_bind hread fun snapshot hsnapshot =>
        Dialogue.obtains_pure (ifOk_ok (MemoryStore.isSound_ofSnapshot hsnapshot))
    · exact Dialogue.obtains_pure (ifOk_ok hempty)

/-- With a state file that is there the store is what it holds. -/
theorem exists_of_gives_setUpStore (hpath : inv.statePath = some path)
    (hthere : ∀ there, ⟨.fileExists path, there⟩ ∈ t → there = true)
    (hread : ∀ found, ⟨.readFile path, found⟩ ∈ t → found = .ok text)
    (h : (setUpStore inv).run.Gives t (.ok store)) :
    ∃ snapshot, Decoder.decode? Snapshot.decoder text = some snapshot ∧
      store = .ofSnapshot snapshot := by
  unfold setUpStore at h
  rw [hpath] at h
  dsimp only at h
  rw [Dialogue.run_liftM_bind] at h
  obtain ⟨there, rest, rfl, hrest⟩ := Dialogue.gives_fileExists_bind_iff.1 h
  obtain rfl := hthere there List.mem_cons_self
  rw [if_pos rfl] at hrest
  rcases Dialogue.gives_run_bind hrest with ⟨e, -, habsurd⟩ | ⟨snapshot, t₁, t₂, rfl, hjson, hend⟩
  · cases habsurd
  · obtain ⟨answer, rfl, hfound⟩ := gives_readJson hjson
    obtain ⟨content, rfl, hdecode⟩ := hfound snapshot rfl
    obtain rfl := Except.ok.inj (hread _ (List.mem_cons_of_mem _ List.mem_cons_self))
    obtain ⟨-, heq⟩ := Dialogue.gives_pure_iff.1 hend
    cases heq
    exact ⟨snapshot, hdecode, rfl⟩

/-- A run fails when its state file is there and holds no snapshot. -/
theorem error_of_rejected {outcome : Except RunError Envelope} (hpath : inv.statePath = some path)
    (hthere : ∀ there, ⟨.fileExists path, there⟩ ∈ t → there = true)
    (hread : ∀ found, ⟨.readFile path, found⟩ ∈ t → found = .ok text)
    (htext : Decoder.decode? Snapshot.decoder text = none)
    (h : (inv.run environment token).run.Gives t outcome) : ∃ cause, outcome = .error cause := by
  unfold Invocation.run at h
  rw [Dialogue.run_liftM_bind] at h
  obtain ⟨start, t₀, rfl, hstart⟩ := Dialogue.gives_moment_bind_iff.1 h
  rcases Dialogue.gives_run_bind hstart with ⟨e, -, hfailed⟩ | ⟨registry, t₁, t₂, rfl, -, hrest⟩
  · exact ⟨e, hfailed⟩
  rcases Dialogue.gives_run_bind hrest with ⟨e, -, hfailed⟩ | ⟨store, t₃, t₄, rfl, hstore, -⟩
  · exact ⟨e, hfailed⟩
  have hmem {x : Answered} (hx : x ∈ t₃) : x ∈ ⟨.moment, start⟩ :: (t₁ ++ (t₃ ++ t₄)) :=
    List.mem_cons_of_mem _ (List.mem_append_right _ (List.mem_append_left _ hx))
  obtain ⟨snapshot, hsnapshot, -⟩ := exists_of_gives_setUpStore hpath
    (fun there hx => hthere there (hmem hx)) (fun found hx => hread found (hmem hx)) hstore
  rw [htext] at hsnapshot
  cases hsnapshot

theorem query_of_gives_persist {outcome : Except RunError Unit}
    (h : (persist inv store).run.Gives t outcome) {x : Answered} (hx : x ∈ t) :
    ∃ path, inv.statePath = some path ∧
      x.query = .writeFile path store.snapshot.toJson.renderIndented := by
  unfold persist at h
  cases hpath : inv.statePath with
  | none =>
    rw [hpath] at h
    obtain ⟨rfl, -⟩ := Dialogue.gives_pure_iff.1 h
    cases hx
  | some path =>
    rw [hpath] at h
    dsimp only at h
    rw [Dialogue.run_liftM_bind] at h
    obtain ⟨written, rest, rfl, hrest⟩ := Dialogue.gives_writeFile_bind_iff.1 h
    have hnothing : rest = [] := by
      cases written with
      | ok _ => exact (Dialogue.gives_pure_iff.1 hrest).1
      | error e => exact (Dialogue.gives_pure_iff.1 hrest).1
    subst hnothing
    obtain rfl := List.mem_singleton.1 hx
    exact ⟨path, rfl, rfl⟩

/-- Behind the task only the state file is written. -/
theorem query_of_gives_end {α : Type} {result : Except RunError Report} {rest : Report → Run α}
    {outcome : Except RunError α} (hrest : ∀ report, (rest report).run.Obtains fun _ => True)
    (h : (do
      let report ← ExceptT.mk (pure result)
      persist inv store
      rest report : Run α).run.Gives t outcome) (hrange : InRange t) {x : Answered} (hx : x ∈ t)
    (hwrites : x.query.writesFile = true) :
    ∃ path, inv.statePath = some path ∧
      x.query = .writeFile path store.snapshot.toJson.renderIndented := by
  have hreport : (ExceptT.mk (pure result) : Run Report).run.Obtains (IfOk fun _ => True) :=
    Dialogue.obtains_mk_pure fun _ _ => trivial
  obtain ⟨report, t₁, t₂, rfl, -, -, hpersist, hrange₂, hx₂⟩ :=
    Dialogue.exists_ok_of_writes hreport h hrange hx hwrites
  rcases Dialogue.gives_run_bind hpersist with ⟨e, hfailed, -⟩ | ⟨_, t₃, t₄, rfl, hwritten, hend⟩
  · exact query_of_gives_persist hfailed hx₂
  obtain ⟨-, hrange₄⟩ := (inRange_append_iff t₃ t₄).1 hrange₂
  have hx₃ := (List.mem_append.1 hx₂).resolve_right ((hrest report).notMem hend hrange₄ hwrites)
  exact query_of_gives_persist hwritten hx₃

/-- What a run writes is the store that its task leaves, to the state file.  It is sound, and has an
order without its totals exactly when the store has one that the task began with. -/
theorem written_of_gives_run {outcome : Except RunError Envelope}
    (h : (inv.run environment token).run.Gives t outcome) (hrange : InRange t) {x : Answered}
    (hx : x ∈ t) (hwrites : x.query.writesFile = true) :
    ∃ (path : String) (before after : MemoryStore) (t' : List Answered),
      inv.statePath = some path ∧ x.query = .writeFile path after.snapshot.toJson.renderIndented ∧
      t' ⊆ t ∧ (setUpStore inv).run.Gives t' (.ok before) ∧
      after.IsSound (∀ order ∈ before.orders.toList, order.HasTotals) := by
  unfold Invocation.run at h
  rw [Dialogue.run_liftM_bind] at h
  obtain ⟨start, t₁, t₂, rfl, -, -, hstart, hrange₂, hx₂⟩ :=
    Dialogue.obtains_moment.exists_of_writes h hrange hx hwrites
  -- nothing is written before the task
  obtain ⟨registry, t₃, t₄, rfl, -, -, hrest, hrange₄, hx₄⟩ :=
    Dialogue.exists_ok_of_writes (obtains_setUpRegistry inv environment) hstart hrange₂ hx₂ hwrites
  obtain ⟨before, t₅, t₆, rfl, hbefore, hsound, hrun, hrange₆, hx₆⟩ :=
    Dialogue.exists_ok_of_writes (obtains_setUpStore inv) hrest hrange₄ hx₄ hwrites
  -- nor by the task
  have htask := @maintains_carryOut _ (inv.signal token start) inv.task
    { registry, store := before } hsound
  dsimp only at hrun
  rw [Dialogue.run_liftM_bind] at hrun
  obtain ⟨⟨result, service⟩, t₇, t₈, rfl, -, ⟨hafter, -⟩, hend, hrange₈, hx₈⟩ :=
    htask.exists_of_writes hrun hrange₆ hx₆ hwrites
  -- behind it the store is written, and then nothing more
  have hlast (report : Report) : (do
      let requestId ← Dialogue.freshId
      let now ← Dialogue.moment
      pure
        { requestId
          command := inv.task.name
          generatedAt := now.wall
          latencyMs := now.uptime - start.uptime
          report } : Run Envelope).run.Obtains fun _ => True := by
    rw [Dialogue.run_liftM_bind]
    refine Dialogue.obtains_freshId.bind fun requestId _ => ?_
    rw [Dialogue.run_liftM_bind]
    exact Dialogue.obtains_moment.bind fun now _ => Dialogue.obtains_pure trivial
  obtain ⟨path, hpath, hquery⟩ := query_of_gives_end hlast hend hrange₈ hx₈ hwrites
  refine ⟨path, before, service.store, t₅, hpath, hquery, ?_, hbefore, hafter⟩
  intro y hy
  exact List.mem_append_right _ (List.mem_append_right _ (List.mem_append_left _ hy))

/-- What a run writes to a state file is read as a snapshot again exactly when all orders that it
found there have their totals. -/
theorem isSome_decode?_of_gives_run {outcome : Except RunError Envelope}
    (h : (inv.run environment token).run.Gives t outcome) (hrange : InRange t)
    (hthere : ∀ there, ⟨.fileExists path, there⟩ ∈ t → there = true)
    (hread : ∀ found, ⟨.readFile path, found⟩ ∈ t → found = .ok text)
    (htext : Decoder.decode? Snapshot.decoder text = some snapshot)
    (hwritten : .writeFile path content ∈ t.map Answered.query) :
    (Decoder.decode? Snapshot.decoder content).isSome ↔
      ∀ order ∈ (OrderBook.ofList snapshot.orders).toList, order.HasTotals := by
  obtain ⟨x, hx, hquery⟩ := List.mem_map.1 hwritten
  have hwrites : x.query.writesFile = true := by
    rw [hquery]
    rfl
  obtain ⟨path', before, after, t', hpath, hquery', hsubset, hbefore, hafter⟩ :=
    written_of_gives_run h hrange hx hwrites
  rw [hquery] at hquery'
  cases hquery'
  obtain ⟨snapshot', hsnapshot, rfl⟩ := exists_of_gives_setUpStore hpath
    (fun there hmem => hthere there (hsubset hmem))
    (fun found hmem => hread found (hsubset hmem)) hbefore
  obtain rfl := Option.some.inj (hsnapshot.symm.trans htext)
  rw [Snapshot.isSome_decode?_renderIndented hafter.snapshot]
  exact hafter.totals

theorem gives_execute {args : List String} {outcome : Outcome}
    (hinv : Invocation.ofArguments args = .ok inv)
    (h : (execute args environment token).Gives t outcome) :
    ∃ found, (inv.run environment token).run.Gives t found ∧
      ∀ cause, found = .error cause → outcome = .failed cause := by
  unfold execute at h
  rw [hinv] at h
  obtain ⟨found, t₁, t₂, rfl, hfound, hend⟩ := Dialogue.gives_bind_iff.1 h
  cases found with
  | error cause =>
    obtain ⟨rfl, rfl⟩ := Dialogue.gives_pure_iff.1 hend
    rw [List.append_nil]
    refine ⟨_, hfound, ?_⟩
    rintro _ ⟨⟩
    rfl
  | ok envelope =>
    obtain ⟨rfl, rfl⟩ := Dialogue.gives_pure_iff.1 hend
    rw [List.append_nil]
    exact ⟨_, hfound, nofun⟩

end Runs

/-- **State files that stay acceptable.**  Say a command line makes the program write its state file
back, the file held a text that is read as a snapshot, and what came in was in range.  Then the text
that is written is read as a snapshot again exactly when every order that was taken from the file,
the first of each key, has finite line totals. -/
theorem accepted_written_iff {args : List String} {environment : String → Option String}
    {token : Nat} {path text content : String} {snapshot : Snapshot} {t : List Answered}
    {outcome : Outcome} (hrun : (execute args environment token).Gives t outcome)
    (hrange : InRange t)
    (hthere : ∀ there, ⟨.fileExists path, there⟩ ∈ t → there = true)
    (hread : ∀ found, ⟨.readFile path, found⟩ ∈ t → found = .ok text)
    (htext : Decoder.decode? Snapshot.decoder text = some snapshot)
    (hwritten : .writeFile path content ∈ t.map Answered.query) :
    (Decoder.decode? Snapshot.decoder content).isSome ↔
      ∀ order ∈ (OrderBook.ofList snapshot.orders).toList, order.HasTotals := by
  cases hinv : Invocation.ofArguments args with
  | error cause =>
    unfold execute at hrun
    rw [hinv] at hrun
    obtain ⟨rfl, -⟩ := Dialogue.gives_pure_iff.1 hrun
    cases hwritten
  | ok inv =>
    obtain ⟨found, hfound, -⟩ := gives_execute hinv hrun
    exact isSome_decode?_of_gives_run hfound hrange hthere hread htext hwritten

/-- A world in which one file holds a text, whatever is written to it, and the clock stands at the
start of 1970.  Nobody can be reached. -/
def fileWorld (path text : String) : World Unit where
  answer
    | .exchange _, _ => (.error (.unreachable "nobody is there"), ())
    | .moment, _ => ({ wall := .epoch, uptime := 0, cancelled := [] }, ())
    | .freshId, _ => (⟨0⟩, ())
    | .pace _, _ => ((), ())
    | .fileExists p, _ => (decide (p = path), ())
    | .readFile p, _ => (if p = path then .ok text else .error .missing, ())
    | .writeFile _ _, _ => (.ok (), ())

section FileWorld

variable {α : Type} {path text : String} (d : Dialogue α)

theorem answer_fileWorld :
    ∀ x ∈ d.transcript (fileWorld path text) (),
      x.answer = ((fileWorld path text).answer x.query ()).1 :=
  Dialogue.forall_mem_transcript (fun _ _ => rfl) d ()

theorem there_fileWorld {there : Bool}
    (h : ⟨.fileExists path, there⟩ ∈ d.transcript (fileWorld path text) ()) : there = true :=
  (answer_fileWorld d _ h).trans (decide_eq_true rfl)

theorem read_fileWorld {found : Except FileError String}
    (h : ⟨.readFile path, found⟩ ∈ d.transcript (fileWorld path text) ()) : found = .ok text :=
  (answer_fileWorld d _ h).trans (if_pos rfl)

theorem inRange_fileWorld (htext : (text.length : Int) < int64Limit) :
    InRange (d.transcript (fileWorld path text) ()) := by
  constructor
  · intro now hnow
    obtain ⟨⟨q, answer⟩, hx, hlook⟩ := List.mem_filterMap.1 hnow
    have hanswer := answer_fileWorld d _ hx
    cases q <;> cases hlook
    cases hanswer
    decide
  · intro s hs
    obtain ⟨⟨q, answer⟩, hx, hread⟩ := List.mem_filterMap.1 hs
    have hanswer := answer_fileWorld d _ hx
    cases q with
    | exchange request =>
      cases hanswer
      cases hread
    | readFile p =>
      by_cases hp : p = path
      · have hfound : answer = .ok text := hanswer.trans (if_pos hp)
        cases hfound
        cases hread
        exact htext
      · have hfound : answer = .error .missing := hanswer.trans (if_neg hp)
        cases hfound
        cases hread
    | _ => cases hread

end FileWorld

/-- A state file with one order of ten pieces at a price. -/
def stateText (price : String) : String :=
  "\x7b\"orders\":[\x7b\"external_id\":\"1\",\"marketplace\":\"etsy\",\"status\":\"paid\"," ++
    "\"total\":1,\"customer_name\":\"\",\"delivery_address\":\"\",\"delivery_city\":\"\"," ++
    "\"items\":[\x7b\"external_id\":\"1\",\"name\":\"\",\"quantity\":10,\"price\":" ++ price ++
    "\x7d],\"created_at\":\"1970-01-01T00:00:00Z\"\x7d]\x7d"

/-- What such a file holds. -/
def stateSnapshot (price : Binary64) : Snapshot where
  orders :=
    [{ externalId := "1", marketplace := .etsy, status := "paid", total := .ofNat 1
       customerName := "", deliveryAddress := "", deliveryCity := ""
       items := [{ externalId := "1", name := "", quantity := 10, price }]
       createdAt := .epoch }]

/-- A command line that only looks at the history, with a state file. -/
def historyArguments : List String := ["--state", "state.json", "history"]

/-- The text that is written to a file. -/
def textTo? (path : String) : Query → Option String
  | .writeFile p content => if p = path then some content else none
  | _ => none

theorem exists_mem_of_textTo? {path : String} {queries : List Query}
    (h : (queries.findSome? (textTo? path)).isSome) :
    ∃ content, .writeFile path content ∈ queries := by
  obtain ⟨content, hcontent⟩ := Option.isSome_iff_exists.1 h
  obtain ⟨q, hq, htext⟩ := List.exists_of_findSome?_eq_some hcontent
  cases q with
  | writeFile p written =>
    rw [textTo?] at htext
    split at htext
    next hp =>
      subst hp
      exact ⟨written, hq⟩
    next => cases htext
  | _ => cases htext

/-- An order whose line totals are finite is written back and read again. -/
theorem accepted_written_half :
    ∃ content,
      .writeFile "state.json" content ∈ (execute historyArguments (fun _ => none) 0).queries
        (fileWorld "state.json" (stateText "0.5")) () ∧
      (Decoder.decode? Snapshot.decoder content).isSome := by
  set run := execute historyArguments (fun _ => none) 0 with hrun
  set world := fileWorld "state.json" (stateText "0.5") with hworld
  set snapshot := stateSnapshot (.ofNat 1 / .ofNat 2) with hsnapshot
  have htext : Decoder.decode? Snapshot.decoder (stateText "0.5") = some snapshot := by
    decide +kernel
  have hlength : ((stateText "0.5").length : Int) < int64Limit := by decide +kernel
  have htotals : ∀ order ∈ (OrderBook.ofList snapshot.orders).toList, order.HasTotals := by
    decide +kernel
  have hwrites : ((run.queries world ()).findSome? (textTo? "state.json")).isSome := by
    decide +kernel
  obtain ⟨content, hwritten⟩ := exists_mem_of_textTo? hwrites
  refine ⟨content, hwritten, ?_⟩
  rw [← Dialogue.map_query_transcript] at hwritten
  exact (accepted_written_iff (Dialogue.gives_transcript world run ())
    (inRange_fileWorld run hlength) (fun _ => there_fileWorld run) (fun _ => read_fileWorld run)
    htext hwritten).2 htotals

/-- A price can be finite where the total of its line is not.  The total is written as nothing, and
then the next run fails. -/
theorem rejected_written_overflow :
    ∃ content,
      (Decoder.decode? Snapshot.decoder (stateText "1e308")).isSome ∧
      .writeFile "state.json" content ∈ (execute historyArguments (fun _ => none) 0).queries
        (fileWorld "state.json" (stateText "1e308")) () ∧
      Decoder.decode? Snapshot.decoder content = none ∧
      ∃ cause, ((execute historyArguments (fun _ => none) 0).run
        (fileWorld "state.json" content) ()).1 = .failed cause := by
  set run := execute historyArguments (fun _ => none) 0 with hrun
  set world := fileWorld "state.json" (stateText "1e308") with hworld
  set snapshot := stateSnapshot (.ofNat (10 ^ 308)) with hsnapshot
  have htext : Decoder.decode? Snapshot.decoder (stateText "1e308") = some snapshot := by
    decide +kernel
  have hlength : ((stateText "1e308").length : Int) < int64Limit := by decide +kernel
  have hinfinite : ¬∀ order ∈ (OrderBook.ofList snapshot.orders).toList, order.HasTotals := by
    decide +kernel
  have hwrites : ((run.queries world ()).findSome? (textTo? "state.json")).isSome := by
    decide +kernel
  have hinv : Invocation.ofArguments historyArguments =
      .ok { task := .history .etsy 20, statePath := some "state.json" } := by
    decide +kernel
  obtain ⟨content, hwritten⟩ := exists_mem_of_textTo? hwrites
  have hrejected : Decoder.decode? Snapshot.decoder content = none := by
    rw [← Dialogue.map_query_transcript] at hwritten
    obtain ⟨found, hfound, -⟩ := gives_execute hinv (Dialogue.gives_transcript world run ())
    have haccepted := isSome_decode?_of_gives_run hfound (inRange_fileWorld run hlength)
      (fun _ => there_fileWorld run) (fun _ => read_fileWorld run) htext hwritten
    exact Option.not_isSome_iff_eq_none.1 (mt haccepted.1 hinfinite)
  set next := fileWorld "state.json" content with hnext
  obtain ⟨found, hfound, hfailed⟩ := gives_execute hinv (Dialogue.gives_transcript next run ())
  obtain ⟨cause, hcause⟩ := error_of_rejected rfl (fun _ => there_fileWorld run)
    (fun _ => read_fileWorld run) hrejected hfound
  exact ⟨content, htext ▸ rfl, hwritten, hrejected, cause, hfailed cause hcause⟩

end ShopSync.Command
