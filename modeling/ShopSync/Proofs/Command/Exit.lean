import ShopSync.Command.Usage
import ShopSync.Proofs.Command.Printed
import ShopSync.Proofs.Command.State
import ShopSync.Proofs.FileTree
import ShopSync.Proofs.Server
import ShopSync.Proofs.Sync.Files

/-!
How a run ends.

A run first looks at what it was given: the configurations, the state file and the arguments of its
task.  What is wrong with them is found before the first request, and nothing was written then.  The
task itself does not fail; what a marketplace refuses becomes a part of its report.  So when there
is a report the store is written to the state file first, whatever the report says.
-/

namespace ShopSync

/-- Whether the query only finds out what time it is or what there is among the files. -/
def Query.looks : Query → Bool
  | .moment => true
  | .fileExists _ => true
  | .readFile _ => true
  | _ => false

theorem Query.writesFile_of_looks {q : Query} (h : q.looks = true) : q.writesFile = false := by
  cases q with
  | writeFile path content => cases h
  | _ => rfl

theorem Query.writesFile_of_concernsFile {q : Query} (h : q.concernsFile = false) :
    q.writesFile = false := by
  cases q with
  | writeFile path content => cases h
  | _ => rfl

theorem requestsOf_of_looks {queries : List Query} (h : ∀ q ∈ queries, q.looks = true) :
    requestsOf queries = [] := by
  refine List.filterMap_eq_nil_iff.2 fun q hq => ?_
  cases q with
  | exchange request => cases h _ hq
  | _ => rfl

/-! ### Registries -/

namespace Registry

variable {α : Type} [Marketplace α]

/-- There is an adapter for every marketplace. -/
def IsFull (registry : Registry α) : Prop := ∀ id, (registry.adapter? id).isSome

theorem isSome_register {registry : Registry α} {id : MarketplaceId} (adapter : α)
    (h : id = Marketplace.id adapter ∨ (registry.adapter? id).isSome) :
    ((registry.register adapter).adapter? id).isSome := by
  change (if id = Marketplace.id adapter then some adapter else registry.adapter? id).isSome
  split
  next => rfl
  next hid => exact h.resolve_left hid

theorem IsFull.register {registry : Registry α} (h : registry.IsFull) (adapter : α) :
    (registry.register adapter).IsFull := fun id => isSome_register adapter (.inr (h id))

/-- Where every step registers an adapter for its marketplace, all that were gone through have one
in the end. -/
theorem isSome_foldlM {ε : Type} {f : Registry α → MarketplaceId → Except ε (Registry α)}
    (hf : ∀ registry id after, f registry id = .ok after →
      ∃ adapter, Marketplace.id adapter = id ∧ after = registry.register adapter)
    {ids : List MarketplaceId} {registry built : Registry α}
    (h : ids.foldlM f registry = .ok built) {id : MarketplaceId}
    (hid : id ∈ ids ∨ (registry.adapter? id).isSome) : (built.adapter? id).isSome := by
  induction ids generalizing registry with
  | nil =>
    obtain rfl := Except.ok.inj h
    exact hid.resolve_left List.not_mem_nil
  | cons first rest ih =>
    rw [List.foldlM_cons] at h
    obtain ⟨next, hnext, hrest⟩ := bind_eq_ok_iff.1 h
    obtain ⟨adapter, hadapter, rfl⟩ := hf registry first next hnext
    refine ih hrest ?_
    rw [List.mem_cons] at hid
    rcases hid with (rfl | hmem) | hsome
    · exact .inr (isSome_register adapter (.inl hadapter.symm))
    · exact .inl hmem
    · exact .inr (isSome_register adapter (.inr hsome))

/-- A registry that is built has an adapter for every marketplace, configured or not. -/
theorem isFull_build {configs : List Config} {environment : Option (String → Option String)}
    {registry : Registry Etsy.Adapter} (h : build configs environment = .ok registry) :
    registry.IsFull := by
  have hmem (id : MarketplaceId) : id ∈ MarketplaceId.all := by
    cases id
    decide
  refine fun id => isSome_foldlM (fun registry id after hstep => ?_) h (.inl (hmem id))
  obtain ⟨found, -, hfound⟩ := bind_eq_ok_iff.1 hstep
  cases found with
  | none => exact ⟨blank id, rfl, (Except.ok.inj hfound).symm⟩
  | some config =>
    obtain ⟨adapter, -, hadapter⟩ := bind_eq_ok_iff.1 hfound
    exact ⟨adapter, rfl, (Except.ok.inj hadapter).symm⟩

theorem isFull_withTimeout {timeoutMs : UInt64} {registry changed : Registry Etsy.Adapter}
    (hfull : registry.IsFull) (h : Command.withTimeout timeoutMs registry = .ok changed) :
    changed.IsFull := by
  unfold Command.withTimeout at h
  generalize registry.adapters = adapters at h
  induction adapters generalizing registry with
  | nil => exact Except.ok.inj h ▸ hfull
  | cons a adapters ih =>
    rw [List.foldlM_cons] at h
    obtain ⟨next, hnext, hrest⟩ := bind_eq_ok_iff.1 h
    refine ih ?_ hrest
    split at hnext
    next config _ =>
      split at hnext
      · exact Except.ok.inj hnext ▸ hfull
      · obtain ⟨adapter, -, hadapter⟩ := bind_eq_ok_iff.1 hnext
        exact Except.ok.inj hadapter ▸ hfull.register adapter
    next => exact Except.ok.inj hnext ▸ hfull

end Registry

namespace Command

open Json (Decoder Tree)

/-! ### Looking -/

section Looking

variable {α β : Type} {p : α → Prop} {q : β → Prop}

/-- The step only looks.  It finds what has the property, or fails for another cause than a
marketplace. -/
def Finds (x : Run α) (p : α → Prop) : Prop :=
  ∀ ⦃t outcome⦄, x.run.Gives t outcome →
    (∀ y ∈ t, y.query.looks = true) ∧ IfOk p outcome ∧ ∀ e, outcome ≠ .error (.sync e)

theorem finds_pure {a : α} (h : p a) : Finds (pure a) p := by
  intro t outcome hgives
  obtain ⟨rfl, rfl⟩ := Dialogue.gives_pure_iff.1 hgives
  exact ⟨List.forall_mem_nil _, ifOk_ok h, nofun⟩

theorem finds_throw {cause : RunError} (h : ∀ e, cause ≠ .sync e) : Finds (throw cause) p := by
  intro t outcome hgives
  obtain ⟨rfl, rfl⟩ := Dialogue.gives_pure_iff.1 hgives
  exact ⟨List.forall_mem_nil _, ifOk_error, fun e he => h e (Except.error.inj he)⟩

/-- What may be refused for a cause of another kind. -/
theorem finds_mapError {ε : Type} {outcome : Except ε α} {kind : ε → RunError}
    (hok : IfOk p outcome) (hkind : ∀ c e, kind c ≠ .sync e) :
    Finds (ExceptT.mk (pure (outcome.mapError kind))) p := by
  cases outcome with
  | ok a => exact finds_pure (hok a rfl)
  | error c => exact finds_throw (hkind c)

theorem Finds.bind {x : Run α} {f : α → Run β} (hx : Finds x p) (hf : ∀ a, p a → Finds (f a) q) :
    Finds (x >>= f) q := by
  intro t outcome h
  rcases Dialogue.gives_run_bind h with ⟨e, hfailed, rfl⟩ | ⟨a, t₁, t₂, rfl, h₁, h₂⟩
  · obtain ⟨hlooks, -, herror⟩ := hx hfailed
    refine ⟨hlooks, ifOk_error, ?_⟩
    rintro cause ⟨⟩
    exact herror cause rfl
  · obtain ⟨hlooks₁, ha, -⟩ := hx h₁
    obtain ⟨hlooks₂, hend⟩ := hf a (ha a rfl) h₂
    exact ⟨List.forall_mem_append.2 ⟨hlooks₁, hlooks₂⟩, hend⟩

theorem finds_look {d : Dialogue α} (hd : d.Always fun q => q.looks = true) :
    Finds (liftM d) fun _ => True := by
  intro t outcome h
  obtain ⟨a, t₁, t₂, rfl, h₁, h₂⟩ := Dialogue.gives_bind_iff.1 h
  obtain ⟨rfl, rfl⟩ := Dialogue.gives_pure_iff.1 h₂
  rw [List.append_nil]
  exact ⟨hd.of_gives h₁, fun _ _ => trivial, nofun⟩

theorem finds_readJson (path expected : String) (d : Decoder α) :
    Finds (readJson path expected d) fun _ => True := by
  have hread : Finds (liftM (Dialogue.readFile path)) fun _ => True :=
    finds_look ⟨rfl, fun _ => trivial⟩
  refine hread.bind fun found _ => ?_
  cases found with
  | error e => exact finds_throw nofun
  | ok content =>
    dsimp only
    split
    · exact finds_pure trivial
    · exact finds_throw nofun

theorem finds_checks (products : List Product) :
    Finds (forIn products PUnit.unit fun product _ => do
      ExceptT.mk (pure (product.validate.mapError .validation))
      pure (ForInStep.yield PUnit.unit)) fun _ => True := by
  induction products with
  | nil => exact finds_pure trivial
  | cons product rest ih =>
    rw [List.forIn_cons]
    have hcheck : Finds (ExceptT.mk (pure (product.validate.mapError .validation)))
        fun _ => True :=
      finds_mapError (fun _ _ => trivial) fun _ _ h => by cases h
    have hstep := hcheck.bind (q := fun step => step = ForInStep.yield PUnit.unit)
      fun _ _ => finds_pure rfl
    refine hstep.bind ?_
    rintro _ rfl
    exact ih

theorem finds_loadProducts (path : String) : Finds (loadProducts path) fun _ => True :=
  (finds_readJson path _ _).bind fun products _ =>
    (finds_checks products).bind fun _ _ => finds_pure trivial

theorem finds_setUpRegistry (inv : Invocation) (environment : String → Option String) :
    Finds (setUpRegistry inv environment) Registry.IsFull := by
  have hbuild (configs : List Config) (source : Option (String → Option String)) :
      Finds (ExceptT.mk (pure ((Registry.build configs source).mapError .config)))
        Registry.IsFull :=
    finds_mapError (fun _ h => Registry.isFull_build h) fun _ _ h => by cases h
  unfold setUpRegistry
  dsimp only
  split
  case' h_1 path _ => refine (finds_readJson path _ _).bind fun configs _ => ?_
  case' h_2 => refine (finds_pure (p := fun _ => True) trivial).bind fun configs _ => ?_
  all_goals
    refine (hbuild configs _).bind fun registry hfull => ?_
    cases inv.timeoutMs with
    | none => exact finds_pure hfull
    | some timeoutMs =>
      exact finds_mapError (fun _ h => Registry.isFull_withTimeout hfull h) fun _ _ h => by cases h

theorem finds_setUpStore (inv : Invocation) : Finds (setUpStore inv) fun _ => True := by
  unfold setUpStore
  cases inv.statePath with
  | none => exact finds_pure trivial
  | some path =>
    have hexists : Finds (liftM (Dialogue.fileExists path)) fun _ => True :=
      finds_look ⟨rfl, fun _ => trivial⟩
    refine hexists.bind fun there _ => ?_
    split
    · exact (finds_readJson path _ _).bind fun _ _ => finds_pure trivial
    · exact finds_pure trivial

end Looking

/-! ### Tasks -/

theorem RunError.exitCode_of_ne_sync {cause : RunError} (h : ∀ e, cause ≠ .sync e) :
    cause.exitCode = 2 ∨ cause.exitCode = 10 := by
  cases cause with
  | sync e => exact absurd rfl (h e)
  | validation => exact .inl rfl
  | config => exact .inl rfl
  | decode => exact .inl rfl
  | input => exact .inr rfl
  | output => exact .inr rfl

section Tasks

variable {α β : Type}

/-- No file was written.  If it failed, that was not for a marketplace, and it had only looked. -/
structure EndsWell (t : List Answered) (outcome : Except RunError α) : Prop where
  unwritten : ∀ x ∈ t, x.query.writesFile = false
  early : ∀ cause, outcome = .error cause →
    (∀ e, cause ≠ .sync e) ∧ ∀ x ∈ t, x.query.looks = true

/-- Who only looked and failed for no marketplace has ended well. -/
theorem endsWell_of_looks {t : List Answered} {outcome : Except RunError α}
    (hlooks : ∀ x ∈ t, x.query.looks = true) (hcause : ∀ e, outcome ≠ .error (.sync e)) :
    EndsWell t outcome where
  unwritten x hx := Query.writesFile_of_looks (hlooks x hx)
  early _ h := ⟨fun e he => hcause e (h.trans (congrArg Except.error he)), hlooks⟩

theorem EndsWell.append_looks {t t' : List Answered} {outcome : Except RunError α}
    (h : EndsWell t' outcome) (hlooks : ∀ x ∈ t, x.query.looks = true) :
    EndsWell (t ++ t') outcome where
  unwritten :=
    List.forall_mem_append.2 ⟨fun x hx => Query.writesFile_of_looks (hlooks x hx), h.unwritten⟩
  early cause hfailed :=
    ⟨(h.early cause hfailed).1, List.forall_mem_append.2 ⟨hlooks, (h.early cause hfailed).2⟩⟩

/-- Who finds something first and goes on well with it ends well. -/
theorem Finds.endsWell_bind {x : Run α} {p : α → Prop} {f : α → Run β} (hx : Finds x p)
    (hf : ∀ a, p a → ∀ ⦃t outcome⦄, (f a).run.Gives t outcome → EndsWell t outcome)
    {t : List Answered} {outcome : Except RunError β} (h : (x >>= f).run.Gives t outcome) :
    EndsWell t outcome := by
  rcases Dialogue.gives_run_bind h with ⟨cause, hfailed, rfl⟩ | ⟨a, t₁, t₂, rfl, h₁, h₂⟩
  · obtain ⟨hlooks, -, herror⟩ := hx hfailed
    exact endsWell_of_looks hlooks fun e he => herror e (by rw [Except.error.inj he])
  · obtain ⟨hlooks, hok, -⟩ := hx h₁
    exact (hf a (hok a rfl) h₂).append_looks hlooks

/-- With an adapter for every marketplace the step of a task ends well, whatever the answers are. -/
def Settles (x : TaskM α) : Prop :=
  ∀ ⦃service : CommandService⦄, service.registry.IsFull → ∀ ⦃t outcome after⦄,
    (x.run.run service).Gives t (outcome, after) → EndsWell t outcome

/-- With an adapter for every marketplace, the step of a task asks for no file and does not fail. -/
def Succeeds (x : TaskM α) : Prop :=
  ∀ ⦃service : CommandService⦄, service.registry.IsFull → ∀ ⦃t outcome after⦄,
    (x.run.run service).Gives t (outcome, after) →
      (∀ y ∈ t, y.query.concernsFile = false) ∧ ∃ a, outcome = .ok a

theorem Succeeds.settles {x : TaskM α} (h : Succeeds x) : Settles x := by
  intro service hfull t outcome after hgives
  obtain ⟨hfiles, a, rfl⟩ := h hfull hgives
  exact ⟨fun y hy => Query.writesFile_of_concernsFile (hfiles y hy), nofun⟩

theorem succeeds_lift {step : ServiceM Etsy.Adapter MemoryStore α} (h : step.LeavesFiles) :
    Succeeds (ExceptT.lift step) := by
  intro service _ t outcome after hgives
  obtain ⟨⟨a, next⟩, t₁, t₂, rfl, h₁, h₂⟩ := Dialogue.gives_bind_iff.1 hgives
  obtain ⟨rfl, heq⟩ := Dialogue.gives_pure_iff.1 h₂
  cases heq
  rw [List.append_nil]
  exact ⟨(h service).of_gives h₁, a, rfl⟩

theorem Succeeds.report {x : TaskM α} (h : Succeeds x) (report : α → β) :
    Succeeds (x >>= fun a => pure (report a)) := by
  intro service hfull t outcome after hgives
  rw [ExceptT.run_bind, StateT.run_bind] at hgives
  obtain ⟨⟨first, next⟩, t₁, t₂, rfl, h₁, h₂⟩ := Dialogue.gives_bind_iff.1 hgives
  obtain ⟨hfiles, a, rfl⟩ := h hfull h₁
  obtain ⟨rfl, heq⟩ := Dialogue.gives_pure_iff.1 h₂
  cases heq
  rw [List.append_nil]
  exact ⟨hfiles, report a, rfl⟩

theorem succeeds_alone {id : MarketplaceId} {operation : Operation Etsy.Adapter MemoryStore α}
    (h : operation.LeavesFiles) : Succeeds (alone id operation) :=
  (succeeds_lift h).report fun outcome => [(id, outcome)]

theorem succeeds_onChosen {chosen : Option MarketplaceId}
    {one : MarketplaceId → Operation Etsy.Adapter MemoryStore α}
    {f : Etsy.Adapter → Operation Etsy.Adapter MemoryStore α}
    (hone : ∀ id, (one id).LeavesFiles) (hall : ∀ adapter, (f adapter).LeavesFiles) :
    Succeeds (onChosen chosen one (Service.forActive f)) := by
  cases chosen with
  | some id => exact succeeds_alone (hone id)
  | none => exact succeeds_lift (ServiceM.leavesFiles_forActive hall)

theorem succeeds_whole {operation : Operation Etsy.Adapter MemoryStore α}
    (h : ∀ service : CommandService, service.registry.IsFull →
      ∃ found, operation.on service = pure (.ok found, service)) : Succeeds (whole operation) := by
  intro service hfull t outcome after hgives
  obtain ⟨found, hfound⟩ := h service hfull
  have hrun : (whole operation).run.run service = pure (.ok found, service) := by
    change (operation.on service >>= fun (outcome, after) =>
      pure (outcome.mapError RunError.sync, after)) = _
    rw [hfound]
    rfl
  rw [hrun] at hgives
  obtain ⟨rfl, heq⟩ := Dialogue.gives_pure_iff.1 hgives
  cases heq
  exact ⟨List.forall_mem_nil _, found, rfl⟩

/-- Who finds something first may go on with it. -/
theorem settles_find_bind {x : Run α} {p : α → Prop} {f : α → TaskM β} (hx : Finds x p)
    (hf : ∀ a, p a → Settles (f a)) : Settles (ExceptT.mk (StateT.lift x.run) >>= f) := by
  intro service hfull t outcome after hgives
  rw [ExceptT.run_bind, StateT.run_bind] at hgives
  obtain ⟨⟨found, next⟩, t₁, t₂, rfl, hfirst, h₂⟩ := Dialogue.gives_bind_iff.1 hgives
  obtain ⟨_, t₁, t₀, rfl, h₁, h₀⟩ := Dialogue.gives_bind_iff.1 hfirst
  obtain ⟨rfl, heq⟩ := Dialogue.gives_pure_iff.1 h₀
  cases heq
  rw [List.append_nil]
  obtain ⟨hlooks, hok, herror⟩ := hx h₁
  cases found with
  | error cause =>
    obtain ⟨rfl, heq⟩ := Dialogue.gives_pure_iff.1 h₂
    cases heq
    rw [List.append_nil]
    exact endsWell_of_looks hlooks fun e he => herror e (by rw [Except.error.inj he])
  | ok a => exact (hf a (hok a rfl) hfull h₂).append_looks hlooks

theorem settles_valid_bind {x : Except ValidationError α} {f : α → TaskM β}
    (hf : ∀ a, Settles (f a)) : Settles (valid x >>= f) := by
  have hfinds : Finds (ExceptT.mk (pure (x.mapError .validation))) fun _ => True :=
    finds_mapError (fun _ _ => trivial) fun _ _ h => by cases h
  exact settles_find_bind hfinds fun a _ => hf a

open Service in
/-- Every task ends well. -/
theorem settles_carryOut (signal : Signal) (task : Task) : Settles (carryOut signal task) := by
  cases task with
  | status =>
    exact ((succeeds_whole fun service _ => on_status service).report _).settles
  | exportProducts path chosen =>
    refine settles_find_bind (finds_loadProducts path) fun products _ => ?_
    have hexport (id : MarketplaceId) :
        (exportProducts id products signal : Operation Etsy.Adapter MemoryStore _).LeavesFiles :=
      leavesFiles_exportProducts id products signal
    exact ((succeeds_onChosen hexport fun a => hexport (Marketplace.id a)).report _).settles
  | importOrders since chosen =>
    have himport (since : Option Timestamp) : Settles (do
        let outcomes ← onChosen chosen (fun id => importOrders id since signal)
          (forActive fun adapter => importOrders (Marketplace.id adapter) since signal)
        pure ((Report.ofFanOut OrderImport.toJson outcomes).withWarnings
          (warningsAbout importWarning? outcomes)) : TaskM Report) := by
      have hone (id : MarketplaceId) :
          (importOrders id since signal : Operation Etsy.Adapter MemoryStore _).LeavesFiles :=
        leavesFiles_importOrders id since signal
      exact ((succeeds_onChosen hone fun a => hone (Marketplace.id a)).report _).settles
    cases since with
    | none => exact himport none
    | some text => exact settles_valid_bind fun start => himport (some start)
  | stock sku quantity chosen =>
    refine settles_valid_bind fun sku => ?_
    refine ((succeeds_onChosen (fun id => ?_) fun a => ?_).report _).settles
    · exact leavesFiles_ready_call id (.updateStock sku quantity)
    · exact Operation.leavesFiles_ofAttempt (a.leavesFiles_attempt (.updateStock sku quantity))
  | price sku price chosen =>
    refine settles_valid_bind fun sku => ?_
    refine ((succeeds_onChosen (fun id => ?_) fun a => ?_).report _).settles
    · exact leavesFiles_ready_call id (.updatePrice sku price)
    · exact Operation.leavesFiles_ofAttempt (a.leavesFiles_attempt (.updatePrice sku _))
  | delete sku id =>
    refine settles_valid_bind fun sku => ?_
    exact ((succeeds_alone (leavesFiles_ready_call id (.deleteProduct sku))).report _).settles
  | categories id => exact ((succeeds_alone (leavesFiles_categories id)).report _).settles
  | ship orderId carrier trackingCode id =>
    exact ((succeeds_alone (leavesFiles_markAsShipped id orderId _)).report _).settles
  | orderStatus orderId status id =>
    exact ((succeeds_alone (leavesFiles_updateOrderStatus id orderId status)).report _).settles
  | history id limit =>
    exact ((succeeds_whole fun service hfull =>
      on_history service (hfull id) limit).report _).settles

end Tasks

/-! ### Stages of a run -/

/-- What there is when the task of a run is done. -/
structure Work where
  start : Moment
  report : Report
  store : MemoryStore

namespace Invocation

/-- The first stage of a run: the service is set up and the task carried out. -/
def work (inv : Invocation) (environment : String → Option String) (token : Nat) : Run Work := do
  let start ← Dialogue.moment
  let registry ← setUpRegistry inv environment
  let store ← setUpStore inv
  let service : CommandService := { registry, store }
  let (outcome, service) ← (carryOut (inv.signal token start) inv.task).run.run service
  let report ← ExceptT.mk (pure outcome)
  pure { start, report, store := service.store }

/-- The last stage of a run: the store is written to the state file, and then there is a report. -/
def conclude (inv : Invocation) (work : Work) : Run Envelope := do
  persist inv work.store
  let requestId ← Dialogue.freshId
  let now ← Dialogue.moment
  pure
    { requestId
      command := inv.task.name
      generatedAt := now.wall
      latencyMs := now.uptime - work.start.uptime
      report := work.report }

variable {inv : Invocation} {environment : String → Option String} {token : Nat}

theorem run_eq_work_bind :
    inv.run environment token = inv.work environment token >>= inv.conclude := by
  simp only [run, work, bind_assoc, pure_bind]
  rfl

/-- The first stage ends well, whatever the answers are. -/
theorem endsWell_work {t : List Answered} {outcome : Except RunError Work}
    (h : (inv.work environment token).run.Gives t outcome) : EndsWell t outcome := by
  have hmoment : Finds (liftM Dialogue.moment) fun _ => True := finds_look ⟨rfl, fun _ => trivial⟩
  refine hmoment.endsWell_bind (fun start _ t outcome h => ?_) h
  have hregistry := finds_setUpRegistry inv environment
  refine hregistry.endsWell_bind (fun registry hfull t outcome h => ?_) h
  refine (finds_setUpStore inv).endsWell_bind (fun store _ t outcome h => ?_) h
  dsimp only at h
  rw [Dialogue.run_liftM_bind] at h
  obtain ⟨⟨result, service⟩, t₁, t₂, rfl, h₁, h₂⟩ := Dialogue.gives_bind_iff.1 h
  -- behind the task nothing more is asked
  have hresult := settles_carryOut (inv.signal token start) inv.task hfull h₁
  cases result with
  | error cause =>
    obtain ⟨rfl, rfl⟩ := Dialogue.gives_pure_iff.1 h₂
    rw [List.append_nil]
    refine ⟨hresult.unwritten, ?_⟩
    rintro _ ⟨⟩
    exact hresult.early cause rfl
  | ok report =>
    obtain ⟨rfl, rfl⟩ := Dialogue.gives_pure_iff.1 h₂
    rw [List.append_nil]
    exact ⟨hresult.unwritten, nofun⟩

theorem hasNumerals_work {t : List Answered} {work : Work}
    (h : (inv.work environment token).run.Gives t (.ok work)) :
    work.report.data.HasNumerals := by
  unfold Invocation.work at h
  rw [Dialogue.run_liftM_bind] at h
  obtain ⟨start, t₀, rfl, hstart⟩ := Dialogue.gives_moment_bind_iff.1 h
  rcases Dialogue.gives_run_bind hstart with ⟨e, -, hfailed⟩ | ⟨registry, _, t₁, rfl, -, h₁⟩
  · cases hfailed
  rcases Dialogue.gives_run_bind h₁ with ⟨e, -, hfailed⟩ | ⟨store, _, t₂, rfl, -, h₂⟩
  · cases hfailed
  rw [Dialogue.run_liftM_bind] at h₂
  obtain ⟨⟨result, service⟩, t₃, t₄, rfl, h₃, h₄⟩ := Dialogue.gives_bind_iff.1 h₂
  cases result with
  | error cause =>
    obtain ⟨-, habsurd⟩ := Dialogue.gives_pure_iff.1 h₄
    cases habsurd
  | ok report =>
    obtain ⟨-, heq⟩ := Dialogue.gives_pure_iff.1 h₄
    cases heq
    exact reportsNumerals_carryOut _ _ h₃

section WithFiles

variable {φ σ : Type} {outside : World σ} {system : FileSystem φ} {files after : φ} {s s' : σ}

/-- In the end the state file, where there is one, was written with the store and holds it, and
there is no other change to the files. -/
def Saves (inv : Invocation) (system : FileSystem φ) (store : MemoryStore) (files after : φ) :
    Prop :=
  match inv.statePath with
  | none => after = files
  | some path =>
    system.write files path store.snapshot.toJson.renderIndented = .ok after ∧
      system.read after path = .ok store.snapshot.toJson.renderIndented

theorem run_persist {store : MemoryStore} {outcome : Except RunError Unit}
    (h : (persist inv store).run.run (outside.withFiles system) (files, s) = (outcome, after, s')) :
    (outcome = .ok () ∧ inv.Saves system store files after) ∨
      ∃ e, outcome = .error (.output e) := by
  unfold Saves
  unfold persist at h
  cases hpath : inv.statePath with
  | none =>
    rw [hpath] at h
    cases h
    exact .inl ⟨rfl, rfl⟩
  | some path =>
    rw [hpath] at h
    dsimp only at h ⊢
    rw [Dialogue.run_liftM_bind, Dialogue.run_bind] at h
    cases hwrite : system.write files path store.snapshot.toJson.renderIndented with
    | ok written =>
      have hanswer : (Dialogue.writeFile path store.snapshot.toJson.renderIndented).run
          (outside.withFiles system) (files, s) = (.ok (), written, s) := by
        simp [Dialogue.writeFile, Dialogue.run, World.withFiles, hwrite]
      rw [hanswer] at h
      cases h
      exact .inl ⟨rfl, rfl, system.read_of_write hwrite⟩
    | error e =>
      have hanswer : (Dialogue.writeFile path store.snapshot.toJson.renderIndented).run
          (outside.withFiles system) (files, s) = (.error e, files, s) := by
        simp [Dialogue.writeFile, Dialogue.run, World.withFiles, hwrite]
      rw [hanswer] at h
      cases h
      exact .inr ⟨e, rfl⟩

/-- A report is printed when the store was saved, and only then. -/
theorem run_conclude {work : Work} {outcome : Except RunError Envelope}
    (h : (inv.conclude work).run.run (outside.withFiles system) (files, s) = (outcome, after, s')) :
    (∃ envelope, outcome = .ok envelope ∧ envelope.command = inv.task.name ∧
      envelope.report = work.report ∧ inv.Saves system work.store files after) ∨
      ∃ e, outcome = .error (.output e) := by
  unfold conclude at h
  rw [Dialogue.run_run_bind] at h
  rcases hpersist : (persist inv work.store).run.run (outside.withFiles system) (files, s) with
    ⟨written, between, next⟩
  rw [hpersist] at h
  rcases run_persist hpersist with ⟨rfl, hsaves⟩ | ⟨e, rfl⟩
  · cases h
    exact .inl ⟨_, rfl, rfl, rfl, hsaves⟩
  · cases h
    exact .inr ⟨e, rfl⟩

/-- How a run ends: its first stage failed, after nothing but looks; or the state file cannot be
written; or there is a report, and the store is saved. -/
theorem run_cases {outcome : Except RunError Envelope}
    (h : (inv.run environment token).run.run (outside.withFiles system) (files, s) =
      (outcome, after, s')) :
    (∃ cause, outcome = .error cause ∧ (∀ e, cause ≠ .sync e) ∧ after = files ∧
      ∀ q ∈ (inv.run environment token).run.queries (outside.withFiles system) (files, s),
        q.looks = true) ∨
    (∃ e, outcome = .error (.output e)) ∨
    ∃ work rest envelope,
      (inv.work environment token).run.run (outside.withFiles system) (files, s) =
        (.ok work, files, rest) ∧
      outcome = .ok envelope ∧ envelope.command = inv.task.name ∧
      envelope.report = work.report ∧ inv.Saves system work.store files after := by
  set first := (inv.work environment token).run with hfirst
  have hgives := Dialogue.gives_transcript (outside.withFiles system) first (files, s)
  have hends := endsWell_work hgives
  have hfiles := Dialogue.files_run_withFiles
    (Dialogue.forall_mem_queries_iff.2 hends.unwritten)
  rcases hwork : first.run (outside.withFiles system) (files, s) with ⟨result, between, rest⟩
  rw [hwork] at hends hfiles
  obtain rfl : between = files := hfiles
  rw [run_eq_work_bind] at h ⊢
  rw [Dialogue.run_run_bind, ← hfirst, hwork] at h
  cases result with
  | error cause =>
    cases h
    obtain ⟨hcause, hlooks⟩ := hends.early cause rfl
    refine .inl ⟨cause, rfl, hcause, rfl, ?_⟩
    rw [ExceptT.run_bind, Dialogue.queries_bind, ← hfirst, hwork]
    exact List.forall_mem_append.2
      ⟨Dialogue.forall_mem_queries_iff.2 hlooks, List.forall_mem_nil _⟩
  | ok work =>
    rcases run_conclude h with ⟨envelope, rfl, hcommand, hreport, hsaves⟩ | hfailed
    · exact .inr (.inr ⟨work, rest, envelope, rfl, rfl, hcommand, hreport, hsaves⟩)
    · exact .inr (.inl hfailed)

end WithFiles

/-- How the program ends with what comes of an invocation. -/
def outcome (inv : Invocation) : Except RunError Envelope → Outcome
  | .error cause => .failed cause
  | .ok envelope => .reported inv.pretty envelope

/-- The program carries out the invocation that its arguments spell. -/
theorem execute_eq {args : List String} (hinv : ofArguments args = .ok inv) :
    execute args environment token = inv.outcome <$> (inv.run environment token).run := by
  unfold execute
  rw [hinv, map_eq_pure_bind]
  refine bind_congr fun found => ?_
  cases found with
  | error cause => rfl
  | ok envelope => rfl

end Invocation

theorem Outcome.exitCode_reported (pretty : Bool) (envelope : Envelope) :
    (reported pretty envelope).exitCode = if envelope.report.errors = [] then 0 else 3 := by
  change (if envelope.report.errors.isEmpty = true then 0 else 3) = _
  simp only [List.isEmpty_iff]

/-- A command line with a SKU that is none. -/
def refusedArguments : List String := ["stock", "", "3"]

/-- A command line about a marketplace that needs credentials, with a state file. -/
def stockArguments : List String :=
  ["--state", "state.json", "stock", "MUG-01", "3", "--marketplace", "etsy"]

end Command

end ShopSync
