import ShopSync.Command.Run
import ShopSync.Proofs.Currency
import ShopSync.Proofs.Etsy.Export
import ShopSync.Proofs.Etsy.Pacing
import ShopSync.Proofs.Etsy.Refusal
import ShopSync.Proofs.FileTree
import ShopSync.Proofs.Sync.Operation

/-!
Configurations in force.

An adapter takes a configuration only after it was checked, and there is no other way to come by
one: when a registry is built, when the service is given a configuration and when the time limit of
an invocation replaces that of a configuration.  So whatever was tried, each adapter has no
configuration or a valid one of its own, and one that was refused leaves the last one in force
(`reached_in_force`).  What is checked once is what every later use relies on: requests have a time
limit, a budget is one, and a price is never refused for its currency (`Etsy.Adapter.Obeys`).
-/

namespace ShopSync

theorem Config.validate_eq_ok_iff {config : Config} :
    config.validate = .ok () ↔
      (∃ code, parseCurrency config.currencyCode = .ok code) ∧ config.hasValidMarkup = true ∧
        config.timeoutMs ≠ 0 ∧ config.requestsPerSecond ≠ some 0 := by
  unfold validate
  cases hcode : parseCurrency config.currencyCode with
  | error e => exact iff_of_false nofun fun h => nomatch h.1
  | ok code =>
    cases hmarkup : config.hasValidMarkup with
    | false => exact iff_of_false nofun fun h => nomatch h.2.1
    | true =>
      by_cases htimeout : config.timeoutMs = 0
      · rw [if_pos htimeout]
        exact iff_of_false nofun fun h => h.2.2.1 htimeout
      · by_cases hbudget : config.requestsPerSecond = some 0
        · rw [if_neg htimeout, if_pos hbudget]
          exact iff_of_false nofun fun h => h.2.2.2 hbudget
        · rw [if_neg htimeout, if_neg hbudget]
          exact iff_of_true rfl ⟨⟨code, rfl⟩, rfl, htimeout, hbudget⟩

namespace Etsy.Adapter

/-- The adapter has no configuration, or a valid one for its own marketplace. -/
def HasValidConfig (adapter : Adapter) : Prop :=
  adapter.config = none ∨ ∃ config, adapter.config = some config ∧ config.validate = .ok () ∧
    config.marketplace = Marketplace.id adapter

/-- What an adapter does with its configuration: every request has a time limit, every request waits
for the budget when there is one, and the prices of its sessions are refused only when they are
none, whatever the currency, which is sent as three capital letters. -/
structure Obeys (adapter : Adapter) (config : Config) : Prop where
  timeout {σ : Type} (world : World σ) (call : MarketCall) (s : σ) :
    ∀ request ∈ requestsOf ((call.attempt adapter).run.queries world s), request.timeoutMs ≠ 0
  budget : config.requestsPerSecond ≠ some 0
  isPaced {σ : Type} (world : World σ) (call : MarketCall) (s : σ) :
    IsPaced config.requestsPerSecond ((call.attempt adapter).run.queries world s)
  session : ∀ session, adapter.session = .ok session → session.config = config
  price (price : Number.Binary64) :
    (∃ money, sentPrice price config.currencyCode = .ok money) ↔ IsPrice price
  refused {price : Number.Binary64} {e : MarketError}
    (h : sentPrice price config.currencyCode = .error e) :
    e = .invalidRequest (priceFault price).message
  code {price : Number.Binary64} {money : Money}
    (h : sentPrice price config.currencyCode = .ok money) :
    money.currencyCode.toList = (Text.strip config.currencyCode.toList).map Char.toUpper ∧
      IsCurrencyCode money.currencyCode

/-! ### Adapters -/

section Adapter

variable {adapter adapter' : Adapter} {config : Config}

theorem hasValidConfig_of_configure (h : adapter.configure config = .ok adapter') :
    adapter'.config = some config ∧ adapter'.HasValidConfig := by
  obtain ⟨hvalid, rfl⟩ := valid_of_configure h
  refine ⟨rfl, .inr ⟨config, rfl, hvalid, ?_⟩⟩
  by_contra hother
  rw [configure, if_pos hother] at h
  cases h

/-- Every request has a time limit when the configuration has one. -/
theorem timeout_ne_zero {σ : Type} (world : World σ) (hconfig : adapter.config = some config)
    (htimeout : config.timeoutMs ≠ 0) (call : MarketCall) (s : σ) :
    ∀ request ∈ requestsOf ((call.attempt adapter).run.queries world s),
      request.timeoutMs ≠ 0 := by
  have hasks : (call.attempt adapter).Asks fun q =>
      ∀ request, q.request? = some request → request.timeoutMs ≠ 0 := by
    refine asks_attempt (fun session hsession q hmay request hrequest => ?_) call
    obtain rfl := ofConfig_eq_of_session hconfig hsession
    cases q <;> cases hrequest
    rw [hmay.signs.timeout]
    exact htimeout
  exact hasks.forall_mem_requestsOf world s

theorem obeys_of_valid (hconfig : adapter.config = some config)
    (hvalid : config.validate = .ok ()) : adapter.Obeys config := by
  obtain ⟨⟨code, hcode⟩, -, htimeout, hbudget⟩ := Config.validate_eq_ok_iff.1 hvalid
  have hsent {price : Number.Binary64} (h : IsPrice price) :
      ∃ money, sentPrice price config.currencyCode = .ok money ∧ money.currencyCode = code :=
    ⟨_, ListingFields.sentPrice_eq h.1 h.2 hcode, rfl⟩
  refine
    { timeout world call s := timeout_ne_zero world hconfig htimeout call s
      budget := hbudget
      isPaced world call s := attempt_isPaced world hconfig hbudget call s
      session session h := ofConfig_eq_of_session hconfig h ▸ rfl
      price price := ⟨fun ⟨money, h⟩ => ?price, fun h => (hsent h).imp fun _ h => h.1⟩
      refused {price e} h := ?refused
      code {price money} h := ?code }
  case price =>
    by_contra hno
    rw [sentPrice_of_not_isPrice hno] at h
    cases h
  case refused =>
    by_cases hprice : IsPrice price
    · obtain ⟨money, hmoney, -⟩ := hsent hprice
      rw [hmoney] at h
      cases h
    · rw [sentPrice_of_not_isPrice hprice] at h
      exact (Except.error.inj h).symm
  case code =>
    by_cases hprice : IsPrice price
    · obtain ⟨money', hmoney, rfl⟩ := hsent hprice
      obtain rfl := Except.ok.inj (hmoney.symm.trans h)
      exact parseCurrency_eq_ok_iff.1 hcode
    · rw [sentPrice_of_not_isPrice hprice] at h
      cases h

end Adapter

end Etsy.Adapter

/-! ### Giving a configuration -/

/-- A configuration goes to the adapter of its marketplace, which takes the place of the last one
when it accepts; otherwise the service stays as it is. -/
theorem Service.on_configure {α τ : Type} [Marketplace α] (config : Config)
    (service : Service α τ) :
    (configure config).on service =
      match service.registry.find config.marketplace with
      | .error e => pure (.error (.market e), service)
      | .ok old =>
        match Marketplace.configure old config with
        | .error e => pure (.error (.config e), service)
        | .ok new => pure (.ok (),
            { service with
              registry := service.registry.register new
              feeds := Keyed.erase (Marketplace.id new) service.feeds }) := by
  have hadapter : (adapter config.marketplace : Operation α τ α).on service =
      pure ((service.registry.find config.marketplace).mapError .market, service) := by
    rw [adapter, Operation.on_get_bind, Operation.on_ofMarket]
  rw [configure, Operation.on_bind, hadapter, pure_bind]
  cases service.registry.find config.marketplace with
  | error e => rfl
  | ok old =>
    dsimp only [Except.mapError]
    rw [Operation.on_bind]
    cases Marketplace.configure old config with
    | error e => rfl
    | ok new => rfl

/-! ### Adapters in use -/

namespace Registry

open Etsy (Adapter)

/-- Every adapter has no configuration, or a valid one of its own. -/
def IsValid (registry : Registry Adapter) : Prop :=
  ∀ id adapter, registry.adapter? id = some adapter → adapter.HasValidConfig

/-- What can happen to the adapters in use: the service is given a configuration, which it accepts
or refuses, or they get another time limit. -/
inductive Step : Registry Adapter → Registry Adapter → Prop
  | configure {τ : Type} {service after : Service Adapter τ} {config : Config}
      {t : List Answered} {outcome : Except SyncError Unit}
      (h : ((Service.configure config).on service).Gives t (outcome, after)) :
      Step service.registry after.registry
  | limit {timeoutMs : UInt64} {registry changed : Registry Adapter}
      (h : Command.withTimeout timeoutMs registry = .ok changed) : Step registry changed

/-- The adapters that may be in use: those of a registry that was built, after whatever happened to
them since. -/
def Reached (registry : Registry Adapter) : Prop :=
  ∃ configs environment built, build configs environment = .ok built ∧
    Relation.ReflTransGen Step built registry

section Steps

variable {registry registry' : Registry Adapter} {adapter : Adapter}

theorem isValid_empty : IsValid empty := fun _ _ => nofun

theorem IsValid.register (h : registry.IsValid) (hadapter : adapter.HasValidConfig) :
    (registry.register adapter).IsValid := by
  intro id other hother
  dsimp only [Registry.register] at hother
  split at hother
  · exact Option.some.inj hother ▸ hadapter
  · exact h id other hother

theorem foldlM_keeps {α β ε : Type} {p : α → Prop} {f : α → β → Except ε α}
    (hf : ∀ a b a', p a → f a b = .ok a' → p a') {bs : List β} {a a' : α} (ha : p a)
    (h : bs.foldlM f a = .ok a') : p a' := by
  induction bs generalizing a with
  | nil => exact Except.ok.inj h ▸ ha
  | cons b bs ih =>
    rw [List.foldlM_cons] at h
    obtain ⟨next, hnext, hrest⟩ := bind_eq_ok_iff.1 h
    exact ih (hf a b next ha hnext) hrest

theorem isValid_build {configs : List Config} {environment : Option (String → Option String)}
    (h : build configs environment = .ok registry) : registry.IsValid := by
  refine foldlM_keeps (fun built id next hbuilt hstep => ?_) isValid_empty h
  obtain ⟨found, -, hfound⟩ := bind_eq_ok_iff.1 hstep
  cases found with
  | none =>
    obtain rfl := Except.ok.inj hfound
    have hblank : (blank id).config = none := by
      cases id
      rfl
    exact hbuilt.register (.inl hblank)
  | some config =>
    obtain ⟨adapter, hadapter, hregister⟩ := bind_eq_ok_iff.1 hfound
    obtain rfl := Except.ok.inj hregister
    exact hbuilt.register (Adapter.hasValidConfig_of_configure hadapter).2

theorem isValid_withTimeout {timeoutMs : UInt64} (hvalid : registry.IsValid)
    (h : Command.withTimeout timeoutMs registry = .ok registry') : registry'.IsValid := by
  refine foldlM_keeps (fun before adapter next hbefore hstep => ?_) hvalid h
  split at hstep
  next config _ =>
    split at hstep
    · exact Except.ok.inj hstep ▸ hbefore
    · obtain ⟨changed, hchanged, hregister⟩ := bind_eq_ok_iff.1 hstep
      obtain rfl := Except.ok.inj hregister
      exact hbefore.register (Adapter.hasValidConfig_of_configure hchanged).2
  next => exact Except.ok.inj hstep ▸ hbefore

end Steps

end Registry

namespace Service

variable {τ : Type} {service after : Service Etsy.Adapter τ} {config : Config} {t : List Answered}
variable {outcome : Except SyncError Unit}

/-- A configuration that is refused leaves the service as it was, and one that is accepted is the
valid one in force from then on. -/
theorem configure_cases (h : ((configure config).on service).Gives t (outcome, after)) :
    (∃ e, outcome = .error e ∧ after = service) ∨
    (outcome = .ok () ∧ ∃ new : Etsy.Adapter, new.config = some config ∧ new.HasValidConfig ∧
      after.registry = service.registry.register new) := by
  rw [on_configure] at h
  cases hfind : service.registry.find config.marketplace with
  | error e =>
    rw [hfind] at h
    obtain ⟨-, hend⟩ := Dialogue.gives_pure_iff.1 h
    cases hend
    exact .inl ⟨_, rfl, rfl⟩
  | ok old =>
    rw [hfind] at h
    dsimp only at h
    cases hconfigure : Marketplace.configure old config with
    | error e =>
      rw [hconfigure] at h
      obtain ⟨-, hend⟩ := Dialogue.gives_pure_iff.1 h
      cases hend
      exact .inl ⟨_, rfl, rfl⟩
    | ok new =>
      rw [hconfigure] at h
      obtain ⟨-, hend⟩ := Dialogue.gives_pure_iff.1 h
      cases hend
      obtain ⟨hnew, hvalid⟩ := Etsy.Adapter.hasValidConfig_of_configure hconfigure
      exact .inr ⟨rfl, new, hnew, hvalid, rfl⟩

end Service

namespace Registry

open Etsy (Adapter)

variable {registry registry' : Registry Adapter}

theorem IsValid.step (hvalid : registry.IsValid) (h : Step registry registry') :
    registry'.IsValid := by
  cases h with
  | configure h =>
    rcases Service.configure_cases h with ⟨e, -, rfl⟩ | ⟨-, new, -, hnew, hafter⟩
    · exact hvalid
    · rw [hafter]
      exact hvalid.register hnew
  | limit h => exact isValid_withTimeout hvalid h

theorem Reached.isValid (h : registry.Reached) : registry.IsValid := by
  obtain ⟨configs, environment, built, hbuild, hsteps⟩ := h
  induction hsteps with
  | refl => exact isValid_build hbuild
  | tail _ hstep ih => exact ih.step hstep

/-- **Configurations in force are valid.**  However a registry was built and whatever happened to it
since, each of its adapters has no configuration or a valid one of its own, and does with it what
was checked.  A configuration that the service is given and refuses leaves everything as it was, and
one that it accepts is in force from then on. -/
theorem reached_in_force (hreached : registry.Reached) :
    (∀ id adapter, registry.adapter? id = some adapter →
      adapter.HasValidConfig ∧ ∀ config, adapter.config = some config → adapter.Obeys config) ∧
    ∀ {τ : Type} (service : Service Adapter τ), service.registry = registry →
      ∀ config t outcome after,
        ((Service.configure config).on service).Gives t (outcome, after) →
          (∃ e, outcome = .error e ∧ after = service) ∨
          (outcome = .ok () ∧ ∃ new : Adapter, new.config = some config ∧
            after.registry = registry.register new) := by
  refine ⟨fun id adapter hadapter => ?_, ?_⟩
  · have hvalid := hreached.isValid id adapter hadapter
    refine ⟨hvalid, fun config hconfig => ?_⟩
    rcases hvalid with hnone | ⟨config', hconfig', hchecked, -⟩
    · rw [hnone] at hconfig
      cases hconfig
    · obtain rfl := Option.some.inj (hconfig'.symm.trans hconfig)
      exact Adapter.obeys_of_valid hconfig hchecked
  · rintro τ service rfl config t outcome after h
    rcases Service.configure_cases h with hrefused | ⟨hok, new, hnew, -, hafter⟩
    · exact .inl hrefused
    · exact .inr ⟨hok, new, hnew, hafter⟩

/-- A configuration with a budget, whose currency is written with blanks and small letters. -/
def euroConfig (timeoutMs : UInt64) : Config :=
  { Etsy.sampleConfig with currencyCode := " eur ", requestsPerSecond := some 5, timeoutMs }

/-- The adapters when Etsy has a configuration. -/
def onlyEtsy (config : Config) : Registry Adapter := empty.register { config := some config }

theorem build_singleton {config : Config} {adapter : Adapter}
    (h : Adapter.configure {} config = .ok adapter) :
    build [config] none = .ok (empty.register adapter) := by
  have hchosen : chooseConfig [config] none .etsy = .ok (some config) := by
    simp [chooseConfig, configFor?]
  simp only [build, MarketplaceId.all, List.foldlM_cons, List.foldlM_nil, bind_pure, hchosen]
  change (Adapter.configure {} config >>= fun adapter => pure (empty.register adapter)) = _
  rw [h]
  rfl

theorem withTimeout_onlyEtsy {config : Config} {timeoutMs : UInt64} {adapter : Adapter}
    (hother : config.timeoutMs ≠ timeoutMs)
    (h : Adapter.configure { config := some config } { config with timeoutMs } = .ok adapter) :
    Command.withTimeout timeoutMs (onlyEtsy config) = .ok ((onlyEtsy config).register adapter) := by
  have hadapters : (onlyEtsy config).adapters = [{ config := some config }] := rfl
  simp only [Command.withTimeout, hadapters, List.foldlM_cons, List.foldlM_nil, bind_pure,
    Marketplace.config?, if_neg hother]
  change (Adapter.configure { config := some config } { config with timeoutMs } >>= fun adapter =>
    pure ((onlyEtsy config).register adapter)) = _
  rw [h]
  rfl

/-- A configuration without a time limit is refused; the last one stays in force, until it gets
another time limit. -/
theorem reached_in_force_euroConfig :
    ∃ registry : Registry Adapter, registry.Reached ∧
      registry.adapter? .etsy = some { config := some (euroConfig 1500) } ∧
      Adapter.Obeys { config := some (euroConfig 1500) } (euroConfig 1500) := by
  have hcode : parseCurrency " eur " = .ok "EUR" := by decide +kernel
  have hmarkup : (euroConfig 0).hasValidMarkup = true := by decide +kernel
  have hvalid {timeoutMs : UInt64} (h : timeoutMs ≠ 0) :
      (euroConfig timeoutMs).validate = .ok () :=
    Config.validate_eq_ok_iff.2 ⟨⟨"EUR", hcode⟩, hmarkup, h, show some 5 ≠ some 0 by decide⟩
  have haccepted (old : Adapter) {timeoutMs : UInt64} (h : timeoutMs ≠ 0) :
      old.configure (euroConfig timeoutMs) = .ok { config := some (euroConfig timeoutMs) } := by
    rw [Adapter.configure, hvalid h]
    rfl
  have hbuild : build [euroConfig 60000] none = .ok (onlyEtsy (euroConfig 60000)) :=
    build_singleton (haccepted {} (by decide))
  have hrefused : Step (onlyEtsy (euroConfig 60000)) (onlyEtsy (euroConfig 60000)) := by
    let service : Service Adapter Unit := { registry := onlyEtsy (euroConfig 60000), store := () }
    have hcheck : (euroConfig 0).validate = .error (.invalidValue "timeout_ms" "0") := by
      unfold Config.validate
      rw [hmarkup, show (euroConfig 0).currencyCode = " eur " from rfl, hcode]
      rfl
    have hrefuses : Marketplace.configure (α := Adapter) { config := some (euroConfig 60000) }
        (euroConfig 0) = .error (.invalidValue "timeout_ms" "0") := by
      change Adapter.configure _ _ = _
      rw [Adapter.configure, hcheck]
      rfl
    have hfind : service.registry.find (euroConfig 0).marketplace =
        .ok { config := some (euroConfig 60000) } := rfl
    refine @Step.configure Unit service service (euroConfig 0) []
      (.error (.config (.invalidValue "timeout_ms" "0"))) ?_
    rw [Service.on_configure, hfind]
    dsimp only
    rw [hrefuses]
    exact ⟨rfl, rfl⟩
  have hlimited : Step (onlyEtsy (euroConfig 60000))
      ((onlyEtsy (euroConfig 60000)).register { config := some (euroConfig 1500) }) :=
    .limit (withTimeout_onlyEtsy (by decide) (haccepted _ (by decide)))
  have hreached : Reached ((onlyEtsy (euroConfig 60000)).register
      { config := some (euroConfig 1500) }) :=
    ⟨_, _, _, hbuild, (Relation.ReflTransGen.single hrefused).tail hlimited⟩
  exact ⟨_, hreached, rfl, ((reached_in_force hreached).1 .etsy _ rfl).2 _ rfl⟩

end Registry

end ShopSync
