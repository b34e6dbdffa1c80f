import Mathlib.Tactic
import ShopSync.Proofs.Dialogue
import ShopSync.Sync.Service

/-!
Operations of the service as computations.

`on` is what an operation asks of the outside when it is carried out on a service, with its outcome
and the service that follows.  Every step of an operation has an equation that says so; an error
ends the operation and leaves the service as it is at that point.
-/

namespace ShopSync

variable {α τ β γ : Type}

/-- What an operation does with a service. -/
def Operation.on (operation : Operation α τ β) (service : Service α τ) :
    Dialogue (Except SyncError β × Service α τ) :=
  operation.run.run service

namespace Operation

variable (service : Service α τ) (f : γ → Operation α τ β)

/-- What follows is done with the service that is left, unless there was an error. -/
theorem on_bind (operation : Operation α τ γ) :
    on (operation >>= f) service = operation.on service >>= fun (outcome, after) =>
      match outcome with
      | .ok c => (f c).on after
      | .error e => pure (.error e, after) := by
  unfold on
  rw [ExceptT.run_bind, StateT.run_bind]
  refine bind_congr fun p => ?_
  obtain ⟨outcome, after⟩ := p
  cases outcome <;> rfl

@[simp] theorem on_get_bind (f : Service α τ → Operation α τ β) :
    on (get >>= f) service = (f service).on service := rfl

@[simp] theorem on_ask_bind (d : Dialogue γ) :
    on ((liftM d : Operation α τ γ) >>= f) service = d >>= fun c => (f c).on service := by
  rw [on_bind]
  have hlift : on (liftM d : Operation α τ γ) service =
      d >>= fun c => pure (.ok c, service) := by
    change (d >>= fun c => pure (c, service)) >>=
      (fun p => pure (Except.ok p.1, p.2)) = _
    rw [Dialogue.bind_assoc]
    rfl
  rw [hlift, Dialogue.bind_assoc]
  rfl

@[simp] theorem on_ofAttempt (attempt : Attempt β) :
    on (ofAttempt attempt) service =
      attempt.run >>= fun outcome => pure (outcome.mapError .market, service) := by
  change ((liftM attempt.run : ServiceM α τ _) >>= fun outcome =>
    pure (outcome.mapError SyncError.market)).run service = _
  rw [StateT.run_bind]
  change (attempt.run >>= fun outcome => pure (outcome, service)) >>= _ = _
  rw [Dialogue.bind_assoc]
  rfl

@[simp] theorem on_ofMarket (answer : Except MarketError β) :
    on (ofMarket answer) service = pure (answer.mapError .market, service) := rfl

@[simp] theorem on_ofStore (answer : Except StoreError β) :
    on (ofStore answer) service = pure (answer.mapError .store, service) := rfl

end Operation

/-! ### Operations with mappings -/

namespace Service

open Operation

variable [Marketplace α] [SyncStore τ]

/-- The mappings of an adapter, with those of a store behind them. -/
def mappingsWith (adapter : α) (stored : List CategoryMapping) : List CategoryMapping :=
  ((Marketplace.config? adapter).map Config.categoryMappings).getD [] ++ stored

variable {service : Service α τ} {id : MarketplaceId} {adapter : α}

/-- What goes on with a ready adapter and its mappings; when the store does not tell its own, that
is the error, and nothing was asked. -/
theorem on_mapped (hready : service.registry.findReady id = .ok adapter)
    (f : α → List CategoryMapping → Operation α τ β) :
    on (do
        let adapter ← readyAdapter id
        let mappings ← mappingsFor adapter
        f adapter mappings) service =
      match SyncStore.mappings service.store (Marketplace.id adapter) with
      | .error e => pure (.error (.store e), service)
      | .ok stored => (f adapter (mappingsWith adapter stored)).on service := by
  have hadapter : (readyAdapter id).on service = pure (.ok adapter, service) := by
    rw [readyAdapter, on_get_bind, on_ofMarket, hready]
    rfl
  rw [on_bind, hadapter, pure_bind]
  dsimp only
  rw [on_bind, mappingsFor, on_get_bind, on_bind, on_ofStore, pure_bind]
  cases SyncStore.mappings service.store (Marketplace.id adapter) with
  | error e => rfl
  | ok stored => rfl

end Service

/-! ### What operations keep -/

/-- What holds of the service before the operation holds behind it, whatever the outcome. -/
def Operation.Keeps (holds : Service α τ → Prop) (operation : Operation α τ β) : Prop :=
  ∀ ⦃service⦄, holds service → ∀ ⦃t outcome after⦄,
    (operation.on service).Gives t (outcome, after) → holds after

namespace Operation

variable {holds : Service α τ → Prop} {f : γ → Operation α τ β}

theorem keeps_mk_pure (answer : Except SyncError β) :
    Keeps holds (ExceptT.mk (pure answer) : Operation α τ β) := by
  intro service hservice t outcome after h
  obtain ⟨-, heq⟩ := Dialogue.gives_pure_iff.1 h
  cases heq
  exact hservice

theorem keeps_pure (b : β) : Keeps holds (pure b : Operation α τ β) := keeps_mk_pure (.ok b)

theorem keeps_ofMarket (answer : Except MarketError β) :
    Keeps holds (ofMarket answer : Operation α τ β) := keeps_mk_pure _

theorem keeps_ofStore (answer : Except StoreError β) :
    Keeps holds (ofStore answer : Operation α τ β) := keeps_mk_pure _

/-- Adapters do not know the service. -/
theorem keeps_ofAttempt (attempt : Attempt β) :
    Keeps holds (ofAttempt attempt : Operation α τ β) := by
  intro service hservice t outcome after h
  rw [on_ofAttempt] at h
  obtain ⟨found, t₁, t₂, rfl, -, h⟩ := Dialogue.gives_bind_iff.1 h
  obtain ⟨-, heq⟩ := Dialogue.gives_pure_iff.1 h
  cases heq
  exact hservice

theorem keeps_bind {operation : Operation α τ γ} (hfirst : Keeps holds operation)
    (hrest : ∀ c, Keeps holds (f c)) : Keeps holds (operation >>= f) := by
  intro service hservice t outcome after h
  rw [on_bind] at h
  obtain ⟨⟨first, between⟩, t₁, t₂, rfl, h₁, h₂⟩ := Dialogue.gives_bind_iff.1 h
  have hbetween := hfirst hservice h₁
  cases first with
  | ok c => exact hrest c hbetween h₂
  | error e =>
    obtain ⟨-, heq⟩ := Dialogue.gives_pure_iff.1 h₂
    cases heq
    exact hbetween

/-- What is known of the service may be used for what is done with it. -/
theorem keeps_get_bind {f : Service α τ → Operation α τ β}
    (hrest : ∀ service, holds service → Keeps holds (f service)) :
    Keeps holds (get >>= f) := by
  intro service hservice t outcome after h
  rw [on_get_bind] at h
  exact hrest service hservice hservice h

theorem keeps_ok_bind {c : γ} (hrest : Keeps holds (f c)) :
    Keeps holds (ExceptT.mk (pure (.ok c)) >>= f) :=
  hrest

theorem keeps_set {new : Service α τ} (hnew : holds new) :
    Keeps holds (set new : Operation α τ PUnit) := by
  intro service _ t outcome after h
  obtain ⟨-, heq⟩ := Dialogue.gives_pure_iff.1 h
  cases heq
  exact hnew

theorem keeps_modify {change : Service α τ → Service α τ}
    (hchange : ∀ service, holds service → holds (change service)) :
    Keeps holds (modify change : Operation α τ PUnit) := by
  intro service hservice t outcome after h
  obtain ⟨-, heq⟩ := Dialogue.gives_pure_iff.1 h
  cases heq
  exact hchange service hservice

theorem keeps_mapM {g : γ → Operation α τ β} (hstep : ∀ c, Keeps holds (g c)) (cs : List γ) :
    Keeps holds (cs.mapM g) := by
  induction cs with
  | nil => exact keeps_pure []
  | cons c cs ih =>
    rw [List.mapM_cons]
    exact keeps_bind (hstep c) fun b => keeps_bind ih fun bs => keeps_pure (b :: bs)

end Operation

end ShopSync
