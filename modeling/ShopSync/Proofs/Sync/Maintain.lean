import Mathlib.Tactic
import ShopSync.Proofs.Outcome
import ShopSync.Proofs.Sync.Files

/-!
What steps maintain.

A computation `Obtains` a property when its result has it and no file is written on the way, as long
as the answers are in range.  A step of the service `Maintains` what holds of the service: it is
done with a service for which this holds, and leaves one for which it holds, together with a result
that has a property.  Both go through the parts of a computation one after another, and what a part
came to is known in the next.
-/

namespace ShopSync

/-! ### Computations -/

namespace Dialogue

variable {α β : Type} {d : Dialogue α} {f : α → Dialogue β} {p : α → Prop} {q : β → Prop}

/-- In range the computation writes no file, and its result has the property. -/
def Obtains (d : Dialogue α) (p : α → Prop) : Prop :=
  ∀ ⦃t a⦄, d.Gives t a → InRange t → (∀ x ∈ t, x.query.writesFile = false) ∧ p a

theorem obtains_pure {a : α} (h : p a) : Obtains (pure a) p := by
  intro t b hgives _
  obtain ⟨rfl, rfl⟩ := gives_pure_iff.1 hgives
  exact ⟨List.forall_mem_nil _, h⟩

theorem Obtains.bind (hd : d.Obtains p) (hf : ∀ a, p a → (f a).Obtains q) :
    (d >>= f).Obtains q := by
  intro t b hgives hrange
  obtain ⟨a, t₁, t₂, rfl, h₁, h₂⟩ := gives_bind_iff.1 hgives
  obtain ⟨hrange₁, hrange₂⟩ := (inRange_append_iff t₁ t₂).1 hrange
  obtain ⟨hfirst, ha⟩ := hd h₁ hrange₁
  obtain ⟨hrest, hb⟩ := hf a ha h₂ hrange₂
  exact ⟨List.forall_mem_append.2 ⟨hfirst, hrest⟩, hb⟩

theorem Obtains.notMem (hd : d.Obtains p) {t : List Answered} {a : α} (h : d.Gives t a)
    (hrange : InRange t) {x : Answered} (hwrites : x.query.writesFile = true) : x ∉ t := by
  intro hx
  have hnone := (hd h hrange).1 x hx
  rw [hwrites] at hnone
  cases hnone

/-- A write that comes with it comes after it. -/
theorem Obtains.exists_of_writes (hd : d.Obtains p) {t : List Answered} {b : β}
    (h : (d >>= f).Gives t b) (hrange : InRange t) {x : Answered} (hx : x ∈ t)
    (hwrites : x.query.writesFile = true) :
    ∃ a t₁ t₂, t = t₁ ++ t₂ ∧ d.Gives t₁ a ∧ p a ∧ (f a).Gives t₂ b ∧ InRange t₂ ∧ x ∈ t₂ := by
  obtain ⟨a, t₁, t₂, rfl, h₁, h₂⟩ := gives_bind_iff.1 h
  obtain ⟨hrange₁, hrange₂⟩ := (inRange_append_iff t₁ t₂).1 hrange
  have hx₂ := (List.mem_append.1 hx).resolve_left (hd.notMem h₁ hrange₁ hwrites)
  exact ⟨a, t₁, t₂, rfl, h₁, (hd h₁ hrange₁).2, h₂, hrange₂, hx₂⟩

theorem Obtains.mono {p' : α → Prop} (hd : d.Obtains p) (h : ∀ a, p a → p' a) :
    d.Obtains p' := by
  intro t a hgives hrange
  obtain ⟨hfiles, ha⟩ := hd hgives hrange
  exact ⟨hfiles, h a ha⟩

theorem obtains_mk_pure {ε : Type} {outcome : Except ε α} (h : IfOk p outcome) :
    (ExceptT.mk (pure outcome) : ExceptT ε Dialogue α).run.Obtains (IfOk p) :=
  obtains_pure h

theorem obtains_run_bind {ε : Type} {x : ExceptT ε Dialogue α} {f : α → ExceptT ε Dialogue β}
    (hx : x.run.Obtains (IfOk p)) (hf : ∀ a, p a → (f a).run.Obtains (IfOk q)) :
    (x >>= f).run.Obtains (IfOk q) := by
  rw [ExceptT.run_bind]
  refine hx.bind ?_
  intro outcome houtcome
  cases outcome with
  | ok a => exact hf a (houtcome a rfl)
  | error e => exact obtains_pure ifOk_error

/-- A write that comes with it comes after it, and then there was no error. -/
theorem exists_ok_of_writes {ε : Type} {x : ExceptT ε Dialogue α} {f : α → ExceptT ε Dialogue β}
    (hx : x.run.Obtains (IfOk p)) {t : List Answered} {outcome : Except ε β}
    (h : (x >>= f).run.Gives t outcome) (hrange : InRange t) {y : Answered} (hy : y ∈ t)
    (hwrites : y.query.writesFile = true) :
    ∃ a t₁ t₂, t = t₁ ++ t₂ ∧ x.run.Gives t₁ (.ok a) ∧ p a ∧ (f a).run.Gives t₂ outcome ∧
      InRange t₂ ∧ y ∈ t₂ := by
  rw [ExceptT.run_bind] at h
  obtain ⟨found, t₁, t₂, rfl, hfound, hp, hrest, hrange₂, hy₂⟩ :=
    hx.exists_of_writes h hrange hy hwrites
  cases found with
  | ok a => exact ⟨a, t₁, t₂, rfl, hfound, hp a rfl, hrest, hrange₂, hy₂⟩
  | error e =>
    obtain ⟨rfl, -⟩ := gives_pure_iff.1 hrest
    cases hy₂

/-- Where no file is asked for, it is enough to look at results. -/
theorem LeavesFiles.obtains (hd : d.LeavesFiles)
    (h : ∀ ⦃t a⦄, d.Gives t a → InRange t → p a) : d.Obtains p := by
  intro t a hgives hrange
  refine ⟨?_, h hgives hrange⟩
  intro x hx
  have hfile := hd.of_gives hgives x hx
  cases hquery : x.query with
  | writeFile path content =>
    rw [hquery] at hfile
    cases hfile
  | _ => rfl

theorem obtains_moment : moment.Obtains fun now => 0 ≤ now.wall.civil.1.year := by
  have hfiles : moment.LeavesFiles := ⟨rfl, fun _ => trivial⟩
  refine hfiles.obtains ?_
  intro t now hgives hrange
  obtain rfl := gives_moment_iff.1 hgives
  exact ((inRange_moment_iff [] now).1 hrange).1

theorem obtains_freshId : freshId.Obtains fun _ => True := by
  have hfiles : freshId.LeavesFiles := ⟨rfl, fun _ => trivial⟩
  exact hfiles.obtains fun _ _ _ _ => trivial

theorem obtains_fileExists (path : String) : (fileExists path).Obtains fun _ => True := by
  intro t there hgives _
  obtain ⟨answer, rest, rfl, rfl, -⟩ := hgives
  exact ⟨List.forall_mem_singleton.2 rfl, trivial⟩

end Dialogue

/-! ### Steps of the service -/

variable {α τ ε β γ : Type} {holds : Service α τ → Prop} {p : β → Prop} {q : γ → Prop}

/-- In range the step writes no file, leaves a service for which `holds` where it was done with one,
and its result has the property. -/
def Maintains (holds : Service α τ → Prop) (step : ServiceM α τ β) (p : β → Prop) : Prop :=
  ∀ ⦃service⦄, holds service → (step.run service).Obtains fun (b, after) => holds after ∧ p b

theorem maintains_pure {b : β} (h : p b) :
    Maintains holds (pure b : ServiceM α τ β) p :=
  fun _ hservice => Dialogue.obtains_pure ⟨hservice, h⟩

theorem maintains_bind {step : ServiceM α τ γ} {f : γ → ServiceM α τ β}
    (hstep : Maintains holds step q) (hf : ∀ c, q c → Maintains holds (f c) p) :
    Maintains holds (step >>= f) p := by
  intro service hservice
  rw [StateT.run_bind]
  refine (hstep hservice).bind ?_
  rintro ⟨c, between⟩ ⟨hbetween, hc⟩
  exact hf c hc hbetween

theorem maintains_liftM {d : Dialogue β} (h : d.Obtains p) :
    Maintains holds (StateT.lift d : ServiceM α τ β) p :=
  fun _ hservice => h.bind fun _ hb => Dialogue.obtains_pure ⟨hservice, hb⟩

theorem maintains_modify {change : Service α τ → Service α τ}
    (h : ∀ service, holds service → holds (change service)) :
    Maintains holds (modify change : ServiceM α τ PUnit) fun _ => True :=
  fun service hservice => Dialogue.obtains_pure ⟨h service hservice, trivial⟩

theorem maintains_mapM {f : γ → ServiceM α τ β} (h : ∀ c, Maintains holds (f c) fun _ => True)
    (cs : List γ) : Maintains holds (cs.mapM f) fun _ => True := by
  induction cs with
  | nil => exact maintains_pure trivial
  | cons c cs ih =>
    rw [List.mapM_cons]
    exact maintains_bind (h c) fun _ _ => maintains_bind ih fun _ _ => maintains_pure trivial

/-! ### Steps that may fail -/

section MayFail

variable {x : ExceptT ε (ServiceM α τ) γ} {f : γ → ExceptT ε (ServiceM α τ) β}

theorem maintains_mk_pure {outcome : Except ε β} (h : IfOk p outcome) :
    Maintains holds (ExceptT.mk (pure outcome) : ExceptT ε (ServiceM α τ) β).run (IfOk p) :=
  maintains_pure h

theorem maintains_answer (outcome : Except ε β) :
    Maintains holds (ExceptT.mk (pure outcome) : ExceptT ε (ServiceM α τ) β).run
      (IfOk fun _ => True) :=
  maintains_mk_pure fun _ _ => trivial

theorem maintains_run_pure {b : β} (h : p b) :
    Maintains holds (pure b : ExceptT ε (ServiceM α τ) β).run (IfOk p) :=
  maintains_pure (ifOk_ok h)

theorem maintains_run_bind (hx : Maintains holds x.run (IfOk q))
    (hf : ∀ c, q c → Maintains holds (f c).run (IfOk p)) :
    Maintains holds (x >>= f).run (IfOk p) := by
  rw [ExceptT.run_bind]
  refine maintains_bind hx ?_
  intro outcome houtcome
  cases outcome with
  | ok c => exact hf c (houtcome c rfl)
  | error e => exact maintains_pure ifOk_error

theorem maintains_lift {step : ServiceM α τ β} (h : Maintains holds step p) :
    Maintains holds (ExceptT.lift step : ExceptT ε (ServiceM α τ) β).run (IfOk p) :=
  maintains_bind h fun _ hb => maintains_pure (ifOk_ok hb)

theorem maintains_run_mapM {f : γ → ExceptT ε (ServiceM α τ) β}
    (h : ∀ c, Maintains holds (f c).run (IfOk fun _ => True)) (cs : List γ) :
    Maintains holds (cs.mapM f).run (IfOk fun _ => True) := by
  induction cs with
  | nil => exact maintains_run_pure trivial
  | cons c cs ih =>
    rw [List.mapM_cons]
    exact maintains_run_bind (h c) fun _ _ => maintains_run_bind ih fun _ _ =>
      maintains_run_pure trivial

/-- What is known of the service may be used for what is done with it. -/
theorem maintains_get_bind {f : Service α τ → ExceptT ε (ServiceM α τ) β}
    (h : ∀ service, holds service → Maintains holds (f service).run (IfOk p)) :
    Maintains holds (get >>= f).run (IfOk p) :=
  fun service hservice => h service hservice hservice

theorem maintains_set {new : Service α τ} (h : holds new) :
    Maintains holds (set new : ExceptT ε (ServiceM α τ) PUnit).run (IfOk fun _ => True) :=
  fun _ _ => Dialogue.obtains_pure ⟨h, fun _ _ => trivial⟩

end MayFail

theorem maintains_ofAttempt {attempt : Attempt β} (h : attempt.run.Obtains (IfOk p)) :
    Maintains holds (Operation.ofAttempt attempt : Operation α τ β).run (IfOk p) :=
  maintains_bind (maintains_liftM h) fun _ houtcome => maintains_pure (houtcome.mapError _)

theorem Attempt.LeavesFiles.obtains {attempt : Attempt β} (hfiles : attempt.LeavesFiles)
    (h : ∀ ⦃t b⦄, attempt.run.Gives t (.ok b) → InRange t → p b) :
    attempt.run.Obtains (IfOk p) := by
  refine Dialogue.LeavesFiles.obtains hfiles ?_
  rintro t outcome hgives hrange b rfl
  exact h hgives hrange

theorem maintains_forActive [Marketplace α] {f : α → Operation α τ β}
    (h : ∀ adapter, Maintains holds (f adapter).run (IfOk p)) :
    Maintains holds (Service.forActive f) fun _ => True := by
  intro service hservice
  refine maintains_mapM (fun adapter => ?_) service.registry.active hservice
  exact maintains_bind (h adapter) fun _ _ => maintains_pure trivial

end ShopSync
