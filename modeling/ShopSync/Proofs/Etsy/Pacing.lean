import ShopSync.Proofs.Etsy.Requests

/-!
When requests wait.

A client with a budget of requests per second waits for it directly before each request, and one
without a budget never waits.  Nothing else waits or sends, so all that an adapter does keeps to the
budget of its configuration (`attempt_isPaced`); a budget of zero would count as none.
-/

namespace ShopSync

/-- The queries keep to a budget: with one every request comes directly behind a wait for it, and
nothing else waits; without one nothing waits. -/
inductive IsPaced (budget : Option UInt32) : List Query → Prop
  | nil : IsPaced budget []
  | unpaced {request : Http.Request} {rest : List Query} (hnone : budget = none)
      (hrest : IsPaced budget rest) : IsPaced budget (.exchange request :: rest)
  | paced {perSecond : UInt32} {request : Http.Request} {rest : List Query}
      (hbudget : budget = some perSecond) (hrest : IsPaced budget rest) :
      IsPaced budget (.pace perSecond :: .exchange request :: rest)
  | other {q : Query} {rest : List Query} (hrequest : q.request? = none)
      (hwait : ∀ perSecond, q ≠ .pace perSecond) (hrest : IsPaced budget rest) :
      IsPaced budget (q :: rest)

section Paced

variable {σ : Type} {world : World σ} {budget : Option UInt32} {qs qs' : List Query}

theorem IsPaced.append (h : IsPaced budget qs) (h' : IsPaced budget qs') :
    IsPaced budget (qs ++ qs') := by
  induction h with
  | nil => exact h'
  | unpaced hnone _ ih => exact .unpaced hnone ih
  | paced hbudget _ ih => exact .paced hbudget ih
  | other hrequest hwait _ ih => exact .other hrequest hwait ih

/-- In a world, what is done one after another keeps to a budget when each part does. -/
theorem isClosed_isPaced (world : World σ) (budget : Option UInt32) :
    Dialogue.IsClosed fun _ d => ∀ s, IsPaced budget (d.queries world s) where
  done _ _ := .nil
  bind hd hf s := by
    rw [Dialogue.queries_bind]
    exact (hd s).append (hf _ _)

theorem isPaced_execute {client : Http.Client}
    (hbudget : client.pacer.map Http.Pacer.perSecond = budget) (method : Http.Method)
    (url : String) (body : Option Json.Value) (s : σ) :
    IsPaced budget ((client.execute method url body).run.queries world s) := by
  unfold Http.Client.execute
  cases hpacer : client.pacer
  case' none =>
    rw [hpacer] at hbudget
    refine .unpaced hbudget.symm ?_
  case' some pacer =>
    rw [hpacer] at hbudget
    refine .paced hbudget.symm ?_
  all_goals
    -- nothing is asked once the answer is there
    generalize (world.answer (.exchange _) _).1 = outcome
    cases outcome with
    | error failure => exact .nil
    | ok response => exact .nil

end Paced

namespace Etsy

/-- The budget of a configuration is that of its client, when it is a budget. -/
theorem Session.budget_ofConfig {config : Config} (hbudget : config.requestsPerSecond ≠ some 0) :
    (ofConfig config).client.pacer.map Http.Pacer.perSecond = config.requestsPerSecond := by
  cases hgiven : config.requestsPerSecond with
  | none => simp [ofConfig, hgiven]
  | some perSecond =>
    have hpositive : perSecond ≠ 0 := fun h => hbudget (hgiven.trans (congrArg some h))
    simp [ofConfig, hgiven, Http.Pacer.ofBudget?, hpositive]

theorem Session.admits_isPaced {σ : Type} (world : World σ) {config : Config}
    (hbudget : config.requestsPerSecond ≠ some 0) (allowed : Resource → Prop) :
    (ofConfig config).Admits
      (fun _ d => ∀ s, IsPaced config.requestsPerSecond (d.queries world s)) allowed where
  toIsClosed := isClosed_isPaced world _
  moment _ := .other rfl (fun _ => nofun) .nil
  freshId _ := .other rfl (fun _ => nofun) .nil
  call _ method body _ := isPaced_execute (budget_ofConfig hbudget) method _ body

/-- Whatever an adapter is called for, it keeps to the budget of its configuration. -/
theorem Adapter.attempt_isPaced {σ : Type} (world : World σ) {adapter : Adapter} {config : Config}
    (hconfig : adapter.config = some config) (hbudget : config.requestsPerSecond ≠ some 0)
    (call : MarketCall) (s : σ) :
    IsPaced config.requestsPerSecond ((call.attempt adapter).run.queries world s) := by
  refine attempt_of_admits call (isClosed_isPaced world config.requestsPerSecond)
    (fun session h => ?_) (fun session h _ => ?_) s
  · obtain rfl := ofConfig_eq_of_session hconfig h
    exact Session.admits_isPaced world hbudget call.Concerns
  · obtain rfl := ofConfig_eq_of_session hconfig h
    exact isPaced_execute (Session.budget_ofConfig hbudget) _ _ _

end Etsy

end ShopSync
