import Mathlib.Tactic
import ShopSync.Proofs.Dialogue

/-!
The requests of an attempt and what came of them.

A transcript holds, among other things, the requests that were sent, each with its outcome.
`Sends` says what an attempt sends, whatever the answers are: for every transcript a property of its
exchanges and of what the attempt comes to.  A call of a client sends one request.
-/

namespace ShopSync

open Http (Method)

/-- A request and what came of it. -/
structure Http.Exchange where
  request : Http.Request
  outcome : Except Http.Failure Http.Response

/-- The exchange of a query for one. -/
def Answered.exchange? : Answered → Option Http.Exchange
  | ⟨.exchange request, outcome⟩ => some { request, outcome }
  | _ => none

/-- The exchanges of a transcript, in order. -/
def exchangesIn (transcript : List Answered) : List Http.Exchange :=
  transcript.filterMap Answered.exchange?

section

variable (t t' : List Answered)

@[simp] theorem exchangesIn_nil : exchangesIn [] = [] := rfl

@[simp] theorem exchangesIn_append : exchangesIn (t ++ t') = exchangesIn t ++ exchangesIn t' :=
  List.filterMap_append

@[simp] theorem exchangesIn_exchange (request : Http.Request)
    (outcome : (Query.exchange request).Answer) :
    exchangesIn (⟨.exchange request, outcome⟩ :: t) = { request, outcome } :: exchangesIn t := rfl

@[simp] theorem exchangesIn_moment (now : Moment) :
    exchangesIn (⟨.moment, now⟩ :: t) = exchangesIn t := rfl

@[simp] theorem exchangesIn_freshId (id : Uuid) :
    exchangesIn (⟨.freshId, id⟩ :: t) = exchangesIn t := rfl

@[simp] theorem exchangesIn_pace (perSecond : UInt32) (paced : (Query.pace perSecond).Answer) :
    exchangesIn (⟨.pace perSecond, paced⟩ :: t) = exchangesIn t := rfl

end

namespace Attempt

variable {α β : Type}

/-- Whatever the answers are, what the attempt comes to and the exchanges until then have the
property. -/
def Sends (attempt : Attempt α) (post : Except MarketError α → List Http.Exchange → Prop) : Prop :=
  ∀ ⦃t outcome⦄, attempt.run.Gives t outcome → post outcome (exchangesIn t)

variable {attempt : Attempt α} {f : α → Attempt β}
variable {post : Except MarketError α → List Http.Exchange → Prop}
variable {post' : Except MarketError β → List Http.Exchange → Prop}

theorem Sends.mono {post' : Except MarketError α → List Http.Exchange → Prop}
    (h : attempt.Sends post) (himp : ∀ outcome es, post outcome es → post' outcome es) :
    attempt.Sends post' :=
  fun _ _ hgives => himp _ _ (h hgives)

theorem sends_mk_pure {outcome : Except MarketError α} (h : post outcome []) :
    Sends (ExceptT.mk (pure outcome)) post := by
  intro t found hgives
  obtain ⟨rfl, rfl⟩ := Dialogue.gives_pure_iff.1 hgives
  exact h

theorem sends_pure {a : α} (h : post (.ok a) []) : Sends (pure a) post := sends_mk_pure h

theorem sends_throw {e : MarketError} (h : post (.error e) []) : Sends (throw e) post :=
  sends_mk_pure h

/-- What goes on after an attempt sends its exchanges behind those of the attempt. -/
theorem Sends.bind (hfirst : attempt.Sends post)
    (herror : ∀ e es, post (.error e) es → post' (.error e) es)
    (hrest : ∀ a es, post (.ok a) es → (f a).Sends fun outcome es' => post' outcome (es ++ es')) :
    (attempt >>= f).Sends post' := by
  intro t outcome hgives
  rcases Dialogue.gives_run_bind hgives with ⟨e, he, rfl⟩ | ⟨a, t₁, t₂, rfl, h₁, h₂⟩
  · exact herror e _ (hfirst he)
  · rw [exchangesIn_append]
    exact hrest a _ (hfirst h₁) h₂

theorem sends_mk_pure_bind {outcome : Except MarketError α}
    (herror : ∀ e, outcome = .error e → post' (.error e) [])
    (hrest : ∀ a, outcome = .ok a → (f a).Sends post') :
    Sends (ExceptT.mk (pure outcome) >>= f) post' := by
  intro t found hgives
  rw [run_mk_pure_bind] at hgives
  cases outcome with
  | error e =>
    obtain ⟨rfl, rfl⟩ := Dialogue.gives_pure_iff.1 hgives
    exact herror e rfl
  | ok a => exact hrest a rfl hgives

/-- A failure that does not keep the rest back is one of the results that the rest goes on from. -/
theorem sends_lift_run_bind {f : Except MarketError α → Attempt β} (hfirst : attempt.Sends post)
    (hrest : ∀ outcome es, post outcome es →
      (f outcome).Sends fun found es' => post' found (es ++ es')) :
    Sends (ExceptT.lift attempt.run >>= f) post' := by
  intro t found hgives
  rw [ExceptT.run_bind_lift] at hgives
  obtain ⟨outcome, t₁, t₂, rfl, h₁, h₂⟩ := Dialogue.gives_bind_iff.1 hgives
  rw [exchangesIn_append]
  exact hrest outcome _ (hfirst h₁) h₂

theorem sends_pace_bind {perSecond : UInt32} {f : Unit → Attempt β} (h : (f ()).Sends post') :
    Sends (liftM (Dialogue.pace perSecond) >>= f) post' := by
  intro t outcome hgives
  rw [Dialogue.run_liftM_bind] at hgives
  obtain ⟨paced, rest, rfl, hrest⟩ := hgives
  rw [exchangesIn_pace]
  exact h hrest

/-- A request is sent in front of what goes on from its outcome. -/
theorem sends_exchange_bind {request : Http.Request}
    {f : Except Http.Failure Http.Response → Attempt β}
    (h : ∀ outcome, (f outcome).Sends fun found es => post' found ({ request, outcome } :: es)) :
    Sends (liftM (Dialogue.exchange request) >>= f) post' := by
  intro t found hgives
  rw [Dialogue.run_liftM_bind] at hgives
  obtain ⟨outcome, rest, rfl, hrest⟩ := hgives
  rw [exchangesIn_exchange]
  exact h outcome hrest

end Attempt

open Attempt

namespace Http

/-- Whether a request changes or deletes what is at its address. -/
def Request.overwrites (request : Request) : Bool :=
  request.method = .patch || request.method = .delete

end Http

namespace Http.Client

variable {α : Type} (client : Client) (method : Method) (url : String)

/-- One request is sent; a payload is that of the response to it. -/
theorem sends_execute (body : Option Json.Value) :
    (client.execute method url body).Sends fun outcome es =>
      ∃ answer, es = [{ request := client.request method url body, outcome := answer }] ∧
        ∀ payload, outcome = .ok (some payload) →
          ∃ response, answer = .ok response ∧ response.classify = .ok (some payload) := by
  unfold execute
  -- with a budget or without one the exchange is the same
  cases client.pacer
  case' some pacer => refine sends_pace_bind ?_
  all_goals
    refine sends_exchange_bind fun outcome => ?_
    cases outcome with
    | error failure => exact sends_throw ⟨_, rfl, nofun⟩
    | ok response =>
      exact sends_mk_pure ⟨_, rfl, fun payload hpayload => ⟨response, rfl, hpayload⟩⟩

theorem sends_get (d : Json.Decoder α) :
    (client.get url d).Sends fun outcome es =>
      ∃ answer, es = [{ request := client.request .get url none, outcome := answer }] ∧
        ∀ a, outcome = .ok a → ∃ response payload, answer = .ok response ∧
          response.classify = .ok (some payload) ∧ Json.Decoder.decode? d payload = some a := by
  refine (sends_execute client .get url none).bind ?_ ?_
  · rintro e es ⟨answer, rfl, -⟩
    exact ⟨answer, rfl, nofun⟩
  · rintro found es ⟨answer, rfl, hpayload⟩
    cases found with
    | none => exact sends_throw ⟨answer, rfl, nofun⟩
    | some payload =>
      obtain ⟨response, rfl, hclassify⟩ := hpayload payload rfl
      refine sends_mk_pure ⟨_, rfl, fun a ha => ⟨response, payload, rfl, hclassify, ?_⟩⟩
      unfold decoded at ha
      split at ha
      next b hb =>
        cases ha
        exact hb
      next => cases ha

theorem sends_send (body : Json.Value) (d : Json.Decoder α) :
    (client.send method url body d).Sends fun _ es =>
      ∃ answer, es = [{ request := client.request method url (some body), outcome := answer }] := by
  refine (sends_execute client method url (some body)).bind ?_ ?_
  · rintro e es ⟨answer, rfl, -⟩
    exact ⟨answer, rfl⟩
  · rintro found es ⟨answer, rfl, -⟩
    cases found with
    | none => exact sends_pure ⟨answer, rfl⟩
    | some payload => exact sends_mk_pure ⟨answer, rfl⟩

theorem sends_push (body : Json.Value) :
    (client.push method url body).Sends fun _ es =>
      ∃ answer, es = [{ request := client.request method url (some body), outcome := answer }] := by
  refine (sends_send client method url body anything).bind (fun _ _ h => h) ?_
  rintro found es ⟨answer, rfl⟩
  exact sends_pure ⟨answer, rfl⟩

theorem sends_delete :
    (client.delete url).Sends fun _ es =>
      ∃ answer, es = [{ request := client.request .delete url none, outcome := answer }] := by
  refine (sends_execute client .delete url none).bind ?_ ?_
  · rintro e es ⟨answer, rfl, -⟩
    exact ⟨answer, rfl⟩
  · rintro found es ⟨answer, rfl, -⟩
    exact sends_pure ⟨answer, rfl⟩

end Http.Client

end ShopSync
