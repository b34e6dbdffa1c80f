import Mathlib.Tactic
import ShopSync.Http.Client

/-!
Runs against a server.

A server is a state machine that answers requests.  Everything else that can be asked, such as a
look at the clocks or an identifier, is answered from `elsewhere`, in any way that depends on what
was asked before.  The world made of both remembers all queries, and a call of a client adds
exactly its own: the wait for the budget, when there is one, and the request.
-/

namespace ShopSync

/-- A server: a state machine that answers requests. -/
abbrev Server (σ : Type) := Http.Request → σ → Except Http.Failure Http.Response × σ

/-- The answers to everything but requests, given what was asked before. -/
abbrev Elsewhere := (query : Query) → (past : List Query) → query.Answer

/-- The state of a server, and all that was asked so far. -/
structure Visit (σ : Type) where
  state : σ
  past : List Query

/-- The world of a server. -/
def Server.world (server : Server σ) (elsewhere : Elsewhere) : World (Visit σ) where
  answer
    | .exchange request, v =>
      let (outcome, state) := server request v.state
      (outcome, { state, past := v.past ++ [.exchange request] })
    | query, v => (elsewhere query v.past, { v with past := v.past ++ [query] })

theorem Server.past_run (server : Server σ) (elsewhere : Elsewhere) (d : Dialogue α)
    (v : Visit σ) :
    (d.run (server.world elsewhere) v).2.past = v.past ++ d.queries (server.world elsewhere) v := by
  induction d generalizing v with
  | done a => exact (List.append_nil v.past).symm
  | ask q next ih =>
    rcases hanswer : (server.world elsewhere).answer q v with ⟨answer, v'⟩
    have hpast : v'.past = v.past ++ [q] := by
      have hasked : ((server.world elsewhere).answer q v).2.past = v.past ++ [q] := by
        cases q <;> rfl
      rwa [hanswer] at hasked
    simp only [Dialogue.run, Dialogue.queries, hanswer, ih, hpast, List.append_assoc,
      List.singleton_append]

/-- The request of a query. -/
def Query.request? : Query → Option Http.Request
  | .exchange request => some request
  | _ => none

/-- The requests among queries. -/
def requestsOf (queries : List Query) : List Http.Request :=
  queries.filterMap Query.request?

@[simp] theorem requestsOf_append (qs qs' : List Query) :
    requestsOf (qs ++ qs') = requestsOf qs ++ requestsOf qs' := List.filterMap_append

@[simp] theorem requestsOf_moment : requestsOf [.moment] = [] := rfl

@[simp] theorem requestsOf_freshId : requestsOf [.freshId] = [] := rfl

/-- Whenever the signal is looked at, `fired` of the requests that were made says whether it is
stopped. -/
def Signal.FiresBy (signal : Signal) (elsewhere : Elsewhere) (fired : Nat → Bool) : Prop :=
  ∀ past, signal.isStopped (elsewhere .moment past) = fired (requestsOf past).length

/-- An outside in which no time passes and there are no files; the tokens that are cancelled may
depend on what was asked before. -/
def still (cancelled : List Query → List Nat) : Elsewhere
  | .exchange _, _ => .error (Http.Failure.unreachable "nobody there")
  | .moment, past => { wall := .epoch, uptime := 0, cancelled := cancelled past }
  | .freshId, _ => ⟨0⟩
  | .pace _, _ => ()
  | .fileExists _, _ => false
  | .readFile _, _ => .error .missing
  | .writeFile _ _, _ => .error .denied

theorem firesBy_still (token : Nat) (fired : Nat → Bool) :
    Signal.FiresBy { token }
      (still fun past => if fired (requestsOf past).length then [token] else []) fired := by
  intro past
  change (if token ∈ (if fired (requestsOf past).length then [token] else []) then
    some Interruption.cancelled else none).isSome = _
  cases fired (requestsOf past).length <;> simp

/-! ### Attempts -/

namespace Attempt

/-- The outcome of an attempt in a world, and the state it leaves. -/
def runIn (world : World σ) (attempt : Attempt α) (s : σ) : Except MarketError α × σ :=
  Dialogue.run world attempt.run s

variable {world : World σ} {s s' : σ}

@[simp] theorem runIn_mk_pure (outcome : Except MarketError α) :
    runIn world (ExceptT.mk (pure outcome)) s = (outcome, s) := rfl

theorem runIn_bind_ok {attempt : Attempt α} {a : α} (f : α → Attempt β)
    (h : runIn world attempt s = (.ok a, s')) :
    runIn world (attempt >>= f) s = runIn world (f a) s' := by
  change Dialogue.run world (attempt.run >>= ExceptT.bindCont f) s = _
  rw [Dialogue.run_bind, show Dialogue.run world attempt.run s = (.ok a, s') from h]
  rfl

theorem runIn_lift_bind (d : Dialogue α) (f : α → Attempt β) :
    runIn world (ExceptT.lift d >>= f) s =
      runIn world (f (d.run world s).1) (d.run world s).2 := by
  refine runIn_bind_ok f ?_
  change Dialogue.run world (d >>= fun a => Dialogue.done (Except.ok a)) s = _
  rw [Dialogue.run_bind, Dialogue.run_done]

/-- A look at the clocks is answered from elsewhere, and the server does not notice. -/
theorem runIn_moment_bind {server : Server σ} {elsewhere : Elsewhere} (v : Visit σ)
    (f : Moment → Attempt β) :
    runIn (server.world elsewhere) (ExceptT.lift Dialogue.moment >>= f) v =
      runIn (server.world elsewhere) (f (elsewhere .moment v.past))
        { v with past := v.past ++ [.moment] } :=
  runIn_lift_bind Dialogue.moment f

end Attempt

/-! ### Calls of a client -/

theorem toLower_of_map {s : String} (h : s.toList.map Char.toLower = s.toList) : s.toLower = s := by
  have hmap : s.toLower = s.map Char.toLower := rfl
  rw [← String.toList_inj, hmap, String.toList_map]
  exact h

namespace Http.Client

open Attempt

variable (client : Client)

/-- A request carries both credentials, the time limit, and with a body the kind of its content. -/
theorem request_eq (method : Method) (url : String) (body : Option Json.Value) :
    client.request method url body =
      { method
        url
        headers :=
          [("authorization", "Bearer " ++ client.credentials.accessToken),
            ("x-api-key", client.credentials.apiKey)] ++
          if body.isSome then [("content-type", "application/json")] else []
        body := body.map Json.Value.render
        timeoutMs := client.timeoutMs } := by
  have hauthorization : "authorization".toLower = "authorization" := toLower_of_map (by decide)
  have hkey : "x-api-key".toLower = "x-api-key" := toLower_of_map (by decide)
  have htype : "content-type".toLower = "content-type" := toLower_of_map (by decide)
  have hbearer : toString "Bearer " ++ toString client.credentials.accessToken =
      "Bearer " ++ client.credentials.accessToken := rfl
  cases body <;>
    simp [request, Request.withHeader, Request.withBody, Request.withAuth, Request.withTimeout,
      Request.new, Credentials.auths, Keyed.put, hauthorization, hkey, htype, hbearer]

@[simp] theorem method_request (method : Method) (url : String) (body : Option Json.Value) :
    (client.request method url body).method = method := by
  cases body <;> rfl

@[simp] theorem url_request (method : Method) (url : String) (body : Option Json.Value) :
    (client.request method url body).url = url := by
  cases body <;> rfl

@[simp] theorem body_request (method : Method) (url : String) (body : Option Json.Value) :
    (client.request method url body).body = body.map Json.Value.render := by
  cases body <;> rfl

/-- What a call asks for its request. -/
def asked (request : Request) : List Query :=
  (match client.pacer with
    | some pacer => [.pace pacer.perSecond]
    | none => []) ++ [.exchange request]

@[simp] theorem requestsOf_asked (request : Request) :
    requestsOf (client.asked request) = [request] := by
  unfold asked
  cases client.pacer <;> rfl

section Calls

variable {client} {server : Server σ} (elsewhere : Elsewhere) {v : Visit σ} {state : σ}
variable {method : Method} {url : String} {response : Response}

theorem runIn_execute {body : Option Json.Value}
    (h : server (client.request method url body) v.state = (.ok response, state)) :
    runIn (server.world elsewhere) (client.execute method url body) v =
      (response.classify,
        { state, past := v.past ++ client.asked (client.request method url body) }) := by
  have hexchange (past : List Query) :
      Dialogue.run (server.world elsewhere) (Dialogue.exchange (client.request method url body))
          { v with past } =
        (.ok response,
          { state, past := past ++ [.exchange (client.request method url body)] }) := by
    simp only [Dialogue.exchange, Dialogue.run, Server.world, h]
  have hanswer (past : List Query)
      (f : Except Failure Response → Attempt (Option String)) :
      runIn (server.world elsewhere)
          (ExceptT.lift (Dialogue.exchange (client.request method url body)) >>= f)
          { v with past } =
        runIn (server.world elsewhere) (f (.ok response))
          { state, past := past ++ [.exchange (client.request method url body)] } :=
    (runIn_lift_bind _ f).trans (by rw [hexchange past])
  unfold execute asked
  cases client.pacer with
  | none => exact hanswer v.past _
  | some pacer =>
    rw [← List.append_assoc]
    exact (runIn_lift_bind (Dialogue.pace pacer.perSecond) _).trans (hanswer _ _)

theorem runIn_get {d : Json.Decoder α} {payload : String} {a : α}
    (h : server (client.request .get url none) v.state = (.ok response, state))
    (hpayload : response.classify = .ok (some payload))
    (hdecoded : Json.Decoder.decode? d payload = some a) :
    runIn (server.world elsewhere) (client.get url d) v =
      (.ok a, { state, past := v.past ++ client.asked (client.request .get url none) }) := by
  have hcall := runIn_execute elsewhere h
  rw [hpayload] at hcall
  unfold get
  rw [runIn_bind_ok _ hcall]
  simp only [runIn_mk_pure, decoded, hdecoded]

theorem runIn_send {d : Json.Decoder α} {payload : String} {body : Json.Value} {a : α}
    (h : server (client.request method url (some body)) v.state = (.ok response, state))
    (hpayload : response.classify = .ok (some payload))
    (hdecoded : Json.Decoder.decode? d payload = some a) :
    runIn (server.world elsewhere) (client.send method url body d) v =
      (.ok (some a),
        { state, past := v.past ++ client.asked (client.request method url (some body)) }) := by
  have hcall := runIn_execute elsewhere h
  rw [hpayload] at hcall
  unfold send
  rw [runIn_bind_ok _ hcall]
  simp only [runIn_mk_pure, decoded, hdecoded, Except.map]

theorem runIn_push {payload : String} {body : Json.Value}
    (h : server (client.request method url (some body)) v.state = (.ok response, state))
    (hpayload : response.classify = .ok (some payload))
    (hjson : (Json.Tree.parse? payload).isSome) :
    runIn (server.world elsewhere) (client.push method url body) v =
      (.ok (),
        { state, past := v.past ++ client.asked (client.request method url (some body)) }) := by
  obtain ⟨t, ht⟩ := Option.isSome_iff_exists.1 hjson
  have hdecoded : Json.Decoder.decode? anything payload = some () := by
    rw [Json.Decoder.decode?, ht]
    rfl
  unfold push
  rw [runIn_bind_ok _ (runIn_send elsewhere h hpayload hdecoded)]
  rfl

end Calls

end Http.Client

end ShopSync
