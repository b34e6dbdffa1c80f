import Mathlib.Tactic
import ShopSync.Proofs.Http.Exchange
import ShopSync.Proofs.Outcome

/-!
What an attempt can send, and what it comes to.

`HasRun` says that there is an outside in which an attempt sends these requests, with these replies,
and comes to this outcome.  Every transcript can be replayed, so that is the same as to have a
transcript (`hasRun_iff`), and the runs of an attempt are read off its parts, from both sides: what
is said of the runs of `x >>= f` holds exactly of the runs of `x` with a run of `f` behind them.

A call of a client sends one request, and the reply alone decides what it comes to.
-/

namespace ShopSync

open Http (Exchange Failure Method Response)

/-! ### Replays -/

namespace Dialogue

variable {α : Type}

/-- Some answer to a query. -/
def someAnswer : (q : Query) → q.Answer
  | .exchange _ => .error (Failure.unreachable "nobody there")
  | .moment => { wall := .epoch, uptime := 0, cancelled := [] }
  | .freshId => ⟨0⟩
  | .pace _ => ()
  | .fileExists _ => false
  | .readFile _ => .error .missing
  | .writeFile _ _ => .error .missing

/-- The outside that gives the answers of a transcript, one after another. -/
def replay : World (List Answered) where
  answer q
    | [] => (someAnswer q, [])
    | x :: rest => if h : x.query = q then (h ▸ x.answer, rest) else (someAnswer q, rest)

/-- With the answers of a transcript a computation asks what it says and comes to its result. -/
theorem replay_of_gives {d : Dialogue α} {t : List Answered} {a : α} (h : d.Gives t a) :
    d.transcript replay t = t ∧ (d.run replay t).1 = a := by
  induction d generalizing t with
  | done b =>
    obtain ⟨rfl, rfl⟩ := h
    exact ⟨rfl, rfl⟩
  | ask q next ih =>
    obtain ⟨answer, rest, rfl, hrest⟩ := h
    have hanswer : replay.answer q (⟨q, answer⟩ :: rest) = (answer, rest) := dif_pos rfl
    obtain ⟨htranscript, hresult⟩ := ih answer hrest
    constructor
    · rw [transcript, hanswer]
      exact congrArg (⟨q, answer⟩ :: ·) htranscript
    · rw [run, hanswer]
      exact hresult

end Dialogue

/-! ### Runs of attempts -/

namespace Attempt

variable {α β : Type}

/-- In some outside the attempt sends these requests, with these replies, and comes to this. -/
def HasRun (attempt : Attempt α) (es : List Exchange) (outcome : Except MarketError α) : Prop :=
  ∃ (σ : Type) (world : World σ) (s : σ),
    exchangesIn (attempt.run.transcript world s) = es ∧ (attempt.run.run world s).1 = outcome

theorem hasRun_iff {attempt : Attempt α} {es : List Exchange} {outcome : Except MarketError α} :
    attempt.HasRun es outcome ↔ ∃ t, attempt.run.Gives t outcome ∧ exchangesIn t = es := by
  constructor
  · rintro ⟨σ, world, s, hes, houtcome⟩
    have hgives := Dialogue.gives_transcript world attempt.run s
    rw [houtcome] at hgives
    exact ⟨_, hgives, hes⟩
  · rintro ⟨t, hgives, hes⟩
    obtain ⟨htranscript, hresult⟩ := Dialogue.replay_of_gives hgives
    refine ⟨_, Dialogue.replay, t, ?_, hresult⟩
    rw [htranscript, hes]

variable {attempt : Attempt α} {f : α → Attempt β} {es : List Exchange}

theorem hasRun_mk_pure_iff {known outcome : Except MarketError α} :
    HasRun (ExceptT.mk (pure known)) es outcome ↔ es = [] ∧ outcome = known := by
  rw [hasRun_iff]
  constructor
  · rintro ⟨t, hgives, rfl⟩
    obtain ⟨rfl, rfl⟩ := Dialogue.gives_pure_iff.1 hgives
    exact ⟨rfl, rfl⟩
  · rintro ⟨rfl, rfl⟩
    exact ⟨[], ⟨rfl, rfl⟩, rfl⟩

theorem hasRun_pure_iff {a : α} {outcome : Except MarketError α} :
    HasRun (pure a) es outcome ↔ es = [] ∧ outcome = .ok a :=
  hasRun_mk_pure_iff

/-- A run of an attempt and what follows is a failure of the attempt, or a success with a run of
what follows behind it. -/
theorem hasRun_bind_iff {outcome : Except MarketError β} :
    (attempt >>= f).HasRun es outcome ↔
      (∃ e, attempt.HasRun es (.error e) ∧ outcome = .error e) ∨
        ∃ a es₁ es₂, es = es₁ ++ es₂ ∧ attempt.HasRun es₁ (.ok a) ∧ (f a).HasRun es₂ outcome := by
  simp only [hasRun_iff]
  constructor
  · rintro ⟨t, hgives, rfl⟩
    rcases Dialogue.gives_run_bind hgives with ⟨e, he, rfl⟩ | ⟨a, t₁, t₂, rfl, h₁, h₂⟩
    · exact .inl ⟨e, ⟨t, he, rfl⟩, rfl⟩
    · rw [exchangesIn_append]
      exact .inr ⟨a, _, _, rfl, ⟨t₁, h₁, rfl⟩, ⟨t₂, h₂, rfl⟩⟩
  · rintro (⟨e, ⟨t, he, rfl⟩, rfl⟩ | ⟨a, _, _, rfl, ⟨t₁, h₁, rfl⟩, ⟨t₂, h₂, rfl⟩⟩)
    · refine ⟨t, ?_, rfl⟩
      rw [ExceptT.run_bind, Dialogue.gives_bind_iff]
      exact ⟨.error e, t, [], (List.append_nil t).symm, he, ⟨rfl, rfl⟩⟩
    · refine ⟨t₁ ++ t₂, ?_, exchangesIn_append t₁ t₂⟩
      rw [ExceptT.run_bind, Dialogue.gives_bind_iff]
      exact ⟨.ok a, t₁, t₂, rfl, h₁, h₂⟩

/-- The same when a failure of the attempt does not keep the rest back. -/
theorem hasRun_lift_run_bind_iff {f : Except MarketError α → Attempt β}
    {outcome : Except MarketError β} :
    HasRun (ExceptT.lift attempt.run >>= f) es outcome ↔
      ∃ found es₁ es₂, es = es₁ ++ es₂ ∧ attempt.HasRun es₁ found ∧
        (f found).HasRun es₂ outcome := by
  simp only [hasRun_iff, ExceptT.run_bind_lift, Dialogue.gives_bind_iff]
  constructor
  · rintro ⟨_, ⟨found, t₁, t₂, rfl, h₁, h₂⟩, rfl⟩
    exact ⟨found, _, _, exchangesIn_append t₁ t₂, ⟨t₁, h₁, rfl⟩, ⟨t₂, h₂, rfl⟩⟩
  · rintro ⟨found, _, _, rfl, ⟨t₁, h₁, rfl⟩, ⟨t₂, h₂, rfl⟩⟩
    exact ⟨t₁ ++ t₂, ⟨found, t₁, t₂, rfl, h₁, h₂⟩, exchangesIn_append t₁ t₂⟩

/-- What is known without asking is not seen from outside. -/
theorem hasRun_ok_bind_iff {a : α} {outcome : Except MarketError β} :
    HasRun (ExceptT.mk (pure (.ok a)) >>= f) es outcome ↔ (f a).HasRun es outcome := Iff.rfl

theorem hasRun_error_bind_iff {e : MarketError} {outcome : Except MarketError β} :
    HasRun (ExceptT.mk (pure (.error e)) >>= f) es outcome ↔ es = [] ∧ outcome = .error e :=
  hasRun_mk_pure_iff

theorem hasRun_pace_bind_iff {perSecond : UInt32} {f : Unit → Attempt β}
    {outcome : Except MarketError β} :
    HasRun (liftM (Dialogue.pace perSecond) >>= f) es outcome ↔ (f ()).HasRun es outcome := by
  simp only [hasRun_iff, Dialogue.run_liftM_bind]
  constructor
  · rintro ⟨_, ⟨paced, rest, rfl, hrest⟩, rfl⟩
    exact ⟨rest, hrest, rfl⟩
  · rintro ⟨rest, hrest, rfl⟩
    exact ⟨_, ⟨(), rest, rfl, hrest⟩, rfl⟩

theorem hasRun_moment_bind_iff {f : Moment → Attempt β} {outcome : Except MarketError β} :
    HasRun (liftM Dialogue.moment >>= f) es outcome ↔ ∃ now, (f now).HasRun es outcome := by
  simp only [hasRun_iff, Dialogue.run_liftM_bind]
  constructor
  · rintro ⟨_, ⟨now, rest, rfl, hrest⟩, rfl⟩
    exact ⟨now, rest, hrest, rfl⟩
  · rintro ⟨now, rest, hrest, rfl⟩
    exact ⟨_, ⟨now, rest, rfl, hrest⟩, rfl⟩

theorem hasRun_exchange_bind_iff {request : Http.Request} {f : Except Failure Response → Attempt β}
    {outcome : Except MarketError β} :
    HasRun (liftM (Dialogue.exchange request) >>= f) es outcome ↔
      ∃ reply es', es = { request, outcome := reply } :: es' ∧ (f reply).HasRun es' outcome := by
  simp only [hasRun_iff, Dialogue.run_liftM_bind]
  constructor
  · rintro ⟨_, ⟨reply, rest, rfl, hrest⟩, rfl⟩
    exact ⟨reply, _, rfl, rest, hrest, rfl⟩
  · rintro ⟨reply, _, rfl, rest, hrest, rfl⟩
    exact ⟨_, ⟨reply, rest, rfl, hrest⟩, rfl⟩

/-! ### One request -/

/-- The attempt sends this request and no other one, and comes to what the reply says. -/
def SendsOne (attempt : Attempt α) (request : Http.Request)
    (settle : Except Failure Response → Except MarketError α) : Prop :=
  ∀ es outcome, attempt.HasRun es outcome ↔
    ∃ reply, es = [{ request, outcome := reply }] ∧ outcome = settle reply

variable {request : Http.Request} {settle : Except Failure Response → Except MarketError α}

/-- What only looks into the outcome sends nothing more. -/
theorem SendsOne.bind_pure (h : attempt.SendsOne request settle)
    {g : α → Except MarketError β} (hf : ∀ a, f a = ExceptT.mk (pure (g a))) :
    (attempt >>= f).SendsOne request fun reply => settle reply >>= g := by
  intro es outcome
  simp only [hasRun_bind_iff, hf, hasRun_mk_pure_iff, h _ _]
  constructor
  · rintro (⟨e, ⟨reply, rfl, hsettle⟩, rfl⟩ | ⟨a, _, _, rfl, ⟨reply, rfl, hsettle⟩, rfl, rfl⟩)
    · exact ⟨reply, rfl, by rw [← hsettle]; rfl⟩
    · exact ⟨reply, List.append_nil _, by rw [← hsettle]; rfl⟩
  · rintro ⟨reply, rfl, rfl⟩
    cases hsettle : settle reply with
    | error e => exact .inl ⟨e, ⟨reply, rfl, hsettle.symm⟩, rfl⟩
    | ok a => exact .inr ⟨a, _, [], (List.append_nil _).symm, ⟨reply, rfl, hsettle.symm⟩, rfl, rfl⟩

/-- What goes on from one request goes on behind it. -/
theorem SendsOne.hasRun_bind_iff (h : attempt.SendsOne request settle)
    {outcome : Except MarketError β} :
    (attempt >>= f).HasRun es outcome ↔
      ∃ reply, (∃ e, settle reply = .error e ∧ es = [{ request, outcome := reply }] ∧
          outcome = .error e) ∨
        ∃ a es', settle reply = .ok a ∧ es = { request, outcome := reply } :: es' ∧
          (f a).HasRun es' outcome := by
  rw [Attempt.hasRun_bind_iff]
  simp only [h _ _]
  constructor
  · rintro (⟨e, ⟨reply, rfl, hsettle⟩, rfl⟩ | ⟨a, _, es', rfl, ⟨reply, rfl, hsettle⟩, hrest⟩)
    · exact ⟨reply, .inl ⟨e, hsettle.symm, rfl, rfl⟩⟩
    · exact ⟨reply, .inr ⟨a, es', hsettle.symm, rfl, hrest⟩⟩
  · rintro ⟨reply, ⟨e, hsettle, rfl, rfl⟩ | ⟨a, es', hsettle, rfl, hrest⟩⟩
    · exact .inl ⟨e, ⟨reply, rfl, hsettle.symm⟩, rfl⟩
    · exact .inr ⟨a, [_], es', rfl, ⟨reply, rfl, hsettle.symm⟩, hrest⟩

end Attempt

/-! ### Replies -/

namespace Http

namespace Response

variable {response : Response} {payload : String} {e : MarketError}

/-- A success without a payload. -/
def IsEmpty (response : Response) : Prop :=
  response.status < 400 ∧ (response.status = 204 ∨ Text.isBlankText response.body = true)

/-- A success with a payload. -/
def Carries (response : Response) (payload : String) : Prop :=
  response.status < 400 ∧ response.status ≠ 204 ∧ Text.isBlankText response.body = false ∧
    response.body = payload

/-- The status stands for an error. -/
inductive Denies (response : Response) : MarketError → Prop
  | tooMany (hstatus : response.status = 429) : Denies response (.tooManyRequests response.body)
  | rejected (hstatus : response.status = 401) :
      Denies response (.rejectedCredentials response.body)
  | remote (hstatus : 400 ≤ response.status) (hmany : response.status ≠ 429)
      (hrejected : response.status ≠ 401) :
      Denies response (.remote response.status response.body)

theorem classify_eq_error_iff : response.classify = .error e ↔ response.Denies e := by
  constructor
  · intro h
    unfold classify at h
    split at h
    next hmany =>
      cases h
      exact .tooMany hmany
    next hmany =>
      split at h
      next hrejected =>
        cases h
        exact .rejected hrejected
      next hrejected =>
        repeat' split at h
        all_goals cases h
        next herror => exact .remote (of_decide_eq_true herror) hmany hrejected
  · intro h
    unfold classify
    cases h with
    | tooMany hmany => rw [if_pos hmany]
    | rejected hrejected =>
      have hmany : response.status ≠ 429 := by omega
      rw [if_neg hmany, if_pos hrejected]
    | remote hstatus hmany hrejected =>
      have hcontent : response.status ≠ 204 := by omega
      have herror : response.isError = true := decide_eq_true hstatus
      rw [if_neg hmany, if_neg hrejected, if_neg hcontent, if_pos herror]

/-- Below the errors only the body and the status for no content matter. -/
theorem classify_of_lt (h : response.status < 400) :
    response.classify =
      if response.status = 204 ∨ Text.isBlankText response.body = true then .ok none
      else .ok (some response.body) := by
  have hmany : response.status ≠ 429 := by omega
  have hrejected : response.status ≠ 401 := by omega
  have herror : ¬response.isError = true := fun hle => absurd (of_decide_eq_true hle) (by omega)
  unfold classify
  rw [if_neg hmany, if_neg hrejected, if_neg herror]
  by_cases hcontent : response.status = 204
  · rw [if_pos hcontent, if_pos (.inl hcontent)]
  · by_cases hblank : Text.isBlankText response.body = true
    · rw [if_neg hcontent, if_pos hblank, if_pos (.inr hblank)]
    · rw [if_neg hcontent, if_neg hblank, if_neg (not_or.2 ⟨hcontent, hblank⟩)]

theorem lt_of_classify_eq_ok {found : Option String} (h : response.classify = .ok found) :
    response.status < 400 := by
  by_contra hle
  have hdenies : ∃ e, response.Denies e := by
    by_cases hmany : response.status = 429
    · exact ⟨_, .tooMany hmany⟩
    · by_cases hrejected : response.status = 401
      · exact ⟨_, .rejected hrejected⟩
      · exact ⟨_, .remote (Nat.le_of_not_lt hle) hmany hrejected⟩
  obtain ⟨e, he⟩ := hdenies
  rw [classify_eq_error_iff.2 he] at h
  cases h

theorem classify_eq_none_iff : response.classify = .ok none ↔ response.IsEmpty := by
  constructor
  · intro h
    have hlt := lt_of_classify_eq_ok h
    rw [classify_of_lt hlt] at h
    split at h
    next hempty => exact ⟨hlt, hempty⟩
    next => cases h
  · rintro ⟨hlt, hempty⟩
    rw [classify_of_lt hlt, if_pos hempty]

theorem classify_eq_some_iff :
    response.classify = .ok (some payload) ↔ response.Carries payload := by
  constructor
  · intro h
    have hlt := lt_of_classify_eq_ok h
    rw [classify_of_lt hlt] at h
    split at h
    next => cases h
    next hfull =>
      obtain ⟨hcontent, hblank⟩ := not_or.1 hfull
      cases h
      exact ⟨hlt, hcontent, Bool.not_eq_true _ ▸ hblank, rfl⟩
  · rintro ⟨hlt, hcontent, hblank, rfl⟩
    rw [classify_of_lt hlt, if_neg]
    rw [hblank]
    exact not_or.2 ⟨hcontent, Bool.false_ne_true⟩

end Response

/-! ### Calls of a client -/

namespace Client

open Attempt

variable {α : Type} (client : Client) (method : Method) (url : String)

/-- What a call comes to with a reply. -/
def settle : Except Failure Response → Except MarketError (Option String)
  | .error failure => .error (.noAnswer method.word url failure.message)
  | .ok response => response.classify

/-- The call fails: there is no response, or one that stands for an error. -/
inductive Fails : Except Failure Response → MarketError → Prop
  | unanswered (failure : Failure) :
      Fails (.error failure) (.noAnswer method.word url failure.message)
  | denied {response : Response} {e : MarketError} (hdenies : response.Denies e) :
      Fails (.ok response) e

section Settle

variable {method url} {reply : Except Failure Response} {e : MarketError}

theorem settle_eq_error_iff : settle method url reply = .error e ↔ Fails method url reply e := by
  cases reply with
  | error failure =>
    constructor
    · intro h
      cases h
      exact .unanswered failure
    · rintro ⟨⟩
      rfl
  | ok response =>
    constructor
    · intro h
      exact .denied (Response.classify_eq_error_iff.1 h)
    · rintro (_ | hdenies)
      exact Response.classify_eq_error_iff.2 hdenies

theorem settle_eq_none_iff :
    settle method url reply = .ok none ↔ ∃ response, reply = .ok response ∧ response.IsEmpty := by
  cases reply with
  | error failure => simp [settle]
  | ok response =>
    rw [settle, Response.classify_eq_none_iff]
    simp

theorem settle_eq_some_iff {payload : String} :
    settle method url reply = .ok (some payload) ↔
      ∃ response, reply = .ok response ∧ response.Carries payload := by
  cases reply with
  | error failure => simp [settle]
  | ok response =>
    rw [settle, Response.classify_eq_some_iff]
    simp

end Settle

theorem sendsOne_execute (body : Option Json.Value) :
    (client.execute method url body).SendsOne (client.request method url body)
      (settle method url) := by
  intro es outcome
  have hexchange : HasRun (do
        match ← Dialogue.exchange (client.request method url body) with
        | .error failure => throw (.noAnswer method.word url failure.message)
        | .ok response => ExceptT.mk (pure response.classify)) es outcome ↔
      ∃ reply, es = [{ request := client.request method url body, outcome := reply }] ∧
        outcome = settle method url reply := by
    rw [hasRun_exchange_bind_iff]
    refine exists_congr fun reply => ?_
    have hreply : HasRun (match reply with
          | .error failure => throw (.noAnswer method.word url failure.message)
          | .ok response => ExceptT.mk (pure response.classify)) =
        HasRun (ExceptT.mk (pure (settle method url reply))) := by
      cases reply <;> rfl
    simp only [hreply, hasRun_mk_pure_iff]
    constructor
    · rintro ⟨_, rfl, rfl, houtcome⟩
      exact ⟨rfl, houtcome⟩
    · rintro ⟨rfl, houtcome⟩
      exact ⟨[], rfl, rfl, houtcome⟩
  unfold execute
  -- with a budget or without one the exchange is the same
  cases client.pacer with
  | none => exact hexchange
  | some pacer => exact hasRun_pace_bind_iff.trans hexchange

/-! #### What is got -/

/-- What is got with a reply: one without a payload, or with one that cannot be read, is a
failure. -/
def settleGet (d : Json.Decoder α) (reply : Except Failure Response) : Except MarketError α :=
  settle .get url reply >>= fun
    | none => .error (.emptyAnswer url)
    | some payload => decoded d payload

theorem sendsOne_get (d : Json.Decoder α) :
    (client.get url d).SendsOne (client.request .get url none) (settleGet url d) := by
  refine (sendsOne_execute client .get url none).bind_pure fun found => ?_
  cases found <;> rfl

/-- Nothing is got: the call fails, or there is no payload, or none that can be read. -/
inductive GetFails (d : Json.Decoder α) : Except Failure Response → MarketError → Prop
  | call {reply : Except Failure Response} {e : MarketError} (hfails : Fails .get url reply e) :
      GetFails d reply e
  | empty {response : Response} (hempty : response.IsEmpty) :
      GetFails d (.ok response) (.emptyAnswer url)
  | undecodable {response : Response} {payload : String} (hcarries : response.Carries payload)
      (hpayload : Json.Decoder.decode? d payload = none) : GetFails d (.ok response) .undecodable

/-! #### What is sent -/

/-- What comes back for something that is sent. -/
def settleSend (d : Json.Decoder α) (reply : Except Failure Response) :
    Except MarketError (Option α) :=
  settle method url reply >>= fun
    | none => .ok none
    | some payload => (decoded d payload).map some

theorem sendsOne_send (body : Json.Value) (d : Json.Decoder α) :
    (client.send method url body d).SendsOne (client.request method url (some body))
      (settleSend method url d) := by
  refine (sendsOne_execute client method url (some body)).bind_pure fun found => ?_
  cases found <;> rfl

/-- Something was sent in vain: the call fails, or what came back cannot be read. -/
inductive SendFails (d : Json.Decoder α) : Except Failure Response → MarketError → Prop
  | call {reply : Except Failure Response} {e : MarketError} (hfails : Fails method url reply e) :
      SendFails d reply e
  | undecodable {response : Response} {payload : String} (hcarries : response.Carries payload)
      (hpayload : Json.Decoder.decode? d payload = none) : SendFails d (.ok response) .undecodable

/-- What comes back for something that is pushed. -/
def settlePush (reply : Except Failure Response) : Except MarketError Unit :=
  settleSend method url anything reply >>= fun _ => .ok ()

theorem sendsOne_push (body : Json.Value) :
    (client.push method url body).SendsOne (client.request method url (some body))
      (settlePush method url) :=
  (sendsOne_send client method url body anything).bind_pure fun _ => rfl

/-- A success without a payload or with one that is JSON, of whatever kind. -/
def IsTaken (reply : Except Failure Response) : Prop :=
  ∃ response, reply = .ok response ∧ response.status < 400 ∧
    (response.status = 204 ∨ Text.isBlankText response.body = true ∨
      (Json.Tree.parse? response.body).isSome = true)

/-! #### What is deleted -/

/-- What comes back for something that is deleted. -/
def settleDelete (reply : Except Failure Response) : Except MarketError Unit :=
  settle .delete url reply >>= fun _ => .ok ()

theorem sendsOne_delete :
    (client.delete url).SendsOne (client.request .delete url none) (settleDelete url) :=
  (sendsOne_execute client .delete url none).bind_pure fun _ => rfl

/-- A success of any kind. -/
def IsSuccess (reply : Except Failure Response) : Prop :=
  ∃ response, reply = .ok response ∧ response.status < 400

section Outcomes

variable {method url} {d : Json.Decoder α} {reply : Except Failure Response} {e : MarketError}
variable {payload : String}

theorem decoded_eq_ok_iff {a : α} :
    decoded d payload = .ok a ↔ Json.Decoder.decode? d payload = some a := by
  unfold decoded
  cases Json.Decoder.decode? d payload <;> simp

theorem decoded_eq_error_iff :
    decoded d payload = .error e ↔
      Json.Decoder.decode? d payload = none ∧ e = .undecodable := by
  unfold decoded
  cases Json.Decoder.decode? d payload <;> simp [eq_comm]

theorem settleGet_eq_error_iff : settleGet url d reply = .error e ↔ GetFails url d reply e := by
  rw [settleGet, bind_eq_error_iff, Option.exists]
  simp only [settle_eq_error_iff, settle_eq_none_iff, settle_eq_some_iff, decoded_eq_error_iff]
  constructor
  · rintro (hfails | ⟨⟨response, rfl, hempty⟩, ⟨⟩⟩ |
      ⟨payload, ⟨response, rfl, hcarries⟩, hpayload, rfl⟩)
    · exact .call hfails
    · exact .empty hempty
    · exact .undecodable hcarries hpayload
  · rintro (hfails | hempty | ⟨hcarries, hpayload⟩)
    · exact .inl hfails
    · exact .inr (.inl ⟨⟨_, rfl, hempty⟩, rfl⟩)
    · exact .inr (.inr ⟨_, ⟨_, rfl, hcarries⟩, hpayload, rfl⟩)

theorem settleGet_eq_ok_iff {a : α} :
    settleGet url d reply = .ok a ↔
      ∃ response payload, reply = .ok response ∧ response.Carries payload ∧
        Json.Decoder.decode? d payload = some a := by
  rw [settleGet, bind_eq_ok_iff, Option.exists]
  simp only [settle_eq_some_iff, decoded_eq_ok_iff]
  constructor
  · rintro (⟨-, ⟨⟩⟩ | ⟨payload, ⟨response, rfl, hcarries⟩, hpayload⟩)
    exact ⟨response, payload, rfl, hcarries, hpayload⟩
  · rintro ⟨response, payload, rfl, hcarries, hpayload⟩
    exact .inr ⟨payload, ⟨response, rfl, hcarries⟩, hpayload⟩

theorem settleSend_eq_error_iff :
    settleSend method url d reply = .error e ↔ SendFails method url d reply e := by
  rw [settleSend, bind_eq_error_iff, Option.exists]
  simp only [settle_eq_error_iff, settle_eq_some_iff, map_eq_error_iff, decoded_eq_error_iff]
  constructor
  · rintro (hfails | ⟨-, ⟨⟩⟩ | ⟨payload, ⟨response, rfl, hcarries⟩, hpayload, rfl⟩)
    · exact .call hfails
    · exact .undecodable hcarries hpayload
  · rintro (hfails | ⟨hcarries, hpayload⟩)
    · exact .inl hfails
    · exact .inr (.inr ⟨_, ⟨_, rfl, hcarries⟩, hpayload, rfl⟩)

theorem settleSend_eq_none_iff :
    settleSend method url d reply = .ok none ↔
      ∃ response, reply = .ok response ∧ response.IsEmpty := by
  rw [settleSend, bind_eq_ok_iff, Option.exists]
  simp only [settle_eq_none_iff, map_eq_ok_iff]
  constructor
  · rintro (⟨hempty, -⟩ | ⟨payload, -, a, -, ⟨⟩⟩)
    exact hempty
  · intro hempty
    exact .inl ⟨hempty, trivial⟩

theorem settleSend_eq_some_iff {a : α} :
    settleSend method url d reply = .ok (some a) ↔
      ∃ response payload, reply = .ok response ∧ response.Carries payload ∧
        Json.Decoder.decode? d payload = some a := by
  rw [settleSend, bind_eq_ok_iff, Option.exists]
  simp only [settle_eq_some_iff, map_eq_ok_iff, decoded_eq_ok_iff]
  constructor
  · rintro (⟨-, ⟨⟩⟩ | ⟨payload, ⟨response, rfl, hcarries⟩, _, hpayload, ⟨⟩⟩)
    exact ⟨response, payload, rfl, hcarries, hpayload⟩
  · rintro ⟨response, payload, rfl, hcarries, hpayload⟩
    exact .inr ⟨payload, ⟨response, rfl, hcarries⟩, a, hpayload, rfl⟩

theorem settlePush_eq_error_iff :
    settlePush method url reply = .error e ↔ SendFails method url anything reply e := by
  rw [settlePush, bind_eq_error_iff, settleSend_eq_error_iff]
  simp

theorem settlePush_eq_ok_iff : settlePush method url reply = .ok () ↔ IsTaken reply := by
  have hanything (payload : String) : Json.Decoder.decode? anything payload = some () ↔
      (Json.Tree.parse? payload).isSome = true := by
    unfold Json.Decoder.decode?
    cases Json.Tree.parse? payload <;> simp [anything]
  rw [settlePush, bind_eq_ok_iff, Option.exists]
  simp only [settleSend_eq_none_iff, settleSend_eq_some_iff, hanything, and_true]
  constructor
  · rintro (⟨response, rfl, hlt, hempty⟩ | ⟨-, response, _, rfl, ⟨hlt, -, -, rfl⟩, hjson⟩)
    · exact ⟨response, rfl, hlt, hempty.imp_right .inl⟩
    · exact ⟨response, rfl, hlt, .inr (.inr hjson)⟩
  · rintro ⟨response, rfl, hlt, htaken⟩
    by_cases hempty : response.status = 204 ∨ Text.isBlankText response.body = true
    · exact .inl ⟨response, rfl, hlt, hempty⟩
    · obtain ⟨hcontent, hblank⟩ := not_or.1 hempty
      have hjson := (htaken.resolve_left hcontent).resolve_left hblank
      exact .inr ⟨(), response, _, rfl, ⟨hlt, hcontent, Bool.eq_false_iff.2 hblank, rfl⟩, hjson⟩

theorem settleDelete_eq_error_iff :
    settleDelete url reply = .error e ↔ Fails .delete url reply e := by
  rw [settleDelete, bind_eq_error_iff, settle_eq_error_iff]
  simp

theorem settleDelete_eq_ok_iff : settleDelete url reply = .ok () ↔ IsSuccess reply := by
  rw [settleDelete, bind_eq_ok_iff, Option.exists]
  simp only [settle_eq_none_iff, settle_eq_some_iff, and_true]
  constructor
  · rintro (⟨response, rfl, hlt, -⟩ | ⟨payload, response, rfl, hlt, -⟩)
    · exact ⟨response, rfl, hlt⟩
    · exact ⟨response, rfl, hlt⟩
  · rintro ⟨response, rfl, hlt⟩
    by_cases hempty : response.status = 204 ∨ Text.isBlankText response.body = true
    · exact .inl ⟨response, rfl, hlt, hempty⟩
    · obtain ⟨hcontent, hblank⟩ := not_or.1 hempty
      exact .inr ⟨_, response, rfl, hlt, hcontent, Bool.eq_false_iff.2 hblank, rfl⟩

end Outcomes

end Client

end Http

end ShopSync
