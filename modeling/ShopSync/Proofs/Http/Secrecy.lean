import Mathlib.Tactic
import ShopSync.Proofs.Dialogue
import ShopSync.Proofs.Server

/-!
Computations that are alike but for secrets.

Two header fields of a request show secrets.  Two computations are alike when they ask the same, in
the same order, but for the values of these fields, and come to related results, whatever the
answers are (`Dialogue.Alike`).  A world that does not look at these values then cannot tell one
from the other (`Alike.run`).
-/

namespace ShopSync

/-! ### What shows of a request -/

namespace Http

/-- The header fields that show secrets. -/
def secretFields : List String := ["authorization", "x-api-key"]

/-- The request without the values of the fields that show secrets. -/
def Request.concealed (request : Request) : Request :=
  { request with
    headers := request.headers.map fun (name, value) =>
      (name, if name ∈ secretFields then "" else value) }

/-- Credentials show in no other fields. -/
theorem concealed_request (client : Client) (credentials : Credentials) (method : Method)
    (url : String) (body : Option Json.Value) :
    (client.request method url body).concealed =
      (({ client with credentials } : Client).request method url body).concealed := by
  rw [Client.request_eq, Client.request_eq]
  simp [Request.concealed, secretFields]

end Http

/-- The query without the secrets of a request. -/
def Query.concealed : Query → Query
  | .exchange request => .exchange request.concealed
  | query => query

/-- The answer to a request does not depend on the values of the fields that show secrets. -/
def World.IsBlind (world : World σ) : Prop :=
  ∀ (request request' : Http.Request) (s : σ), request.concealed = request'.concealed →
    world.answer (.exchange request) s = world.answer (.exchange request') s

/-- Both fail with the same error, or both give results that are related. -/
inductive BothGive {ε α α' : Type} (R : α → α' → Prop) : Except ε α → Except ε α' → Prop
  | error (e : ε) : BothGive R (.error e) (.error e)
  | ok {a : α} {a' : α'} (h : R a a') : BothGive R (.ok a) (.ok a')

namespace BothGive

variable {ε ε' α α' : Type} {R : α → α' → Prop} {outcome : Except ε α} {outcome' : Except ε α'}

theorem refl (outcome : Except ε α) : BothGive Eq outcome outcome := by
  cases outcome with
  | error e => exact .error e
  | ok a => exact .ok rfl

theorem eq {outcome outcome' : Except ε α} (h : BothGive Eq outcome outcome') :
    outcome' = outcome := by
  cases h with
  | error e => rfl
  | ok h => exact congrArg Except.ok h.symm

theorem mapError (h : BothGive R outcome outcome') (f : ε → ε') :
    BothGive R (outcome.mapError f) (outcome'.mapError f) := by
  cases h with
  | error e => exact .error (f e)
  | ok h => exact .ok h

end BothGive

/-! ### Dialogues -/

namespace Dialogue

variable {α α' β β' : Type} {R : α → α' → Prop} {S : β → β' → Prop}

/-- The computations ask the same but for secrets, and come to related results. -/
inductive Alike (R : α → α' → Prop) : Dialogue α → Dialogue α' → Prop
  | done {a : α} {a' : α'} (h : R a a') : Alike R (done a) (done a')
  | ask (query : Query) {next : query.Answer → Dialogue α} {next' : query.Answer → Dialogue α'}
      (h : ∀ answer, Alike R (next answer) (next' answer)) :
      Alike R (ask query next) (ask query next')
  | exchange {request request' : Http.Request}
      {next : Except Http.Failure Http.Response → Dialogue α}
      {next' : Except Http.Failure Http.Response → Dialogue α'}
      (same : request.concealed = request'.concealed)
      (h : ∀ answer, Alike R (next answer) (next' answer)) :
      Alike R (ask (.exchange request) next) (ask (.exchange request') next')

theorem alike_refl (d : Dialogue α) : Alike Eq d d := by
  induction d with
  | done a => exact .done rfl
  | ask q next ih => exact .ask q ih

theorem Alike.bind {d : Dialogue α} {d' : Dialogue α'} {f : α → Dialogue β}
    {f' : α' → Dialogue β'} (h : Alike R d d') (hf : ∀ a a', R a a' → Alike S (f a) (f' a')) :
    Alike S (d >>= f) (d' >>= f') := by
  induction h with
  | done h => exact hf _ _ h
  | ask query _ ih => exact .ask query ih
  | exchange same _ ih => exact .exchange same ih

/-- What is asked in both comes to the same answer. -/
theorem alike_bind (d : Dialogue α) {f : α → Dialogue β} {f' : α → Dialogue β'}
    (hf : ∀ a, Alike S (f a) (f' a)) : Alike S (d >>= f) (d >>= f') := by
  refine (alike_refl d).bind ?_
  rintro a _ rfl
  exact hf a

/-- A world that does not look at secrets answers the same, and is left in the same state. -/
theorem Alike.run {world : World σ} (hblind : world.IsBlind) {d : Dialogue α} {d' : Dialogue α'}
    (h : Alike R d d') (s : σ) :
    R (d.run world s).1 (d'.run world s).1 ∧ (d.run world s).2 = (d'.run world s).2 ∧
      (d.queries world s).map Query.concealed = (d'.queries world s).map Query.concealed := by
  induction h generalizing s with
  | done h => exact ⟨h, rfl, rfl⟩
  | ask query _ ih =>
    obtain ⟨hresult, hstate, hqueries⟩ := ih (world.answer query s).1 (world.answer query s).2
    exact ⟨hresult, hstate, congrArg (query.concealed :: ·) hqueries⟩
  | @exchange request request' next next' same _ ih =>
    have hanswer := hblind request request' s same
    obtain ⟨hresult, hstate, hqueries⟩ :=
      ih (world.answer (.exchange request) s).1 (world.answer (.exchange request) s).2
    simp only [Dialogue.run, queries, ← hanswer, List.map_cons]
    refine ⟨hresult, hstate, ?_⟩
    rw [hqueries, Query.concealed, Query.concealed, same]

end Dialogue

/-! ### Attempts -/

namespace Attempt

variable {α β : Type}

/-- The attempts ask the same but for secrets, and come to the same. -/
def Alike (attempt attempt' : Attempt α) : Prop := Dialogue.Alike Eq attempt.run attempt'.run

theorem alike_refl (attempt : Attempt α) : attempt.Alike attempt := Dialogue.alike_refl _

theorem Alike.bind {attempt attempt' : Attempt α} {f f' : α → Attempt β}
    (h : attempt.Alike attempt') (hf : ∀ a, (f a).Alike (f' a)) :
    (attempt >>= f).Alike (attempt' >>= f') := by
  unfold Alike
  rw [ExceptT.run_bind, ExceptT.run_bind]
  refine Dialogue.Alike.bind h ?_
  rintro outcome _ rfl
  cases outcome with
  | ok a => exact hf a
  | error e => exact .done rfl

/-- What is the same in both may be followed by what is alike. -/
theorem alike_bind (attempt : Attempt α) {f f' : α → Attempt β} (hf : ∀ a, (f a).Alike (f' a)) :
    (attempt >>= f).Alike (attempt >>= f') :=
  (alike_refl attempt).bind hf

theorem alike_liftM_bind {d d' : Dialogue α} {f f' : α → Attempt β} (h : Dialogue.Alike Eq d d')
    (hf : ∀ a, (f a).Alike (f' a)) :
    ((liftM d : Attempt α) >>= f).Alike ((liftM d' : Attempt α) >>= f') := by
  unfold Alike
  rw [Dialogue.run_liftM_bind, Dialogue.run_liftM_bind]
  refine h.bind ?_
  rintro a _ rfl
  exact hf a

end Attempt

/-! ### Clients -/

namespace Http.Client

open Attempt

variable {α : Type} (client : Client) (credentials : Credentials) (method : Method) (url : String)

theorem alike_execute (body : Option Json.Value) :
    (client.execute method url body).Alike
      (({ client with credentials } : Client).execute method url body) := by
  have hexchange : Dialogue.Alike Eq (Dialogue.exchange (client.request method url body))
      (Dialogue.exchange (({ client with credentials } : Client).request method url body)) :=
    .exchange (concealed_request client credentials method url body) fun _ => .done rfl
  unfold execute
  dsimp only
  cases client.pacer with
  | none => exact alike_liftM_bind hexchange fun outcome => alike_refl _
  | some pacer =>
    exact alike_liftM_bind (Dialogue.alike_refl _) fun _ =>
      alike_liftM_bind hexchange fun outcome => alike_refl _

theorem alike_get (d : Json.Decoder α) :
    (client.get url d).Alike (({ client with credentials } : Client).get url d) :=
  (client.alike_execute credentials .get url none).bind fun _ => alike_refl _

theorem alike_send (body : Json.Value) (d : Json.Decoder α) :
    (client.send method url body d).Alike
      (({ client with credentials } : Client).send method url body d) :=
  (client.alike_execute credentials method url (some body)).bind fun _ => alike_refl _

theorem alike_push (body : Json.Value) :
    (client.push method url body).Alike
      (({ client with credentials } : Client).push method url body) :=
  (client.alike_send credentials method url body anything).bind fun _ => alike_refl _

theorem alike_delete :
    (client.delete url).Alike (({ client with credentials } : Client).delete url) :=
  (client.alike_execute credentials .delete url none).bind fun _ => alike_refl _

end Http.Client

end ShopSync
