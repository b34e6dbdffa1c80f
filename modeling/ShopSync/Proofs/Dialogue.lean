import Mathlib.Tactic
import ShopSync.Http.Client

/-!
Transcripts.

A computation that ends has asked some queries and got an answer to each; that is its transcript.
`Gives` says that a computation comes to a result with a transcript, whoever answered.  What a
computation does is then read off its transcript, part by part: the transcript of `d >>= f` is that
of `d` followed by that of `f a`.  A run in a world is one way to get a transcript.

A property of computations that a result alone has, and that a bind has when its parts do, is closed
(`Dialogue.IsClosed`); what is built of computations that have it has it too.
-/

namespace ShopSync

/-- Whether the query writes a file. -/
def Query.writesFile : Query → Bool
  | .writeFile _ _ => true
  | _ => false

/-- A query and its answer. -/
structure Answered where
  query : Query
  answer : query.Answer

namespace Answered

/-- What the clocks showed, when they were looked at. -/
def look? : Answered → Option Moment
  | ⟨.moment, now⟩ => some now
  | _ => none

/-- The identifier that was handed out, when one was asked for. -/
def issued? : Answered → Option Uuid
  | ⟨.freshId, id⟩ => some id
  | _ => none

/-- The text that came in: the content of a file or the body of a response. -/
def text? : Answered → Option String
  | ⟨.readFile _, .ok content⟩ => some content
  | ⟨.exchange _, .ok response⟩ => some response.body
  | _ => none

end Answered

/-- What the clocks showed, from look to look. -/
def looksOf (transcript : List Answered) : List Moment := transcript.filterMap Answered.look?

/-- The identifiers that were handed out. -/
def issuedIn (transcript : List Answered) : List Uuid := transcript.filterMap Answered.issued?

/-- The texts that came in. -/
def textsIn (transcript : List Answered) : List String := transcript.filterMap Answered.text?

/-- The clocks show no year before the year 0, and every text that came in has a length that fits a
signed word. -/
structure InRange (transcript : List Answered) : Prop where
  clock : ∀ now ∈ looksOf transcript, 0 ≤ now.wall.civil.1.year
  texts : ∀ s ∈ textsIn transcript, (s.length : Int) < Number.int64Limit

section Views

variable (t t' : List Answered) (now : Moment) (id : Uuid)

@[simp] theorem looksOf_nil : looksOf [] = [] := rfl

@[simp] theorem looksOf_append : looksOf (t ++ t') = looksOf t ++ looksOf t' :=
  List.filterMap_append

@[simp] theorem looksOf_moment : looksOf (⟨.moment, now⟩ :: t) = now :: looksOf t := rfl

@[simp] theorem looksOf_freshId : looksOf (⟨.freshId, id⟩ :: t) = looksOf t := rfl

@[simp] theorem issuedIn_append : issuedIn (t ++ t') = issuedIn t ++ issuedIn t' :=
  List.filterMap_append

@[simp] theorem issuedIn_moment : issuedIn (⟨.moment, now⟩ :: t) = issuedIn t := rfl

@[simp] theorem issuedIn_freshId : issuedIn (⟨.freshId, id⟩ :: t) = id :: issuedIn t := rfl

@[simp] theorem textsIn_append : textsIn (t ++ t') = textsIn t ++ textsIn t' :=
  List.filterMap_append

theorem inRange_append_iff : InRange (t ++ t') ↔ InRange t ∧ InRange t' := by
  constructor
  · rintro ⟨hclock, htexts⟩
    rw [looksOf_append, List.forall_mem_append] at hclock
    rw [textsIn_append, List.forall_mem_append] at htexts
    exact ⟨⟨hclock.1, htexts.1⟩, ⟨hclock.2, htexts.2⟩⟩
  · rintro ⟨h, h'⟩
    refine ⟨?_, ?_⟩
    · rw [looksOf_append, List.forall_mem_append]
      exact ⟨h.clock, h'.clock⟩
    · rw [textsIn_append, List.forall_mem_append]
      exact ⟨h.texts, h'.texts⟩

/-- A look at the clocks is in range when the rest is and they show no year before the year 0. -/
theorem inRange_moment_iff :
    InRange (⟨.moment, now⟩ :: t) ↔ 0 ≤ now.wall.civil.1.year ∧ InRange t := by
  constructor
  · rintro ⟨hclock, htexts⟩
    rw [looksOf_moment, List.forall_mem_cons] at hclock
    exact ⟨hclock.1, hclock.2, htexts⟩
  · rintro ⟨hnow, hclock, htexts⟩
    refine ⟨?_, htexts⟩
    rw [looksOf_moment, List.forall_mem_cons]
    exact ⟨hnow, hclock⟩

end Views

namespace Dialogue

/-- With these answers the computation ends, and this is its result. -/
def Gives : Dialogue α → List Answered → α → Prop
  | done a, t, b => t = [] ∧ a = b
  | ask q next, t, b => ∃ answer rest, t = ⟨q, answer⟩ :: rest ∧ (next answer).Gives rest b

/-- The queries of a computation in a world, each with its answer. -/
def transcript (world : World σ) : Dialogue α → σ → List Answered
  | done _, _ => []
  | ask q next, s =>
    let (answer, s) := world.answer q s
    ⟨q, answer⟩ :: (next answer).transcript world s

variable {α β : Type} {d : Dialogue α} {f : α → Dialogue β} {t : List Answered} {a : α} {b : β}

theorem gives_transcript (world : World σ) (d : Dialogue α) (s : σ) :
    d.Gives (d.transcript world s) (d.run world s).1 := by
  induction d generalizing s with
  | done a => exact ⟨rfl, rfl⟩
  | ask q next ih =>
    rcases hanswer : world.answer q s with ⟨answer, s'⟩
    refine ⟨answer, (next answer).transcript world s', ?_, ?_⟩
    · simp only [transcript, hanswer]
    · simp only [run, hanswer]
      exact ih answer s'

theorem forall_mem_transcript {p : Answered → Prop} {world : World σ}
    (h : ∀ q s, p ⟨q, (world.answer q s).1⟩) (d : Dialogue α) (s : σ) :
    ∀ x ∈ d.transcript world s, p x := by
  induction d generalizing s with
  | done a => exact List.forall_mem_nil _
  | ask q next ih => exact List.forall_mem_cons.2 ⟨h q s, ih _ _⟩

theorem map_query_transcript (world : World σ) (d : Dialogue α) (s : σ) :
    (d.transcript world s).map Answered.query = d.queries world s := by
  induction d generalizing s with
  | done a => rfl
  | ask q next ih => exact congrArg (q :: ·) (ih _ _)

/-- What is said of all queries is said of those in the transcript. -/
theorem forall_mem_queries_iff {p : Query → Prop} {world : World σ} {d : Dialogue α} {s : σ} :
    (∀ q ∈ d.queries world s, p q) ↔ ∀ x ∈ d.transcript world s, p x.query := by
  rw [← map_query_transcript]
  exact List.forall_mem_map

/-! ### Parts of transcripts -/

theorem gives_pure_iff {a' : α} : (pure a : Dialogue α).Gives t a' ↔ t = [] ∧ a = a' := Iff.rfl

theorem gives_moment_iff {now : Moment} : moment.Gives t now ↔ t = [⟨.moment, now⟩] := by
  constructor
  · rintro ⟨answer, rest, rfl, rfl, rfl⟩
    rfl
  · rintro rfl
    exact ⟨now, [], rfl, rfl, rfl⟩

/-- What follows goes on behind the transcript of what came before. -/
theorem gives_bind_iff :
    (d >>= f).Gives t b ↔ ∃ a t₁ t₂, t = t₁ ++ t₂ ∧ d.Gives t₁ a ∧ (f a).Gives t₂ b := by
  induction d generalizing t with
  | done a =>
    constructor
    · intro h
      exact ⟨a, [], t, rfl, ⟨rfl, rfl⟩, h⟩
    · rintro ⟨a', t₁, t₂, rfl, ⟨rfl, rfl⟩, h⟩
      exact h
  | ask q next ih =>
    constructor
    · rintro ⟨answer, rest, rfl, h⟩
      obtain ⟨a, t₁, t₂, rfl, h₁, h₂⟩ := (ih answer).1 h
      exact ⟨a, ⟨q, answer⟩ :: t₁, t₂, rfl, ⟨answer, t₁, rfl, h₁⟩, h₂⟩
    · rintro ⟨a, t₁, t₂, rfl, ⟨answer, rest, rfl, h₁⟩, h₂⟩
      exact ⟨answer, rest ++ t₂, rfl, (ih answer).2 ⟨a, rest, t₂, rfl, h₁, h₂⟩⟩

theorem gives_moment_bind_iff {f : Moment → Dialogue β} :
    (moment >>= f).Gives t b ↔ ∃ (now : Moment) (rest : List Answered),
      t = ⟨.moment, now⟩ :: rest ∧ (f now).Gives rest b :=
  Iff.rfl

theorem gives_freshId_bind_iff {f : Uuid → Dialogue β} :
    (freshId >>= f).Gives t b ↔ ∃ (id : Uuid) (rest : List Answered),
      t = ⟨.freshId, id⟩ :: rest ∧ (f id).Gives rest b :=
  Iff.rfl

theorem gives_fileExists_bind_iff {path : String} {f : Bool → Dialogue β} :
    (fileExists path >>= f).Gives t b ↔ ∃ (there : Bool) (rest : List Answered),
      t = ⟨.fileExists path, there⟩ :: rest ∧ (f there).Gives rest b :=
  Iff.rfl

theorem gives_readFile_bind_iff {path : String} {f : Except FileError String → Dialogue β} :
    (readFile path >>= f).Gives t b ↔
      ∃ (found : Except FileError String) (rest : List Answered),
        t = ⟨.readFile path, found⟩ :: rest ∧ (f found).Gives rest b :=
  Iff.rfl

theorem gives_writeFile_bind_iff {path content : String} {f : Except FileError Unit → Dialogue β} :
    (writeFile path content >>= f).Gives t b ↔
      ∃ (written : Except FileError Unit) (rest : List Answered),
        t = ⟨.writeFile path content, written⟩ :: rest ∧ (f written).Gives rest b :=
  Iff.rfl

theorem run_liftM_bind {ε : Type} (d : Dialogue α) (f : α → ExceptT ε Dialogue β) :
    ((liftM d : ExceptT ε Dialogue α) >>= f).run = d >>= fun a => (f a).run :=
  ExceptT.run_bind_lift d f

/-- What goes on after something that may fail either fails with it, or goes on from its result. -/
theorem gives_run_bind {ε : Type} {x : ExceptT ε Dialogue α} {f : α → ExceptT ε Dialogue β}
    {outcome : Except ε β} (h : (x >>= f).run.Gives t outcome) :
    (∃ e, x.run.Gives t (.error e) ∧ outcome = .error e) ∨
      ∃ a t₁ t₂, t = t₁ ++ t₂ ∧ x.run.Gives t₁ (.ok a) ∧ (f a).run.Gives t₂ outcome := by
  rw [ExceptT.run_bind] at h
  obtain ⟨first, t₁, t₂, rfl, h₁, h₂⟩ := gives_bind_iff.1 h
  cases first with
  | ok a => exact .inr ⟨a, t₁, t₂, rfl, h₁, h₂⟩
  | error e =>
    obtain ⟨rfl, rfl⟩ := gives_pure_iff.1 h₂
    rw [List.append_nil]
    exact .inl ⟨e, h₁, rfl⟩

theorem run_run_bind {ε : Type} (world : World σ) (x : ExceptT ε Dialogue α)
    (f : α → ExceptT ε Dialogue β) (s : σ) :
    (x >>= f).run.run world s =
      match x.run.run world s with
      | (.ok a, s) => (f a).run.run world s
      | (.error e, s) => (.error e, s) := by
  rw [ExceptT.run_bind, run_bind]
  rcases x.run.run world s with ⟨outcome, s'⟩
  cases outcome <;> rfl

/-- What holds of every query that can be asked holds of those that were. -/
theorem Always.of_gives {p : Query → Prop} (hd : d.Always p) (h : d.Gives t a) :
    ∀ answered ∈ t, p answered.query := by
  induction d generalizing t with
  | done b =>
    obtain ⟨rfl, -⟩ := h
    exact List.forall_mem_nil _
  | ask q next ih =>
    obtain ⟨answer, rest, rfl, h⟩ := h
    exact List.forall_mem_cons.2 ⟨hd.1, ih answer (hd.2 answer) h⟩

theorem Always.forall_mem_queries {p : Query → Prop} (hd : d.Always p) (world : World σ) (s : σ) :
    ∀ q ∈ d.queries world s, p q :=
  forall_mem_queries_iff.2 (hd.of_gives (gives_transcript world d s))

end Dialogue

/-! ### Attempts -/

namespace Attempt

variable {α β : Type}

theorem run_mk_pure_bind (outcome : Except MarketError α) (f : α → Attempt β) :
    ((ExceptT.mk (pure outcome) : Attempt α) >>= f).run =
      match outcome with
      | .ok a => (f a).run
      | .error e => pure (.error e) := by
  cases outcome <;> rfl

end Attempt

/-! ### Closed properties -/

/-- A property of computations that a whole has when its parts have it. -/
structure Dialogue.IsClosed (p : (α : Type) → Dialogue α → Prop) : Prop where
  done {α : Type} (a : α) : p α (Dialogue.done a)
  bind {α β : Type} {d : Dialogue α} {f : α → Dialogue β} (hd : p α d)
    (hf : ∀ a, p β (f a)) : p β (d >>= f)

namespace Dialogue.IsClosed

variable {p : (α : Type) → Dialogue α → Prop} {α β : Type}

theorem mk_pure (h : IsClosed p) (outcome : Except MarketError α) :
    p _ (ExceptT.mk (pure outcome) : Attempt α).run := h.done outcome

theorem pure (h : IsClosed p) (a : α) : p _ (Pure.pure a : Attempt α).run := h.done _

theorem throw (h : IsClosed p) (e : MarketError) : p _ (MonadExcept.throw e : Attempt α).run :=
  h.done _

/-- What follows an attempt is done only where it does not fail. -/
theorem attempt_bind (h : IsClosed p) {attempt : Attempt α} {f : α → Attempt β}
    (hfirst : p _ attempt.run) (hrest : ∀ a, p _ (f a).run) : p _ (attempt >>= f).run := by
  rw [ExceptT.run_bind]
  refine h.bind hfirst fun outcome => ?_
  cases outcome with
  | ok a => exact hrest a
  | error e => exact h.done _

theorem liftM_bind (h : IsClosed p) {d : Dialogue α} {f : α → Attempt β} (hd : p _ d)
    (hrest : ∀ a, p _ (f a).run) : p _ ((liftM d : Attempt α) >>= f).run := by
  rw [Dialogue.run_liftM_bind]
  exact h.bind hd hrest

end Dialogue.IsClosed

theorem Dialogue.isClosed_always (p : Query → Prop) : IsClosed fun _ d => d.Always p where
  done _ := trivial
  bind := Dialogue.Always.bind

end ShopSync
