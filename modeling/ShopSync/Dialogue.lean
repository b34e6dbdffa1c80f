import ShopSync.Http.Request
import ShopSync.Http.Response
import ShopSync.Signal
import ShopSync.Uuid

/-!
Computations that talk to the outside.

A `Dialogue` is either done or asks one query and goes on with the answer; it has no other effect.
`run` lets a *world* answer: a state machine with any states, such as a script, a model of a shop,
or an adversary.  `Always` says that every query which can ever be asked has a property, whatever
the answers are.
-/

namespace ShopSync

/-- Why a file could not be read or written. -/
inductive FileError where
  | missing
  | directory
  | notDirectory
  | denied
  | nameTooLong
  | nulInName
  | notText
  | other (message : String)
deriving DecidableEq, Repr

/-- The wording of a file error. -/
def FileError.message : FileError → String
  | missing => "No such file or directory (os error 2)"
  | directory => "Is a directory (os error 21)"
  | notDirectory => "Not a directory (os error 20)"
  | denied => "Permission denied (os error 13)"
  | nameTooLong => "File name too long (os error 36)"
  | nulInName => "file name contained an unexpected NUL byte"
  | notText => "stream did not contain valid UTF-8"
  | other message => message

/-- What can be asked of the outside. -/
inductive Query where
  /-- Send a request and wait for the answer. -/
  | exchange (request : Http.Request)
  /-- Look at the clocks and the cancelled tokens. -/
  | moment
  /-- An identifier that was not used before. -/
  | freshId
  /-- Wait until a budget of requests per second allows the next one. -/
  | pace (perSecond : UInt32)
  | fileExists (path : String)
  | readFile (path : String)
  | writeFile (path content : String)
deriving DecidableEq

/-- The answers to a query. -/
def Query.Answer : Query → Type
  | exchange _ => Except Http.Failure Http.Response
  | moment => Moment
  | freshId => Uuid
  | pace _ => Unit
  | fileExists _ => Bool
  | readFile _ => Except FileError String
  | writeFile _ _ => Except FileError Unit

/-- A computation that asks queries. -/
inductive Dialogue (α : Type) where
  | done (result : α)
  | ask (query : Query) (next : query.Answer → Dialogue α)

namespace Dialogue

/-- Goes on with the result of a computation. -/
def bind (d : Dialogue α) (f : α → Dialogue β) : Dialogue β :=
  match d with
  | done a => f a
  | ask q next => ask q fun answer => (next answer).bind f

instance : Monad Dialogue where
  pure := done
  bind := bind

@[simp] theorem pure_eq (a : α) : (pure a : Dialogue α) = done a := rfl

@[simp] theorem done_bind (a : α) (f : α → Dialogue β) : (done a >>= f) = f a := rfl

@[simp] theorem ask_bind (q : Query) (next : q.Answer → Dialogue α) (f : α → Dialogue β) :
    (ask q next >>= f) = ask q fun answer => next answer >>= f := rfl

theorem bind_done (d : Dialogue α) : (d >>= done) = d := by
  induction d with
  | done a => rfl
  | ask q next ih => simp [ih]

theorem bind_assoc (d : Dialogue α) (f : α → Dialogue β) (g : β → Dialogue γ) :
    (d >>= f >>= g) = (d >>= fun a => f a >>= g) := by
  induction d with
  | done a => rfl
  | ask q next ih => simp [ih]

instance : LawfulMonad Dialogue :=
  LawfulMonad.mk' Dialogue (fun d => bind_done d) (fun _ _ => rfl) (fun d f g => bind_assoc d f g)

/-! ### Asking -/

/-- Sends a request. -/
def exchange (request : Http.Request) : Dialogue (Except Http.Failure Http.Response) :=
  ask (.exchange request) done

/-- Looks at the clocks and the cancelled tokens. -/
def moment : Dialogue Moment := ask .moment done

/-- An identifier that was not used before. -/
def freshId : Dialogue Uuid := ask .freshId done

/-- Waits until a budget of requests per second allows the next one. -/
def pace (perSecond : UInt32) : Dialogue Unit := ask (.pace perSecond) done

def fileExists (path : String) : Dialogue Bool := ask (.fileExists path) done

def readFile (path : String) : Dialogue (Except FileError String) := ask (.readFile path) done

def writeFile (path content : String) : Dialogue (Except FileError Unit) :=
  ask (.writeFile path content) done

/-! ### Worlds -/

end Dialogue

/-- A world that answers queries, as a state machine. -/
structure World (σ : Type) where
  answer : (q : Query) → σ → q.Answer × σ

namespace Dialogue

/-- The result of a computation in a world, and the state it leaves. -/
def run (world : World σ) : Dialogue α → σ → α × σ
  | done a, s => (a, s)
  | ask q next, s =>
    let (a, s) := world.answer q s
    (next a).run world s

/-- The queries of a computation in a world, in order. -/
def queries (world : World σ) : Dialogue α → σ → List Query
  | done _, _ => []
  | ask q next, s =>
    let (a, s) := world.answer q s
    q :: (next a).queries world s

@[simp] theorem run_done (world : World σ) (a : α) (s : σ) : (done a).run world s = (a, s) := rfl

theorem run_bind (world : World σ) (d : Dialogue α) (f : α → Dialogue β) (s : σ) :
    (d >>= f).run world s = (f (d.run world s).1).run world (d.run world s).2 := by
  induction d generalizing s with
  | done a => rfl
  | ask q next ih => exact ih _ _

theorem queries_bind (world : World σ) (d : Dialogue α) (f : α → Dialogue β) (s : σ) :
    (d >>= f).queries world s =
      d.queries world s ++ (f (d.run world s).1).queries world (d.run world s).2 := by
  induction d generalizing s with
  | done a => rfl
  | ask q next ih => exact congrArg (q :: ·) (ih _ _)

/-- Every query that can be asked has the property. -/
def Always (p : Query → Prop) : Dialogue α → Prop
  | done _ => True
  | ask q next => p q ∧ ∀ answer, (next answer).Always p

theorem Always.bind {p : Query → Prop} {d : Dialogue α} {f : α → Dialogue β} (hd : d.Always p)
    (hf : ∀ a, (f a).Always p) : (d >>= f).Always p := by
  induction d with
  | done a => exact hf a
  | ask q next ih => exact ⟨hd.1, fun answer => ih answer (hd.2 answer)⟩

end Dialogue

end ShopSync
