import ShopSync.Json.Decoder
import ShopSync.Timestamp

/-!
Stop signals.

A signal can be cancelled through its token, which copies of the signal share, and it may have a
deadline on a clock that only moves forward.  It is read between the items of a batch; being
cancelled counts before being late.
-/

namespace ShopSync

/-- What a moment shows: the time of day, the milliseconds since the start, and the tokens that
were cancelled. -/
structure Moment where
  wall : Timestamp
  uptime : Nat
  cancelled : List Nat

/-- A stop signal. -/
structure Signal where
  token : Nat
  deadline : Option Nat := none
deriving DecidableEq, Repr

/-- Why a batch stopped before its end. -/
inductive Interruption where
  | cancelled
  | deadlineExceeded
  /-- An error with this code made further calls pointless. -/
  | halted (code : String)
deriving DecidableEq, Repr

namespace Signal

/-- The signal with a deadline some milliseconds from a moment. -/
def withTimeout (signal : Signal) (now : Moment) (milliseconds : Nat) : Signal :=
  { signal with deadline := some (now.uptime + milliseconds) }

/-- The reason to stop, if there is one. -/
def interruption? (signal : Signal) (now : Moment) : Option Interruption :=
  if signal.token ∈ now.cancelled then some .cancelled
  else match signal.deadline with
    | some deadline => if deadline ≤ now.uptime then some .deadlineExceeded else none
    | none => none

/-- Whether there is a reason to stop. -/
def isStopped (signal : Signal) (now : Moment) : Bool :=
  (signal.interruption? now).isSome

end Signal

namespace Interruption

/-- The interruption in words, for warnings. -/
def describe : Interruption → String
  | cancelled => "Cancelled"
  | deadlineExceeded => "DeadlineExceeded"
  | halted code => "Halted \x7b code: \"" ++ code ++ "\" \x7d"

/-- The interruption as JSON: an object whose `reason` says which it is. -/
def toJson : Interruption → Json.Value
  | cancelled => .object [("reason", .string "cancelled")]
  | deadlineExceeded => .object [("reason", .string "deadline_exceeded")]
  | halted code => .object [("reason", .string "halted"), ("code", .string code)]

/-- The members of an object, in order and each with a value. -/
def plainMembers? (room : Nat) (ms : List (Option String × Json.Tree)) :
    Option (List (String × Json.Value)) :=
  ms.mapM fun (key, t) => do
    let key ← key
    let v ← t.value? room
    pure (key, v)

/-- The values of a key. -/
def valuesOf (key : String) (ms : List (String × Json.Value)) : List Json.Value :=
  (ms.filter fun m => m.1 == key).map Prod.snd

/-- The interruption of a reason and the values given for its code. -/
def ofReason? (reason : String) (codes : List Json.Value) : Option Interruption :=
  if reason = "cancelled" then some .cancelled
  else if reason = "deadline_exceeded" then some .deadlineExceeded
  else if reason = "halted" then
    match codes with
    | [.string code] => some (.halted code)
    | _ => none
  else none

/-- Reads an interruption from JSON: an object with its reason and, where it has one, its code; or
an array of these.  All of it is looked at, and the reason may be given once only. -/
def decoder : Json.Decoder Interruption
  | room + 1, .object ms => do
    let ms ← plainMembers? room ms
    match valuesOf "reason" ms with
    | [.string reason] => ofReason? reason (valuesOf "code" ms)
    | _ => none
  | room + 1, .array ts => do
    match ← ts.mapM (Json.Tree.value? room) with
    | [.string "halted", .string code] => some (.halted code)
    | [.string reason] => ofReason? reason []
    | _ => none
  | _, _ => none

end Interruption

end ShopSync
