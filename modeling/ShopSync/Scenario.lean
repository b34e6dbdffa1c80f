import ShopSync.FileTree

/-!
Worlds that follow a script.

A scenario fixes what every query will be answered: replies to requests in order, and one for all
requests past them; clocks that move only while a reply is under way; folders and files; and
identifiers by counting.  It remembers the requests that were sent.
-/

namespace ShopSync

/-- What happens when a request is sent. -/
structure Reply where
  outcome : Except Http.Failure Http.Response
  /-- Whether somebody cancels the running operation before the outcome is known. -/
  cancels : Bool := false
  /-- Milliseconds until the outcome is known. -/
  elapsed : Nat := 0

/-- A world with a script. -/
structure Scenario where
  wall : Timestamp
  replies : List Reply := []
  /-- The reply to a request when the script has ended. -/
  otherwise : Http.Request → Reply
  /-- The requests that were sent, the last one first. -/
  sent : List Http.Request := []
  uptime : Nat := 0
  /-- The token of the running operation. -/
  token : Nat := 0
  cancelled : List Nat := []
  nextId : Uuid
  files : FileTree := {}

namespace Scenario

/-- What a look at the clocks shows. -/
def moment (s : Scenario) : Moment where
  wall := s.wall
  uptime := s.uptime
  cancelled := s.cancelled

/-- The scenario after a reply. -/
def after (s : Scenario) (reply : Reply) : Scenario :=
  { s with
    cancelled := if reply.cancels then s.token :: s.cancelled else s.cancelled
    uptime := s.uptime + reply.elapsed }

/-- Answers a request. -/
def exchange (s : Scenario) (request : Http.Request) :
    Except Http.Failure Http.Response × Scenario :=
  let s := { s with sent := request :: s.sent }
  match s.replies with
  | [] =>
    let reply := s.otherwise request
    (reply.outcome, s.after reply)
  | reply :: replies => (reply.outcome, { s with replies }.after reply)

/-- The world that follows the scenario. -/
def world : World Scenario where
  answer
    | .exchange request, s => s.exchange request
    | .moment, s => (s.moment, s)
    | .freshId, s => (s.nextId, { s with nextId := s.nextId.next })
    | .pace _, s => ((), s)
    | .fileExists path, s => (s.files.has path, s)
    | .readFile path, s => (s.files.read path, s)
    | .writeFile path content, s =>
      match s.files.write path content with
      | .ok files => (.ok (), { s with files })
      | .error e => (.error e, s)

/-- The scenario for another operation, with a token of its own and no request sent. -/
def nextOperation (s : Scenario) : Scenario :=
  { s with sent := [], token := s.token + 1 }

end Scenario

end ShopSync
