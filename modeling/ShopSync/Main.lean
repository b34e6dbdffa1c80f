import ShopSync.Command.Usage
import ShopSync.Http.Transport
import Std.Async.DNS
import Std.Async.Signal
import Std.Async.TCP
import Std.Async.Timer

/-!
The program on the command line.

Everything that is decided is decided by `Command.execute`; here its queries are answered by the
clock, the file system and the network.  Connections are not encrypted, so an address that asks for
encryption cannot be reached.
-/

namespace ShopSync.Outside

open Http (Failure Response Arrival)
open Std.Async (Async AsyncTask)

/-- What the program holds on to while it runs. -/
structure Session where
  /-- The milliseconds on the clock at the start. -/
  start : Nat
  /-- Ends when the user interrupts the program. -/
  interrupt : AsyncTask Int
  pacing : IO.Ref Http.Pacer.State

/-- The token of the signal that the user can cancel. -/
def userToken : Nat := 0

/-! ### Files -/

/-- The cause of a failed operation on a file. -/
def fileError : IO.Error → FileError
  | .noFileOrDirectory .. => .missing
  | .permissionDenied .. => .denied
  | .inappropriateType _ 20 _ => .notDirectory
  | .inappropriateType _ 21 _ => .directory
  | .invalidArgument _ 36 _ => .nameTooLong
  | e => .other (toString e)

/-- The outcome of an operation on a file. -/
def onFile (action : IO α) : IO (Except FileError α) :=
  try return .ok (← action) catch e => return .error (fileError e)

/-- Whether a path holds a NUL, which the system would take for its end. -/
def hasNul (path : String) : Bool := path.contains '\x00'

def fileExists (path : String) : IO Bool := do
  if hasNul path then return false
  match ← onFile (IO.FS.Handle.mk path .read) with
  | .ok _ => return true
  | .error e => return e == .denied

def readFile (path : String) : IO (Except FileError String) := do
  if hasNul path then return .error .nulInName
  match ← onFile (do (← IO.FS.Handle.mk path .read).readBinToEnd) with
  | .ok bytes => return (String.fromUTF8? bytes).elim (.error .notText) .ok
  | .error e => return .error e

def writeFile (path content : String) : IO (Except FileError Unit) :=
  if hasNul path then return .error .nulInName else onFile (IO.FS.writeFile path content)

/-! ### Clocks and chance -/

def moment (session : Session) : IO Moment := do
  let now ← Std.Time.Timestamp.now
  let interrupted ← IO.hasFinished session.interrupt
  return {
    wall := .ofUnixNanos now.toNanosecondsSinceUnixEpoch.toInt.toNat
    uptime := (← IO.monoMsNow) - session.start
    cancelled := if interrupted then [userToken] else [] }

def freshId : IO Uuid := do
  let bytes ← IO.getRandomBytes 16
  return .ofRandomBits (bytes.toList.foldl (fun n b => 256 * n + b.toNat) 0)

def pace (session : Session) (perSecond : UInt32) : IO Unit := do
  let some pacer := Http.Pacer.ofBudget? perSecond | return
  let delay := pacer.delay (← IO.monoNanosNow) (← session.pacing.get)
  IO.sleep (UInt32.ofNat ((delay + 999999) / 1000000))
  if let some state := pacer.take? (← IO.monoNanosNow) (← session.pacing.get) then
    session.pacing.set state

/-! ### Requests -/

/-- Receives an answer from the bytes that have come and those that come. -/
partial def receive (socket : Std.Async.TCP.Socket.Client) (arrival : IO.Ref Arrival)
    (bytes : ByteArray) : Async (Except Failure Response) := do
  let part ← try socket.recv? 65536 catch _ => pure none
  let bytes := bytes ++ part.getD ByteArray.empty
  arrival.set (.ofBytes part.isNone bytes.toList)
  match (← arrival.get).outcome? part.isNone with
  | some outcome => return outcome
  | none => receive socket arrival bytes

/-- Connects to an address. -/
def connect (address : Http.Address) : Async (Except Failure Std.Async.TCP.Socket.Client) := do
  if address.secure then return .error (.unreachable "encryption is not supported")
  try
    let hosts ← Std.Async.DNS.getAddrInfo address.host.bare (toString address.port)
    let some host := hosts[0]? | return .error (.unreachable "the host has no address")
    let socket ← Std.Async.TCP.Socket.Client.mk
    let port := UInt16.ofNat address.port
    socket.connect (match host with
      | .v4 addr => .v4 { addr, port }
      | .v6 addr => .v6 { addr, port })
    return .ok socket
  catch e => return .error (.unreachable (toString e))

/-- Sends a request and receives the answer. -/
def converse (request : Http.Request) (address : Http.Address) (arrival : IO.Ref Arrival) :
    Async (Except Failure Response) := do
  match ← connect address with
  | .error failure => return .error failure
  | .ok socket =>
    try socket.send (request.bytes address)
    catch e => return .error (.broken (toString e))
    receive socket arrival ByteArray.empty

/-- Ends when the time limit of a request is over. -/
def limit (request : Http.Request) (arrival : IO.Ref Arrival) :
    Async (Except Failure Response) := do
  Std.Async.sleep (.ofNat request.timeoutMs.toNat)
  return .error (← arrival.get).late

def exchange (request : Http.Request) : IO (Except Failure Response) := do
  match request.destination with
  | .error failure => return .error failure
  | .ok address =>
    let arrival ← IO.mkRef Arrival.awaited
    have : Inhabited (Except Failure Response) := ⟨.error Arrival.awaited.late⟩
    Async.block (Async.race (converse request address arrival) (limit request arrival))

/-! ### Queries -/

/-- Answers a query. -/
def answer (session : Session) : (q : Query) → IO q.Answer
  | .exchange request => exchange request
  | .moment => moment session
  | .freshId => freshId
  | .pace perSecond => pace session perSecond
  | .fileExists path => fileExists path
  | .readFile path => readFile path
  | .writeFile path content => writeFile path content

/-- Carries out a computation by answering its queries. -/
def perform (session : Session) : Dialogue α → IO α
  | .done result => pure result
  | .ask query next => do perform session (next (← answer session query))

/-- The environment, as far as a configuration can depend on it. -/
def environment : IO (List (String × String)) :=
  (MarketplaceId.all.flatMap Config.variableNames).filterMapM fun name => do
    return (← IO.getEnv name).map (name, ·)

/-- Runs the program; the result is its exit code. -/
def run (args : List String) : IO UInt32 := do
  let interrupt ← (← Std.Async.Signal.Waiter.mk .sigint false).wait
  let session : Session := { start := ← IO.monoMsNow, interrupt, pacing := ← IO.mkRef none }
  let values ← environment
  let outcome ← perform session (Command.execute args (Keyed.get? · values) userToken)
  IO.print outcome.written
  IO.eprint outcome.complaint
  return UInt32.ofNat outcome.exitCode

end ShopSync.Outside

def main (args : List String) : IO UInt32 := ShopSync.Outside.run args
