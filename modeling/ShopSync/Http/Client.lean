import ShopSync.Dialogue
import ShopSync.Http.Pacer
import ShopSync.Json.Decoder
import ShopSync.Json.Printer

/-!
Authenticated calls to a marketplace.

Every request carries the two credentials, the time limit of the client and, exactly when it has a
body, its content type.  What comes back is classified before anything looks into it.
-/

namespace ShopSync

/-- An operation on a marketplace: it talks to the outside and may fail. -/
abbrev Attempt (α : Type) := ExceptT MarketError Dialogue α

namespace Http

/-- The secrets that every call shows. -/
structure Credentials where
  accessToken : String
  apiKey : String
deriving DecidableEq

namespace Credentials

/-- The authentications of a call. -/
def auths (credentials : Credentials) : List Auth :=
  [.bearer credentials.accessToken, .header "x-api-key" credentials.apiKey]

/-- What may be shown of credentials: nothing. -/
def describe (_ : Credentials) : String := "ApiCredentials(<redacted>)"

end Credentials

/-- A client of one marketplace. -/
structure Client where
  credentials : Credentials
  timeoutMs : UInt64 := defaultTimeoutMs
  pacer : Option Pacer := none
deriving DecidableEq

namespace Client

/-- The request of a call. -/
def request (client : Client) (method : Method) (url : String) (body : Option Json.Value) :
    Request :=
  let bare := (Request.new method url).withTimeout client.timeoutMs
  let signed := client.credentials.auths.foldl Request.withAuth bare
  match body with
  | none => signed
  | some body => (signed.withHeader "content-type" "application/json").withBody body.render

/-- Makes a call and gives the payload of its answer, if there is one. -/
def execute (client : Client) (method : Method) (url : String) (body : Option Json.Value) :
    Attempt (Option String) := do
  if let some pacer := client.pacer then
    Dialogue.pace pacer.perSecond
  match ← Dialogue.exchange (client.request method url body) with
  | .error failure => throw (.noAnswer method.word url failure.message)
  | .ok response => ExceptT.mk (pure response.classify)

/-- The answer of a decoder for a payload. -/
def decoded (d : Json.Decoder α) (payload : String) : Except MarketError α :=
  match Json.Decoder.decode? d payload with
  | some a => .ok a
  | none => .error .undecodable

/-- Gets something; an answer without a payload is an error. -/
def get (client : Client) (url : String) (d : Json.Decoder α) : Attempt α := do
  match ← client.execute .get url none with
  | none => throw (.emptyAnswer url)
  | some payload => ExceptT.mk (pure (decoded d payload))

/-- Sends something, and reads the payload of the answer if there is one. -/
def send (client : Client) (method : Method) (url : String) (body : Json.Value)
    (d : Json.Decoder α) : Attempt (Option α) := do
  match ← client.execute method url (some body) with
  | none => pure none
  | some payload => ExceptT.mk (pure ((decoded d payload).map some))

/-- Looks only at the form of a payload. -/
def anything : Json.Decoder Unit := fun _ _ => some ()

/-- Sends something; a payload that comes back has to be JSON, of whatever kind. -/
def push (client : Client) (method : Method) (url : String) (body : Json.Value) :
    Attempt Unit := do
  let _ ← client.send method url body anything
  pure ()

/-- Deletes something; any success counts, and no payload is looked at. -/
def delete (client : Client) (url : String) : Attempt Unit := do
  let _ ← client.execute .delete url none
  pure ()

/-- The client in words, for diagnostics. -/
def describe (client : Client) : String :=
  let pacer := match client.pacer with
    | none => "None"
    | some pacer => s!"Some({pacer.describe})"
  "RequestExecutor \x7b timeout_ms: " ++ toString client.timeoutMs.toNat ++ ", pacer: " ++ pacer
    ++ ", .. \x7d"

end Client

end Http

end ShopSync
