import ShopSync.MarketplaceId
import ShopSync.Sku

/-!
What can go wrong with an operation on a marketplace.

Each kind of error has a code that programs can rely on, a wording, and two properties: whether it
makes sense to try again, and whether no later call of the same batch can succeed.
-/

namespace ShopSync

/-- Why an operation on a marketplace failed. -/
inductive MarketError where
  /-- Credentials are missing. -/
  | notConfigured (marketplace : MarketplaceId)
  /-- There is no adapter for the marketplace. -/
  | notRegistered (marketplace : MarketplaceId)
  /-- The marketplace rejected the credentials. -/
  | authentication (message : String)
  /-- The marketplace asked for fewer requests. -/
  | rateLimited (message : String)
  /-- The SKU has no listing. -/
  | notFound (sku : Sku)
  /-- The marketplace answered with another error status. -/
  | remote (status : Nat) (body : String)
  /-- There was no usable answer. -/
  | transport (message : String)
  /-- The request was refused before it was sent. -/
  | invalidRequest (message : String)
  /-- The caller cancelled before any work was done. -/
  | cancelled
deriving DecidableEq

namespace MarketError

/-! ### Causes with a wording of their own -/

/-- The status says that the credentials were rejected. -/
def rejectedCredentials (body : String) : MarketError :=
  .authentication s!"credentials rejected: {body}"

/-- The status asks for fewer requests. -/
def tooManyRequests (body : String) : MarketError :=
  .rateLimited s!"rate limited by marketplace: {body}"

/-- No answer came at all. -/
def noAnswer (method url reason : String) : MarketError :=
  .transport s!"{method} {url} failed: {reason}"

/-- An answer was to carry a payload, and carried none. -/
def emptyAnswer (url : String) : MarketError :=
  .transport s!"empty response from GET {url}"

/-- The payload of an answer is not what was asked for. -/
def undecodable : MarketError :=
  .transport "failed to decode response payload: not the expected JSON"

/-! ### Properties -/

/-- The name of the kind of error. -/
def kind : MarketError → String
  | notConfigured _ => "not_configured"
  | notRegistered _ => "not_registered"
  | authentication _ => "authentication"
  | rateLimited _ => "rate_limited"
  | notFound _ => "not_found"
  | remote _ _ => "remote"
  | transport _ => "transport"
  | invalidRequest _ => "invalid_request"
  | cancelled => "cancelled"

/-- The code of the kind of error. -/
def code : MarketError → String
  | notConfigured _ => "marketplace.not_configured"
  | notRegistered _ => "marketplace.not_registered"
  | authentication _ => "marketplace.authentication"
  | rateLimited _ => "marketplace.rate_limited"
  | notFound _ => "marketplace.not_found"
  | remote _ _ => "marketplace.remote_error"
  | transport _ => "marketplace.transport_error"
  | invalidRequest _ => "marketplace.invalid_request"
  | cancelled => "marketplace.cancelled"

/-- The wording of the error. -/
def message : MarketError → String
  | notConfigured marketplace => s!"marketplace '{marketplace.tag}' is not configured"
  | notRegistered marketplace => s!"marketplace adapter '{marketplace.tag}' is not registered"
  | authentication message => message
  | rateLimited message => message
  | notFound sku => s!"no listing found for sku '{sku.text}'"
  | remote status body => s!"API error {status}: {body}"
  | transport message => message
  | invalidRequest message => message
  | cancelled => "operation cancelled before it started"

/-- The status of the answer, where it was an answer that failed. -/
def status? : MarketError → Option Nat
  | authentication _ => some 401
  | rateLimited _ => some 429
  | remote status _ => some status
  | _ => none

/-- Whether the same operation may succeed later. -/
def retryable : MarketError → Bool
  | rateLimited _ => true
  | transport _ => true
  | remote status _ => decide (500 ≤ status)
  | _ => false

/-- Whether no later call of the same batch can succeed. -/
def haltsBatch : MarketError → Bool
  | authentication _ => true
  | notConfigured _ => true
  | _ => false

/-- The wording with the code. -/
def text (e : MarketError) : String :=
  s!"{e.message} ({e.code})"

end MarketError

end ShopSync
