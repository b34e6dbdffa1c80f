import ShopSync.Keyed

/-!
Requests to a marketplace.  The names of header fields are kept in lower case (only ASCII letters
have another case here), each with one value, so the spelling of a name does not matter.
-/

namespace ShopSync.Http

/-- What a request does. -/
inductive Method where
  | get
  | post
  | patch
  | delete
deriving DecidableEq, Repr

/-- The word of a method. -/
def Method.word : Method → String
  | get => "GET"
  | post => "POST"
  | patch => "PATCH"
  | delete => "DELETE"

/-- How a request shows who sends it. -/
inductive Auth where
  | none
  | bearer (token : String)
  | header (name value : String)
deriving DecidableEq

/-- What may be shown of an authentication: never its secret. -/
def Auth.describe : Auth → String
  | none => "None"
  | bearer _ => "BearerToken(<redacted>)"
  | header name _ => s!"Header({name}: <redacted>)"

/-- How long a request may take unless something else is said, in milliseconds. -/
def defaultTimeoutMs : UInt64 := 60000

/-- A request. -/
structure Request where
  method : Method
  url : String
  headers : List (String × String) := []
  body : Option String := none
  timeoutMs : UInt64 := defaultTimeoutMs
deriving DecidableEq

namespace Request

/-- A request without headers and body. -/
def new (method : Method) (url : String) : Request := { method, url }

/-- The request with a header field set. -/
def withHeader (request : Request) (name value : String) : Request :=
  { request with headers := Keyed.put name.toLower value request.headers }

/-- The request with an authentication. -/
def withAuth (request : Request) : Auth → Request
  | .none => request
  | .bearer token => request.withHeader "authorization" s!"Bearer {token}"
  | .header name value => request.withHeader name value

/-- The request with a body. -/
def withBody (request : Request) (body : String) : Request :=
  { request with body := some body }

/-- The request with another time limit. -/
def withTimeout (request : Request) (timeoutMs : UInt64) : Request :=
  { request with timeoutMs }

/-- The value of a header field. -/
def header? (request : Request) (name : String) : Option String :=
  Keyed.get? name.toLower request.headers

end Request

end ShopSync.Http
