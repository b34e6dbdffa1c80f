import ShopSync.Market.Error
import ShopSync.Text.Truncate

/-!
Answers to requests.  `classify` is the one place where a status becomes an error.
-/

namespace ShopSync.Http

/-- An answer. -/
structure Response where
  status : Nat
  body : String
deriving DecidableEq, Repr

namespace Response

/-- A success with a body. -/
def ok (body : String) : Response := { status := 200, body }

/-- A success that never has a body. -/
def noContent : Response := { status := 204, body := "" }

/-- Whether the status stands for an error. -/
def isError (response : Response) : Bool := decide (400 ≤ response.status)

/-- The payload of a success, if it has one, or the error that the status stands for. -/
def classify (response : Response) : Except MarketError (Option String) :=
  if response.status = 429 then .error (.tooManyRequests response.body)
  else if response.status = 401 then .error (.rejectedCredentials response.body)
  else if response.status = 204 then .ok none
  else if response.isError then .error (.remote response.status response.body)
  else if Text.isBlankText response.body then .ok none
  else .ok (some response.body)

end Response

/-- Why there was no answer. -/
structure Failure where
  message : String
  retryable : Bool := true
deriving DecidableEq, Repr

namespace Failure

/-- The answer did not come in time. -/
def timeout (detail : String) : Failure := { message := s!"request timeout: {detail}" }

/-- Nobody could be reached. -/
def unreachable (detail : String) : Failure := { message := s!"connection failed: {detail}" }

/-- There is no way to send the request, now or later. -/
def invalid (detail : String) : Failure :=
  { message := s!"invalid request: {detail}", retryable := false }

/-- The connection broke before an answer came. -/
def broken (detail : String) : Failure := { message := s!"request failed: {detail}" }

/-- The answer began, and did not come to its end. -/
def unreadable (detail : String) : Failure :=
  { message := s!"failed to read response body: {detail}" }

end Failure

end ShopSync.Http
